import ConferenceBridge.Replay.Server
import ConferenceBridge.Text.Lines

namespace ConferenceBridge.Server

/-! A replay from bytes. A carriage return in front of a line feed is blank and makes no
difference. -/

/-- Takes lines up to the first that is not UTF-8, and says whether all were taken. -/
def takeAll : List (List UInt8) → Server → Server × Bool
  | [], server => (server, true)
  | line :: lines, server =>
      match Text.ofUtf8? line with
      | none => (server, false)
      | some text => takeAll lines (server.take text)

def replay (bytes : List UInt8) (server : Server) : Server × Bool :=
  server.takeAll (Text.lines bytes)

end ConferenceBridge.Server
