namespace ConferenceBridge.Text

/-! Lines of bytes and the texts they stand for. -/

/-- The parts between line feeds; nothing follows the last line feed. -/
def lines (bytes : List UInt8) : List (List UInt8) :=
  let parts := bytes.splitOn 0x0a
  if parts.getLast? = some [] then parts.dropLast else parts

def ofUtf8? (bytes : List UInt8) : Option String :=
  String.fromUTF8? bytes.toByteArray

end ConferenceBridge.Text
