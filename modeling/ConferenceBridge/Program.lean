import ConferenceBridge.Log.Setup
import ConferenceBridge.Replay.Stream
import ConferenceBridge.Settings

namespace ConferenceBridge

/-! The whole program: settings, log, and one replay from a file or from standard input. -/

inductive ProgramError
  | settings (error : Settings.LoadError)
  | log (error : Log.SetupError)
  | conference (error : ConferenceError)
  | replayFile (path : String)
  | directory
  | input
  deriving DecidableEq, Repr

def ProgramError.message : ProgramError → String
  | settings error => error.message
  | log error => error.message
  | conference error => error.message
  | replayFile path => s!"Wiedergabe-Datei '{path}' nicht lesbar"
  | directory => "Is a directory (os error 21)"
  | input => "stream did not contain valid UTF-8"

structure Run where
  records : List Log.Record
  result : Except ProgramError Statistics

namespace Server

open Log in
def startRecord (settings : Settings) : Record :=
  ⟨.info, "callbridge_server", "Server startet",
    [("server_name", .text settings.server.name),
      ("quelle", .quoted (settings.replayFile.getD "stdin"))]⟩

open Log in
def endRecord (server : Server) : Record :=
  ⟨.info, "callbridge_server", "Wiedergabe beendet",
    [("zeilen", .count server.statistics.lines), ("ereignisse", .count server.statistics.events),
      ("aktionen", .count server.statistics.actions),
      ("fehlerhaft", .count server.statistics.faulty),
      ("erstellt", .count server.statistics.created),
      ("abgebaut", .count server.statistics.dismantled), ("offen", .count server.registry.size),
      ("veroeffentlicht", .count server.published)]⟩

def run (settings : Settings) (ids : Nat → ConferenceId) (source : FileContent) : Run :=
  match Server.open? settings.conference settings.server.firstPhone ids with
  | .error error => ⟨[], .error (.conference error)⟩
  | .ok server =>
      let start := startRecord settings
      match source with
      | .missing => ⟨[start], .error (.replayFile (settings.replayFile.getD "stdin"))⟩
      | .unreadable => ⟨[start], .error .directory⟩
      | .bytes bytes =>
          let (server, complete) := server.replay bytes
          let records := start :: server.recordsAfter 0
          if complete then ⟨records ++ [server.endRecord], .ok server.statistics⟩
          else ⟨records, .error .input⟩

end Server

namespace Program

/-- What the program finds when it starts. -/
structure Surroundings where
  settingsPath : String
  settingsFile : FileContent
  /-- These stand before what the settings say about the log. -/
  logLevel : Option String
  logFormat : Option String

structure Plan where
  settings : Settings
  log : Log.Setup

/-- Settings and log, in this order; nothing is written before both are known. -/
def plan (surroundings : Surroundings) : Except ProgramError Plan := do
  let settings ← (Settings.load surroundings.settingsPath surroundings.settingsFile).mapError
    .settings
  let level := surroundings.logLevel.getD settings.log.level
  let format := surroundings.logFormat.getD settings.log.format
  let log ← (Log.setUp false level format).mapError .log
  return { settings, log }

def version : String :=
  "0.1.0"

open Log in
def startRecord (path : String) : Record :=
  ⟨.info, "callbridge_server", "Callbridge Server wird initialisiert",
    [("version", .quoted version), ("config", .text path)]⟩

open Log in
def faultyRecords (statistics : Statistics) : List Record :=
  if statistics.faulty = 0 then []
  else
    [⟨.warn, "callbridge_server", "Wiedergabe mit fehlerhaften Zeilen",
      [("fehlerhaft", .count statistics.faulty)]⟩]

def run (surroundings : Surroundings) (settings : Settings) (ids : Nat → ConferenceId)
    (source : FileContent) : Run :=
  let start := startRecord surroundings.settingsPath
  let run := Server.run settings ids source
  match run.result with
  | .error error => ⟨start :: run.records, .error error⟩
  | .ok statistics => ⟨start :: run.records ++ faultyRecords statistics, .ok statistics⟩

end Program

end ConferenceBridge
