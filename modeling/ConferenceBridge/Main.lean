import ConferenceBridge.Program

/-! The command line: the settings file is named by an environment variable, and the exit code tells
whether the replay was read to its end. -/

namespace ConferenceBridge.CommandLine

def readPath (path : String) : IO FileContent := do
  try
    let bytes ← IO.FS.readBinFile path
    return .bytes bytes.toList
  catch
    | .noFileOrDirectory .. => return .missing
    | _ => return .unreadable

def readInput : Option String → IO FileContent
  | some path => readPath path
  | none => do
      let bytes ← (← IO.getStdin).readBinToEnd
      return .bytes bytes.toList

def lineCount : FileContent → Nat
  | .bytes bytes => (Text.lines bytes).length
  | _ => 0

def randomIds (count : Nat) : IO (Nat → ConferenceId) := do
  let bytes ← IO.getRandomBytes (USize.ofNat (32 * count))
  return fun index => ConferenceId.ofRandom fun place =>
    ConferenceId.digitOf (bytes.get! (32 * index + place)).toNat

def reportError (error : ProgramError) : IO UInt32 := do
  IO.eprintln s!"Error: {error.message}"
  return 1

def findSurroundings : IO Program.Surroundings := do
  let settingsPath := (← IO.getEnv "CALLBRIDGE_CONFIG").getD "config.toml"
  return {
    settingsPath
    settingsFile := ← readPath settingsPath
    logLevel := ← IO.getEnv "CB_LOG_LEVEL"
    logFormat := ← IO.getEnv "CB_LOG_FORMAT" }

end ConferenceBridge.CommandLine

open ConferenceBridge CommandLine in
def main : IO UInt32 := do
  let surroundings ← findSurroundings
  match Program.plan surroundings with
  | .error error => reportError error
  | .ok plan =>
      let source ← readInput plan.settings.replayFile
      let ids ← randomIds (lineCount source)
      let run := Program.run surroundings plan.settings ids source
      for line in plan.log.lines run.records do
        IO.println line
      match run.result with
      | .ok _ => return 0
      | .error error => reportError error
