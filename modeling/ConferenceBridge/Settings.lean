import ConferenceBridge.Conference.Error
import ConferenceBridge.Log.Record
import ConferenceBridge.Text.Lines
import ConferenceBridge.Toml.Document
import ConferenceBridge.Wire.Config

namespace ConferenceBridge

/-! The settings of the server, and the file they come from. -/

open Json (Decoded Dialect RecordField)

structure ServerSettings where
  name : String := "Callbridge"
  firstPhone : PhoneId := ⟨1⟩
  deriving DecidableEq, Repr

structure LogSettings where
  level : String := "info"
  format : String := "text"
  deriving DecidableEq, Repr

structure Settings where
  server : ServerSettings := {}
  conference : ConferenceConfig := {}
  log : LogSettings := {}
  replayFile : Option String := none
  deriving DecidableEq, Repr

namespace ServerSettings

def toJson (settings : ServerSettings) : Json :=
  .object [("name", .text settings.name), ("erstes_telefon", settings.firstPhone.toJson)]

def fields : List (RecordField ServerSettings) :=
  [.of "name" Json.asText fun name settings => { settings with name },
    .of "erstes_telefon" PhoneId.ofJson fun firstPhone settings => { settings with firstPhone }]

end ServerSettings

namespace LogSettings

def toJson (settings : LogSettings) : Json :=
  .object [("level", .text settings.level), ("format", .text settings.format)]

def fields : List (RecordField LogSettings) :=
  [.of "level" Json.asText fun level settings => { settings with level },
    .of "format" Json.asText fun format settings => { settings with format }]

end LogSettings

namespace Settings

def toJson (settings : Settings) : Json :=
  .object [("server", settings.server.toJson), ("konferenz", settings.conference.toJson),
    ("logging", settings.log.toJson),
    ("wiedergabe", .object [("datei", .ofOption settings.replayFile)])]

def fields (dialect : Dialect) : List (RecordField Settings) :=
  [.of "server" (Json.asRecord dialect ServerSettings.fields {}) fun server settings =>
      { settings with server },
    .of "konferenz" (ConferenceConfig.ofJson dialect) fun conference settings =>
      { settings with conference },
    .of "logging" (Json.asRecord dialect LogSettings.fields {}) fun log settings =>
      { settings with log },
    .of "wiedergabe"
      (Json.asRecord dialect [.of "datei" Json.asOptionalText fun file _ => file] none)
      fun replayFile settings => { settings with replayFile }]

def ofJson (dialect : Dialect) : Json → Decoded Settings :=
  Json.asRecord dialect (fields dialect) {}

end Settings

inductive FileContent
  | missing
  | unreadable
  | bytes (content : List UInt8)
  deriving DecidableEq, Repr

namespace Settings

inductive LoadError
  | unreadable (path : String)
  | malformed (path : String)
  | invalid (path : String) (fault : ConferenceConfig.Fault)
  deriving DecidableEq, Repr

def LoadError.message : LoadError → String
  | unreadable path => s!"Konfigurationsdatei '{path}' nicht lesbar"
  | malformed path => s!"Konfigurationsfehler in '{path}'"
  | invalid path fault =>
      s!"Konfigurationsfehler in '{path}': {(ConferenceError.ofFault fault).message}"

def ofToml? (text : String) : Option Settings := do
  let value ← Toml.read? text
  (ofJson .table value).toOption

open Log in
def missingRecord (path : String) : Record :=
  ⟨.warn, "callbridge_server::config",
    "Konfigurationsdatei nicht gefunden, verwende Standardwerte", [("pfad", .quoted path)]⟩

/-- The settings in a file, or the usual ones if there is none; they have to be valid. -/
def load (path : String) (content : FileContent) : Except LoadError Settings := do
  let settings ← match content with
    | .missing => .ok {}
    | .unreadable => .error (.unreadable path)
    | .bytes content =>
        match Text.ofUtf8? content with
        | none => .error (.unreadable path)
        | some text =>
            match ofToml? text with
            | none => .error (.malformed path)
            | some settings => .ok settings
  match settings.conference.validate with
  | .error fault => .error (.invalid path fault)
  | .ok () => .ok settings

def loadRecords (path : String) : FileContent → List Log.Record
  | .missing => [missingRecord path]
  | _ => []

end Settings

end ConferenceBridge
