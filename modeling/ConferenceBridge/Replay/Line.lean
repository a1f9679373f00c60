import ConferenceBridge.Conference.Command
import ConferenceBridge.Json.Printer
import ConferenceBridge.Wire.Event

namespace ConferenceBridge

/-! The lines of a replay: what a named conference is told, or asked to do. -/

open Json (Decoded Dialect RecordField)

inductive LineAction
  | command (command : HostCommand)
  | split (endpoint : Endpoint)
  deriving DecidableEq, Repr

inductive LineContent
  | event (event : HostEvent)
  | action (action : LineAction)
  deriving DecidableEq, Repr

structure Line where
  conference : String
  content : LineContent
  deriving DecidableEq, Repr

namespace LineAction

def toJson : LineAction → Json
  | command .hangUp => tagged "auflegen" []
  | command .hold => tagged "halten" []
  | command .resume => tagged "fortsetzen" []
  | command (.playTone tone) => tagged "dtmf" [("ton", .text tone.toString)]
  | command .stopTone => tagged "dtmf_stopp" []
  | split endpoint => tagged "abspalten" [("endpoint", .text endpoint.text)]
where
  tagged (tag : String) (rest : List (String × Json)) : Json :=
    .object (("typ", .text tag) :: rest)

inductive Kind
  | hangUp
  | hold
  | resume
  | playTone
  | stopTone
  | split

def kinds : List (String × Kind) :=
  [("auflegen", .hangUp), ("halten", .hold), ("fortsetzen", .resume), ("dtmf", .playTone),
    ("dtmf_stopp", .stopTone), ("abspalten", .split)]

def withoutFields (action : LineAction) (rest : Json) : Decoded LineAction := do
  rest.noFields
  return action

def ofRest : Kind → Json → Decoded LineAction
  | .hangUp, rest => withoutFields (.command .hangUp) rest
  | .hold, rest => withoutFields (.command .hold) rest
  | .resume, rest => withoutFields (.command .resume) rest
  | .playTone, rest => do
      let tone ← rest.asRecord .buffered [.of "ton" Json.asChar fun tone _ => some tone] none
      return .command (.playTone (← Json.required tone))
  | .stopTone, rest => withoutFields (.command .stopTone) rest
  | .split, rest => do
      let endpoint ← rest.asRecord .buffered
        [.of "endpoint" Json.asEndpoint fun endpoint _ => some endpoint] none
      return .split (← Json.required endpoint)

def ofJson (dialect : Dialect) (value : Json) : Decoded LineAction := do
  let (kind, rest) ← value.asTagged dialect "typ" kinds
  ofRest kind rest

end LineAction

namespace LineContent

def member : LineContent → String × Json
  | event reported => ("ereignis", reported.toJson)
  | action wanted => ("aktion", wanted.toJson)

/-- Of several members that could be the content, the first one is. -/
def ofMembers (members : List (String × Json)) : Decoded LineContent :=
  match members.find? fun member => member.1 == "ereignis" || member.1 == "aktion" with
  | none => Json.malformed
  | some (key, value) =>
      if key = "ereignis" then event <$> HostEvent.ofJson .buffered value
      else action <$> LineAction.ofJson .buffered value

end LineContent

namespace Line

def toJson (line : Line) : Json :=
  .object [("konferenz", .text line.conference), line.content.member]

def nameOf (members : List (String × Json)) : Decoded String :=
  match members.filter fun member => member.1 == "konferenz" with
  | [(_, value)] => value.asText
  | _ => Json.malformed

def ofJson : Json → Decoded Line
  | .object members => do
      let conference ← nameOf members
      let content ← LineContent.ofMembers members
      return { conference, content }
  | _ => Json.malformed

def faultMessage : Json.Fault → String
  | .malformed => "ungueltiges JSON"
  | .unknownName name => s!"unbekannter Name: {name}"
  | .blankEndpoint text => (ValueError.endpoint text).message

/-- Nothing for a blank line or a comment. -/
def parse (text : String) : Decoded (Option Line) :=
  match Text.trim text.toList with
  | [] | '#' :: _ => .ok none
  | cs => some <$> Json.decodeWhole ofJson (String.ofList cs)

end Line

end ConferenceBridge
