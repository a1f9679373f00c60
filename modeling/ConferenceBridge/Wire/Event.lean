import ConferenceBridge.Event.Conference
import ConferenceBridge.Event.Host
import ConferenceBridge.Wire.Scalar

namespace ConferenceBridge

/-! JSON forms of what the host reports and of what a conference tells. -/

open Json (Decoded Dialect RecordField)

namespace Snapshot

def optionalMember (key : String) : Option String → List (String × Json)
  | none => []
  | some text => [(key, .text text)]

def toJson (snapshot : Snapshot) : Json :=
  .object <|
    [("endpoint", .text snapshot.endpoint.text), ("zustand", snapshot.state.toJson)] ++
      optionalMember "anzeigename" snapshot.displayName ++
      optionalMember "benutzer_uri" snapshot.userUri

structure Draft where
  endpoint : Option Endpoint := none
  state : Option ConnectionState := none
  displayName : Option String := none
  userUri : Option String := none

def fields (dialect : Dialect) : List (RecordField Draft) :=
  [.of "endpoint" Json.asEndpoint fun endpoint draft => { draft with endpoint := some endpoint },
    .of "zustand" (ConnectionState.ofJson dialect) fun state draft =>
      { draft with state := some state },
    .of "anzeigename" Json.asOptionalText fun displayName draft => { draft with displayName },
    .of "benutzer_uri" Json.asOptionalText fun userUri draft => { draft with userUri }]

def ofJson (dialect : Dialect) (value : Json) : Decoded Snapshot := do
  let draft ← value.asRecord dialect (fields dialect) {}
  let endpoint ← Json.required draft.endpoint
  let state ← Json.required draft.state
  return { endpoint, state, displayName := draft.displayName, userUri := draft.userUri }

end Snapshot

namespace HostEvent

def toJson (event : HostEvent) : Json :=
  .object (("typ", .text event.name) :: rest)
where
  rest : List (String × Json) :=
    match event with
    | stateChanged code => [("code", .ofInt code.toInt)]
    | disconnected cause => [("grund", cause.toJson)]
    | destroyed => []
    | participantsChanged participants =>
        [("teilnehmer", .array (participants.map Snapshot.toJson))]

inductive Kind
  | stateChanged
  | disconnected
  | destroyed
  | participantsChanged

def kinds : List (String × Kind) :=
  [("zustand_geaendert", .stateChanged), ("getrennt", .disconnected), ("zerstoert", .destroyed),
    ("teilnehmer_geaendert", .participantsChanged)]

/-- A disconnect without a cause has an unknown one. -/
def ofRest : Kind → Json → Decoded HostEvent
  | .stateChanged, rest => do
      let code ← rest.asRecord .buffered [.of "code" Json.asInt32 fun code _ => some code] none
      stateChanged <$> Json.required code
  | .disconnected, rest => do
      let cause ← rest.asRecord .buffered
        [.of "grund" (SignallingCause.ofJson .buffered) fun cause _ => cause] .unknown
      return disconnected cause
  | .destroyed, rest => do
      rest.noFields
      return destroyed
  | .participantsChanged, rest => do
      let participants ← rest.asRecord .buffered
        [.of "teilnehmer" (Json.asList (Snapshot.ofJson .buffered))
          fun participants _ => some participants] none
      participantsChanged <$> Json.required participants

def ofJson (dialect : Dialect) (value : Json) : Decoded HostEvent := do
  let (kind, rest) ← value.asTagged dialect "typ" kinds
  ofRest kind rest

end HostEvent

namespace Change

def name : Change → String
  | participantAdded _ => "TeilnehmerHinzugefuegt"
  | participantState .. => "TeilnehmerZustandGeaendert"
  | participantDisconnected .. => "TeilnehmerGetrennt"
  | participantRemoved _ => "TeilnehmerEntfernt"
  | capabilities _ => "FaehigkeitenGeaendert"
  | state .. => "ZustandGeaendert"
  | destroyed => "KonferenzZerstoert"

def details : Change → List (String × Json)
  | participantAdded endpoint | participantRemoved endpoint => [("endpoint", .text endpoint.text)]
  | participantState endpoint previous next =>
      [("endpoint", .text endpoint.text), ("alt", previous.toJson), ("neu", next.toJson)]
  | participantDisconnected endpoint cause =>
      [("endpoint", .text endpoint.text), ("grund", cause.toJson)]
  | capabilities mask => [("faehigkeiten", mask.toJson)]
  | state previous next => [("alt", previous.toJson), ("neu", next.toJson)]
  | destroyed => []

end Change

namespace ConferenceEvent

def toJson (event : ConferenceEvent) : Json :=
  .object [(event.change.name,
    .object (("konferenz_id", event.conference.toJson) :: event.change.details))]

structure Draft where
  conference : Option ConferenceId := none
  endpoint : Option Endpoint := none
  previous : Option ConnectionState := none
  next : Option ConnectionState := none
  cause : Option DisconnectCause := none
  mask : Option Capabilities := none

def conferenceField : RecordField Draft :=
  .of "konferenz_id" ConferenceId.ofJson fun id draft => { draft with conference := some id }

def endpointField : RecordField Draft :=
  .of "endpoint" Json.asEndpoint fun endpoint draft => { draft with endpoint := some endpoint }

def previousField : RecordField Draft :=
  .of "alt" (ConnectionState.ofJson .direct) fun state draft =>
    { draft with previous := some state }

def nextField : RecordField Draft :=
  .of "neu" (ConnectionState.ofJson .direct) fun state draft =>
    { draft with next := some state }

def causeField : RecordField Draft :=
  .of "grund" (DisconnectCause.ofJson .direct) fun cause draft => { draft with cause := some cause }

def maskField : RecordField Draft :=
  .of "faehigkeiten" Capabilities.ofJson fun mask draft => { draft with mask := some mask }

/-- What an event of one name consists of. -/
structure Kind where
  fields : List (RecordField Draft)
  change : Draft → Decoded Change

def kinds : List (String × Kind) :=
  [("TeilnehmerHinzugefuegt",
      ⟨[endpointField], fun draft => .participantAdded <$> Json.required draft.endpoint⟩),
    ("TeilnehmerZustandGeaendert",
      ⟨[endpointField, previousField, nextField], fun draft =>
        return .participantState (← Json.required draft.endpoint)
          (← Json.required draft.previous) (← Json.required draft.next)⟩),
    ("TeilnehmerGetrennt",
      ⟨[endpointField, causeField], fun draft =>
        return .participantDisconnected (← Json.required draft.endpoint)
          (← Json.required draft.cause)⟩),
    ("TeilnehmerEntfernt",
      ⟨[endpointField], fun draft => .participantRemoved <$> Json.required draft.endpoint⟩),
    ("FaehigkeitenGeaendert",
      ⟨[maskField], fun draft => .capabilities <$> Json.required draft.mask⟩),
    ("ZustandGeaendert",
      ⟨[previousField, nextField], fun draft =>
        return .state (← Json.required draft.previous) (← Json.required draft.next)⟩),
    ("KonferenzZerstoert", ⟨[], fun _ => .ok .destroyed⟩)]

def ofJson : Json → Decoded ConferenceEvent
  | .object ((name, content) :: others) => do
      let kind ← Json.lookup kinds name
      let draft ← content.asRecord .direct (conferenceField :: kind.fields) {}
      let conference ← Json.required draft.conference
      let change ← kind.change draft
      if others.isEmpty then return { conference, change } else Json.malformed
  | _ => Json.malformed

end ConferenceEvent

end ConferenceBridge
