import ConferenceBridge.Call.Capabilities
import ConferenceBridge.Call.Cause
import ConferenceBridge.Call.Endpoint
import ConferenceBridge.Call.Identity
import ConferenceBridge.Call.State
import ConferenceBridge.Json.Decoder

namespace ConferenceBridge

/-! JSON forms of values without parts. -/

open Json (Decoded Dialect)

def Json.asEndpoint (value : Json) : Decoded Endpoint := do
  let text ← value.asText
  if h : Text.allBlank text = false then .ok ⟨text, h⟩ else .error (.blankEndpoint text)

theorem Json.asEndpoint_text (endpoint : Endpoint) :
    Json.asEndpoint (.text endpoint.text) = .ok endpoint := by
  simp [Json.asEndpoint, Json.asText, bind, Except.bind, endpoint.notBlank]

namespace ConnectionState

def toJson (state : ConnectionState) : Json :=
  .text state.name

def ofJson (dialect : Dialect) : Json → Decoded ConnectionState :=
  Json.asConstant dialect (all.map fun state => (state.name, state))

@[simp] theorem ofJson_toJson (dialect : Dialect) (state : ConnectionState) :
    ofJson dialect state.toJson = .ok state := by
  cases state <;> rfl

end ConnectionState

namespace SignallingCause

def toJson (cause : SignallingCause) : Json :=
  .text cause.name

def ofJson (dialect : Dialect) : Json → Decoded SignallingCause :=
  Json.asConstant dialect (all.map fun cause => (cause.name, cause))

@[simp] theorem ofJson_toJson (dialect : Dialect) (cause : SignallingCause) :
    ofJson dialect cause.toJson = .ok cause := by
  cases cause <;> rfl

end SignallingCause

namespace DisconnectCause

def toJson (cause : DisconnectCause) : Json :=
  .text cause.name

def ofJson (dialect : Dialect) : Json → Decoded DisconnectCause :=
  Json.asConstant dialect (all.map fun cause => (cause.name, cause))

@[simp] theorem ofJson_toJson (dialect : Dialect) (cause : DisconnectCause) :
    ofJson dialect cause.toJson = .ok cause := by
  cases cause <;> rfl

end DisconnectCause

namespace Capabilities

def toJson (mask : Capabilities) : Json :=
  .ofNat mask.bits.toNat

def ofJson (value : Json) : Decoded Capabilities :=
  Capabilities.mk <$> value.asUInt32

end Capabilities

namespace ConferenceId

def toJson (id : ConferenceId) : Json :=
  .text id.uuid

def ofJson (value : Json) : Decoded ConferenceId := do
  Json.required (ofUuid? (← value.asText))

end ConferenceId

namespace PhoneId

def toJson (phone : PhoneId) : Json :=
  .ofNat phone.number.toNat

def ofJson (value : Json) : Decoded PhoneId :=
  PhoneId.mk <$> value.asUInt32

end PhoneId

namespace AccountHandle

def toJson (account : AccountHandle) : Json :=
  .object [("komponente", .text account.component), ("id", .text account.id)]

structure Draft where
  component : Option String := none
  id : Option String := none

def fields : List (Json.RecordField Draft) :=
  [.of "komponente" Json.asText fun component draft => { draft with component := some component },
    .of "id" Json.asText fun id draft => { draft with id := some id }]

def ofJson (dialect : Dialect) (value : Json) : Decoded AccountHandle := do
  let draft ← value.asRecord dialect fields {}
  return { component := ← Json.required draft.component, id := ← Json.required draft.id }

end AccountHandle

end ConferenceBridge
