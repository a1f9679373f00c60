import ConferenceBridge.Call.Capabilities
import ConferenceBridge.Call.Cause
import ConferenceBridge.Call.Endpoint
import ConferenceBridge.Call.Identity
import ConferenceBridge.Call.State

namespace ConferenceBridge

/-! What a conference tells its subscribers. -/

inductive Change
  | participantAdded (endpoint : Endpoint)
  | participantState (endpoint : Endpoint) (previous next : ConnectionState)
  | participantDisconnected (endpoint : Endpoint) (cause : DisconnectCause)
  | participantRemoved (endpoint : Endpoint)
  | capabilities (mask : Capabilities)
  | state (previous next : ConnectionState)
  | destroyed
  deriving DecidableEq, Repr

structure ConferenceEvent where
  conference : ConferenceId
  change : Change
  deriving DecidableEq, Repr

namespace Change

def endpoint? : Change → Option Endpoint
  | participantAdded endpoint | participantState endpoint _ _
  | participantDisconnected endpoint _ | participantRemoved endpoint => some endpoint
  | capabilities _ | state _ _ | destroyed => none

end Change

end ConferenceBridge
