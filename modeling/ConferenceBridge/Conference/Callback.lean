import ConferenceBridge.Call.Cause
import ConferenceBridge.Call.State
import ConferenceBridge.Event.Host

namespace ConferenceBridge

/-! What others may do to a conference and its participants. -/

inductive ParticipantCall
  | update (next : ConnectionState)
  | disconnect (cause : DisconnectCause)
  | destroy
  deriving DecidableEq, Repr

/-- What the call list does while a participant is handed to it, and the handle while it is asked
for something. -/
inductive RegisterCall
  | event (event : HostEvent)
  | participant (number : Nat) (call : ParticipantCall)
  deriving DecidableEq, Repr

end ConferenceBridge
