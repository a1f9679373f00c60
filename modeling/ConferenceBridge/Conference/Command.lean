import ConferenceBridge.Call.Cause
import ConferenceBridge.Call.Error
import ConferenceBridge.Call.Identity
import ConferenceBridge.Conference.Callback
import ConferenceBridge.Event.Host

namespace ConferenceBridge

/-! What a conference asks of the signalling layer, and what that layer answers. -/

inductive HostCommand
  | hangUp
  | hold
  | resume
  | playTone (tone : Char)
  | stopTone
  deriving DecidableEq, Repr

namespace HostCommand

def name : HostCommand → String
  | hangUp => "auflegen"
  | hold => "halten"
  | resume => "fortsetzen"
  | playTone _ => "dtmf_abspielen"
  | stopTone => "dtmf_stoppen"

end HostCommand

/-- What a handle does when it is asked: before it answers, it may report events and go on with
calls to the conference and to participants. -/
structure Answer where
  events : List HostEvent := []
  calls : List RegisterCall := []
  result : Except SignallingError Unit := .ok ()

namespace Answer

def allCalls (answer : Answer) : List RegisterCall :=
  answer.events.map .event ++ answer.calls

end Answer

structure Handle where
  label : String
  phone : PhoneId
  cause : SignallingCause := .unknown
  hasCall : Bool := true
  answer : HostCommand → Answer := fun _ => {}

structure ExternalConnection where
  label : String
  phone : Option (PhoneId × Except SignallingError Unit)

end ConferenceBridge
