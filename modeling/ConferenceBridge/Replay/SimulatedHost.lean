import ConferenceBridge.Conference.Command
import ConferenceBridge.Log.Record

namespace ConferenceBridge

/-! A handle without a telephone network behind it: it takes every command that makes sense, and
only writes it to the log. -/

structure SimulatedHost where
  name : String
  phone : PhoneId
  cause : SignallingCause := .unknown
  hungUp : Bool := false
  deriving DecidableEq, Repr

namespace SimulatedHost

def isTone (tone : Char) : Bool :=
  tone.isDigit || tone = '*' || tone = '#' || ('A' ≤ tone && tone ≤ 'D')

def answer : HostCommand → Except SignallingError Unit
  | .playTone tone =>
      if isTone tone then .ok () else .error (.state s!"kein DTMF-Ton: {tone}")
  | _ => .ok ()

def perform (command : HostCommand) (host : SimulatedHost) : SimulatedHost :=
  if command = .hangUp then { host with hungUp := true } else host

/-- The host knows the cause of the last disconnect. -/
def hear (host : SimulatedHost) : HostEvent → SimulatedHost
  | .disconnected cause => { host with cause }
  | _ => host

def handle (host : SimulatedHost) : Handle where
  label := host.name
  phone := host.phone
  cause := host.cause
  hasCall := !host.hungUp
  answer command := { result := answer command }

open Log in
def record? (host : SimulatedHost) (command : HostCommand) : Option Record :=
  match command with
  | .playTone tone =>
      if isTone tone then
        some (entry "Signalisierung: DTMF" [("ton", .text tone.toString)])
      else none
  | command =>
      some (entry "Signalisierung"
        [("telefon", .text host.phone.display), ("aktion", .quoted command.name)])
where
  entry (message : String) (fields : List (String × FieldValue)) : Record :=
    ⟨.info, "callbridge_server::simulation", message, ("host", .text host.name) :: fields⟩

end SimulatedHost

end ConferenceBridge
