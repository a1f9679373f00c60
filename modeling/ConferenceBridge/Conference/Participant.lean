import ConferenceBridge.Conference.Notice
import ConferenceBridge.Event.Conference

namespace ConferenceBridge

/-! One participant of a conference, and what may happen to it. -/

structure Participant where
  endpoint : Endpoint
  displayName : Option String
  userUri : Option String
  state : ConnectionState
  cause : Option DisconnectCause := none
  /-- Whether the conference still lists it. -/
  attached : Bool := true
  destroyed : Bool := false
  /-- Whether the conference is told when it is destroyed. -/
  observed : Bool := true
  deriving DecidableEq, Repr

namespace Participant

def ofSnapshot (snapshot : Snapshot) (initial : ConnectionState) : Participant where
  endpoint := snapshot.endpoint
  displayName := snapshot.displayName
  userUri := snapshot.userUri
  state := initial

def conference? (participant : Participant) (id : ConferenceId) : Option ConferenceId :=
  if participant.attached then some id else none

structure Outcome where
  participant : Participant
  accepted : Bool
  changes : List Change := []
  notices : List ParticipantNotice := []
  /-- Whether the conference has to be told of the destruction. -/
  notifies : Bool := false
  deriving DecidableEq, Repr

def unchanged (participant : Participant) : Outcome where
  participant
  accepted := false

def update (participant : Participant) (next : ConnectionState) : Outcome :=
  if participant.destroyed ∨ participant.state = next then participant.unchanged
  else if participant.state.isFinal then
    { participant.unchanged with notices := [.stateKept next] }
  else
    { participant := { participant with state := next }
      accepted := true
      changes := [.participantState participant.endpoint participant.state next]
      notices := [.stateChanged participant.state next] }

def disconnect (participant : Participant) (cause : DisconnectCause) : Outcome :=
  if participant.destroyed ∨ participant.cause.isSome then participant.unchanged
  else
    { participant := { participant with state := .disconnected, cause := some cause }
      accepted := true
      changes := [.participantDisconnected participant.endpoint cause]
      notices := [.disconnected cause] }

def destroy (participant : Participant) : Outcome :=
  if participant.destroyed then participant.unchanged
  else
    { participant := { participant with destroyed := true, observed := false }
      accepted := true
      notifies := participant.observed }

def unobserve (participant : Participant) : Outcome :=
  if participant.observed then
    { participant := { participant with observed := false }
      accepted := true }
  else participant.unchanged

def detach (participant : Participant) : Outcome :=
  if participant.attached then
    { participant := { participant with attached := false }
      accepted := true
      changes := [.participantRemoved participant.endpoint] }
  else participant.unchanged

inductive Operation
  | call (call : ParticipantCall)
  | unobserve
  | detach
  deriving DecidableEq, Repr

def perform (participant : Participant) : Operation → Outcome
  | .call (.update next) => participant.update next
  | .call (.disconnect cause) => participant.disconnect cause
  | .call .destroy => participant.destroy
  | .unobserve => participant.unobserve
  | .detach => participant.detach

@[simp] theorem endpoint_perform (participant : Participant) (operation : Operation) :
    (participant.perform operation).participant.endpoint = participant.endpoint := by
  unfold perform update disconnect destroy unobserve detach unchanged
  repeat' split
  all_goals rfl

theorem participant_perform_of_not_accepted {participant : Participant} {operation : Operation}
    (h : (participant.perform operation).accepted = false) :
    (participant.perform operation).participant = participant ∧
      (participant.perform operation).changes = [] := by
  revert h
  unfold perform update disconnect destroy unobserve detach unchanged
  repeat' split
  all_goals simp

end Participant

end ConferenceBridge
