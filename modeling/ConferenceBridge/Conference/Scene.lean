import ConferenceBridge.Conference.Config
import ConferenceBridge.Conference.Effect
import ConferenceBridge.Conference.Error
import ConferenceBridge.Conference.HostLine
import ConferenceBridge.Conference.Participant
import ConferenceBridge.Conference.Roster

namespace ConferenceBridge

/-! A conference and what surrounds it. -/

structure Conference where
  id : ConferenceId
  config : ConferenceConfig
  host : HostLine
  state : ConnectionState := .new
  cause : Option DisconnectCause := none
  capabilities : Capabilities := .atStart
  tornDown : Bool := false
  /-- The participants that take part, by their place among all participants. -/
  roster : Roster Nat := .empty
  /-- All participants there ever were, oldest first. -/
  participants : List Participant := []

structure Scene where
  conference : Conference
  handle : Handle
  /-- Whether anyone besides the conference holds the handle. -/
  handleHeld : Bool := true
  /-- Whether nobody holds the conference any more. -/
  dropped : Bool := false
  /-- What the call list will do at the next publications. -/
  register : List (List RegisterCall) := []
  /-- All that was seen of the conference so far, newest first. -/
  history : List Effect := []

namespace Scene

def record (effect : Effect) (scene : Scene) : Scene :=
  { scene with history := effect :: scene.history }

def note (notice : ConferenceNotice) : Scene → Scene :=
  record (.noted (.conference notice))

def noteHost (notice : HostNotice) : Scene → Scene :=
  record (.noted (.host notice))

def announce (change : Change) : Scene → Scene :=
  record (.changed change)

def effects (scene : Scene) : List Effect :=
  scene.history.reverse

def effectsAfter (count : Nat) (scene : Scene) : List Effect :=
  (scene.history.take (scene.history.length - count)).reverse

def changes (scene : Scene) : List Change :=
  scene.effects.filterMap Effect.change?

@[simp] theorem effects_record (effect : Effect) (scene : Scene) :
    (scene.record effect).effects = scene.effects ++ [effect] := by
  simp [record, effects]

@[simp] theorem changes_announce (change : Change) (scene : Scene) :
    (scene.announce change).changes = scene.changes ++ [change] := by
  simp [announce, changes, Effect.change?]

@[simp] theorem changes_note (notice : ConferenceNotice) (scene : Scene) :
    (scene.note notice).changes = scene.changes := by
  simp [note, changes, Effect.change?]

@[simp] theorem changes_noteHost (notice : HostNotice) (scene : Scene) :
    (scene.noteHost notice).changes = scene.changes := by
  simp [noteHost, changes, Effect.change?]

@[simp] theorem effectsAfter_zero (scene : Scene) : scene.effectsAfter 0 = scene.effects := by
  simp [effectsAfter, effects]

@[simp] theorem effectsAfter_length (scene : Scene) :
    scene.effectsAfter scene.history.length = [] := by
  simp [effectsAfter]

theorem effectsAfter_eq_drop (count : Nat) (scene : Scene) :
    scene.effectsAfter count = scene.effects.drop count := by
  simp [effectsAfter, effects, List.drop_reverse]

def openOver (id : ConferenceId) (config : ConferenceConfig) (handle : Handle) : Scene :=
  { conference := { id, config, host := .ofHandle handle }
    handle : Scene }
  |>.noteHost (.attached handle.phone)
  |>.note .created

def openOver? (id : ConferenceId) (config : ConferenceConfig) (handle : Handle) :
    Except ConferenceError Scene :=
  match config.validate with
  | .error fault => .error (.ofFault fault)
  | .ok () => .ok (openOver id config handle)

/-! Participants. -/

def participant? (scene : Scene) (number : Nat) : Option Participant :=
  scene.conference.participants[number]?

def settle (number : Nat) (outcome : Participant.Outcome) (scene : Scene) : Scene :=
  let endpoint := outcome.participant.endpoint
  let told := outcome.notices.map (fun notice => .noted (.participant endpoint notice)) ++
    outcome.changes.map Effect.changed
  { scene with
    conference := { scene.conference with
      participants := scene.conference.participants.set number outcome.participant }
    history := told.reverse ++ scene.history }

/-- One operation on a participant, without the conference being told of its destruction. -/
def operate (number : Nat) (operation : Participant.Operation) (scene : Scene) : Scene :=
  match scene.participant? number with
  | none => scene
  | some participant => scene.settle number (participant.perform operation)

def accepts (scene : Scene) (number : Nat) (operation : Participant.Operation) : Bool :=
  (scene.participant? number).any fun participant => (participant.perform operation).accepted

/-- The telephone of a participant: the one that the handle names now, if anyone still holds the
handle. -/
def phone? (scene : Scene) : Option PhoneId :=
  if scene.handleHeld ∨ (scene.conference.host.released = false ∧ scene.dropped = false) then
    some scene.handle.phone
  else none

def account? (scene : Scene) : Option AccountHandle :=
  scene.phone?.map .forPhone

/-! The roster and what depends on it. -/

def setRoster (roster : Roster Nat) (scene : Scene) : Scene :=
  { scene with conference := { scene.conference with roster } }

def refreshManage (scene : Scene) : Scene :=
  let could := scene.conference.capabilities.can .manageConference
  let can := !scene.conference.roster.isEmpty
  let scene := scene.note (.manageChecked could can)
  if could = can then scene
  else
    let capabilities := scene.conference.capabilities.set .manageConference can
    { scene with conference := { scene.conference with capabilities } }
    |>.announce (.capabilities capabilities)

/-- A participant that was destroyed from outside leaves the roster, unless another one has taken
its place there. -/
def forget (number : Nat) (scene : Scene) : Scene :=
  match scene.participant? number with
  | none => scene
  | some participant =>
      match scene.conference.roster.eraseIf? participant.endpoint number with
      | none => scene
      | some roster =>
          scene.setRoster roster
          |>.operate number .detach
          |>.note (.destroyedRemoved participant.endpoint)
          |>.refreshManage

def callParticipant (number : Nat) (call : ParticipantCall) (scene : Scene) : Scene :=
  match scene.participant? number with
  | none => scene
  | some participant =>
      let outcome := participant.perform (.call call)
      let scene := scene.settle number outcome
      if outcome.notifies ∧ scene.dropped = false then scene.forget number else scene

/-- Takes a participant down that has left the roster. It is not shown in the call list. -/
def dismantle (entry : Endpoint × Nat) (scene : Scene) : Scene :=
  scene.operate entry.2 .unobserve
  |>.operate entry.2 .detach
  |>.callParticipant entry.2 (.disconnect .aborted)
  |>.callParticipant entry.2 .destroy
  |>.note (.participantRemoved entry.1)

def dismantleAll (entries : List (Endpoint × Nat)) (scene : Scene) : Scene :=
  entries.foldl (fun scene entry => scene.dismantle entry) scene

def dismissAll (scene : Scene) : Scene × List Endpoint :=
  let entries := scene.conference.roster.entries
  let scene := scene.setRoster .empty
  let scene := if entries.isEmpty then scene else scene.note (.allDismissed entries.length)
  ((scene.dismantleAll entries).refreshManage, entries.map Prod.fst)

/-! The state of the whole conference. -/

def setState (next : ConnectionState) (scene : Scene) : Scene :=
  let previous := scene.conference.state
  if previous = next then scene
  else
    { scene with conference := { scene.conference with state := next } }
    |>.note (.stateChanged previous next)
    |>.announce (.state previous next)

def setDisconnected (cause : DisconnectCause) (scene : Scene) : Scene :=
  if scene.conference.cause.isSome then scene
  else
    { scene with conference := { scene.conference with cause := some cause } }
    |>.note (.disconnected cause)
    |>.setState .disconnected

def releaseHost (scene : Scene) : Scene :=
  let (host, notices) := scene.conference.host.release
  notices.foldl (fun scene notice => scene.noteHost notice)
    { scene with conference := { scene.conference with host } }

/-- Takes the conference down, once: first the participants, then the host. -/
def tearDown (scene : Scene) : Scene :=
  if scene.conference.tornDown then scene
  else
    let scene := { scene with conference := { scene.conference with tornDown := true } }
    scene.dismissAll.1.releaseHost
    |>.note .tornDown
    |>.announce .destroyed

/-- The conference follows its host; before the host is connected it has no state of its own. -/
def applyHostState (state : ConnectionState) (scene : Scene) : Scene :=
  let scene := scene.note (.hostState state)
  match state with
  | .initializing | .new | .ringing | .dialing => scene
  | .active => scene.setState .active
  | .held => scene.setState .held
  | .disconnected =>
      scene.setDisconnected (scene.conference.host.cause scene.handle).disconnectCause
      |>.tearDown

def display (scene : Scene) : String :=
  let conference := scene.conference
  s!"[Konferenz {conference.id.display} zustand={conference.state.name} " ++
    s!"host={conference.host.display} teilnehmer={conference.roster.size}]"

end Scene

end ConferenceBridge
