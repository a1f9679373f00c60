import ConferenceBridge.Proofs.Conference.Coupling

namespace ConferenceBridge

/-! What becomes of a conference that nobody calls back depends on what it is told, and neither on
its id nor on its host nor on what was seen of it. -/

namespace Conference

/-- The same but for the id, and for the name and telephone of the host. -/
structure Alike (first second : Conference) : Prop where
  config : first.config = second.config
  lastState : first.host.lastState = second.host.lastState
  released : first.host.released = second.host.released
  state : first.state = second.state
  cause : first.cause = second.cause
  capabilities : first.capabilities = second.capabilities
  tornDown : first.tornDown = second.tornDown
  roster : first.roster = second.roster
  participants : first.participants = second.participants

namespace Alike

variable {first second : Conference}

theorem refl (conference : Conference) : conference.Alike conference :=
  ⟨rfl, rfl, rfl, rfl, rfl, rfl, rfl, rfl, rfl⟩

theorem setRoster (h : first.Alike second) (roster : Roster Nat) :
    ({ first with roster } : Conference).Alike { second with roster } :=
  { h with roster := rfl }

theorem setState (h : first.Alike second) (state : ConnectionState) :
    ({ first with state } : Conference).Alike { second with state } :=
  { h with state := rfl }

theorem remember (h : first.Alike second) (state : ConnectionState) :
    ({ first with host := first.host.remember state } : Conference).Alike
      { second with host := second.host.remember state } :=
  { h with lastState := rfl }

theorem disconnect (h : first.Alike second) (cause : DisconnectCause) :
    (first.disconnect cause).Alike (second.disconnect cause) :=
  { h with cause := rfl, state := rfl }

theorem modify (h : first.Alike second) (number : Nat) (change : Participant → Participant) :
    (first.modify number change).Alike (second.modify number change) :=
  { h with participants := congrArg (List.modify · number change) h.participants }

theorem dismantle (h : first.Alike second) (numbers : List Nat) :
    (first.dismantle numbers).Alike (second.dismantle numbers) := by
  induction numbers generalizing first second with
  | nil => exact h
  | cons number numbers ih => exact ih (h.modify number .dismantled)

theorem refreshManage (h : first.Alike second) :
    first.refreshManage.Alike second.refreshManage := by
  have hsame : first.capabilities.can .manageConference = !first.roster.isEmpty ↔
      second.capabilities.can .manageConference = !second.roster.isEmpty := by
    rw [h.capabilities, h.roster]
  unfold Conference.refreshManage
  by_cases hcan : second.capabilities.can .manageConference = !second.roster.isEmpty
  · rw [if_pos (hsame.mpr hcan), if_pos hcan]
    exact h
  · rw [if_neg (mt hsame.mp hcan), if_neg hcan]
    exact { h with capabilities := by rw [h.capabilities, h.roster] }

theorem forget (h : first.Alike second) (number : Nat) :
    (first.forget number).Alike (second.forget number) := by
  unfold Conference.forget
  have hparticipants := congrArg (·[number]?) h.participants
  cases hparticipant : second.participants[number]? with
  | none =>
      simp only [hparticipants, hparticipant]
      exact h
  | some participant =>
      simp only [hparticipants, hparticipant, h.roster]
      split
      · exact h
      · exact ((h.setRoster _).modify number _).refreshManage

theorem call (h : first.Alike second) (number : Nat) (call : ParticipantCall) :
    (first.call number call).Alike (second.call number call) := by
  unfold Conference.call
  rw [h.participants]
  dsimp only
  split
  · exact (h.modify number _).forget number
  · exact h.modify number _

theorem keep (h : first.Alike second) (listed : List Endpoint) :
    (first.keep listed).Alike (second.keep listed) := by
  unfold Conference.keep
  rw [h.roster]
  exact (h.setRoster _).dismantle _

theorem enroll (h : first.Alike second) (entry : Snapshot) (roster : Roster Nat) :
    (first.enroll entry roster).Alike (second.enroll entry roster) :=
  { h with
    roster := rfl
    participants := by
      unfold Conference.enroll
      rw [h.participants, h.config] }

end Alike

end Conference

namespace Scene

variable {scene next first second : Scene} {react : React}

structure Lockstep (first second : Scene) : Prop where
  alike : first.conference.Alike second.conference
  stillOpen : first.conference.tornDown = false
  calm : first.Calm
  otherCalm : second.Calm

namespace Lockstep

theorem refl (hopen : scene.conference.tornDown = false) (hcalm : scene.Calm) :
    scene.Lockstep scene :=
  ⟨.refl _, hopen, hcalm, hcalm⟩

theorem otherOpen (h : first.Lockstep second) : second.conference.tornDown = false :=
  h.alike.tornDown ▸ h.stillOpen

theorem advances {later other : Scene} (h : first.Lockstep second) (hfirst : Advances first later)
    (hsecond : Advances second other) (halike : later.conference.Alike other.conference)
    (hopen : later.conference.tornDown = first.conference.tornDown) : later.Lockstep other where
  alike := halike
  stillOpen := hopen.trans h.stillOpen
  calm := h.calm.advances hfirst
  otherCalm := h.otherCalm.advances hsecond

theorem record (h : first.Lockstep second) (effect other : Effect) :
    (first.record effect).Lockstep (second.record other) :=
  h.advances ((Advances.refl first).record effect) ((Advances.refl second).record other) h.alike rfl

theorem setState (h : first.Lockstep second) (state : ConnectionState) :
    (first.setState state).Lockstep (second.setState state) := by
  refine h.advances (routine_setState state first).advances (routine_setState state second).advances
    ?_ ?_
  · rw [conference_setState, conference_setState]
    exact h.alike.setState state
  · rw [conference_setState]

theorem setDisconnected (h : first.Lockstep second) (cause : DisconnectCause) :
    (first.setDisconnected cause).Lockstep (second.setDisconnected cause) := by
  have hcauses := h.alike.cause
  cases hcause : first.conference.cause with
  | some earlier =>
      rw [hcause] at hcauses
      rw [setDisconnected_of_cause (by simp [hcause]), setDisconnected_of_cause (by simp [← hcauses])]
      exact h
  | none =>
      rw [hcause] at hcauses
      refine h.advances (advances_setDisconnected cause first)
        (advances_setDisconnected cause second) ?_ ?_
      · rw [conference_setDisconnected hcause, conference_setDisconnected hcauses.symm]
        exact h.alike.disconnect cause
      · rw [conference_setDisconnected hcause]

theorem remember (h : first.Lockstep second) (state : ConnectionState) :
    (first.remember state).Lockstep (second.remember state) where
  alike := h.alike.remember state
  stillOpen := h.stillOpen
  calm := ⟨h.calm.silent, h.calm.held⟩
  otherCalm := ⟨h.otherCalm.silent, h.otherCalm.held⟩

theorem abreast (h : first.Lockstep second) :
    first.Abreast (fun scene copy => scene.conference.Alike copy.conference) second :=
  ⟨h.alike, h.stillOpen, h.otherOpen, h.calm, h.otherCalm⟩

end Lockstep

theorem coupling_alike : Coupling fun first second => first.conference.Alike second.conference where
  roster h := h.roster
  participants h := h.participants
  note h _ _ := h
  welcome h _ := h
  call h number call := by
    rw [conference_callParticipant h.calm.held, conference_callParticipant h.otherCalm.held]
    exact h.related.call number call
  keep h listed := by
    rw [conference_keep, conference_keep]
    exact h.keep listed
  refreshManage h := by
    rw [conference_refreshManage, conference_refreshManage]
    exact h.refreshManage
  enroll h entry roster := h.enroll entry roster

end Scene

def HostEvent.isEnding : HostEvent → Bool
  | .destroyed => true
  | .stateChanged code => code == 6
  | _ => false

theorem HostEvent.isEnding_of_ofCode? {code : Int32}
    (h : ConnectionState.ofCode? code = some .disconnected) :
    (stateChanged code).isEnding = true := by
  unfold ConnectionState.ofCode? at h
  have hcode := List.find?_some h
  exact beq_iff_eq.mpr (beq_iff_eq.mp hcode).symm

namespace Scene

variable {scene first second : Scene}

namespace Lockstep

theorem reconcileWith {react other : React} (h : first.Lockstep second)
    (hidle : ∀ scene, react [] scene = scene) (hother : ∀ scene, other [] scene = scene)
    (entries : List Snapshot) :
    (first.reconcileWith react entries).1.Lockstep (second.reconcileWith other entries).1 := by
  obtain ⟨hscenes, -⟩ := h.abreast.reconcileWith coupling_alike hidle hother entries
  exact ⟨hscenes.related, hscenes.stillOpen, hscenes.calm, hscenes.otherCalm⟩

theorem process (h : first.Lockstep second) {event : HostEvent} (hgoes : event.isEnding = false) :
    (first.process event).Lockstep (second.process event) := by
  unfold Scene.process processWith
  rw [h.stillOpen, h.otherOpen]
  simp only [Bool.false_eq_true, if_false]
  cases event with
  | stateChanged code =>
      cases hcode : ConnectionState.ofCode? code with
      | none =>
          simp only [hcode]
          exact h.record _ _
      | some state =>
          simp only [hcode]
          have hnoted := (h.remember state).record (.noted (.conference (.hostState state)))
            (.noted (.conference (.hostState state)))
          cases state with
          | active | held => exact hnoted.setState _
          | disconnected =>
              rw [HostEvent.isEnding_of_ofCode? hcode] at hgoes
              cases hgoes
          | _ => exact hnoted
  | disconnected cause => exact h.setDisconnected cause.disconnectCause
  | destroyed => cases hgoes
  | participantsChanged entries =>
      exact (h.record _ _).reconcileWith (reactAt_nil _) (reactAt_nil _) entries

end Lockstep

theorem Calm.process (h : scene.Calm) (hopen : scene.conference.tornDown = false)
    (event : HostEvent) :
    (scene.process event).Calm ∧ (scene.process event).conference.tornDown = event.isEnding := by
  cases hending : event.isEnding with
  | false =>
      have hprocessed := (Lockstep.refl hopen h).process hending
      exact ⟨hprocessed.calm, hprocessed.stillOpen⟩
  | true =>
      cases event with
      | destroyed =>
          have hended : scene.process .destroyed = (scene.note .hostDestroyed).tearDown := by
            simp [Scene.process, processWith, hopen]
          rw [hended, conference_tearDown]
          exact ⟨h.advances (((Advances.refl scene).record _).trans (advances_tearDown _)),
            Conference.tornDown_tearDown _⟩
      | stateChanged code =>
          obtain rfl : code = 6 := beq_iff_eq.mp hending
          have hremembered : (scene.remember .disconnected).Calm := ⟨h.silent, h.held⟩
          rw [process_stateChanged_six hopen]
          refine ⟨hremembered.advances (advances_applyHostState _ _), ?_⟩
          simp only [applyHostState, conference_tearDown]
          exact Conference.tornDown_tearDown _
      | disconnected cause => cases hending
      | participantsChanged entries => cases hending

structure Untouched (scene next : Scene) : Prop where
  conference : next.conference = scene.conference
  advances : Advances scene next

theorem Untouched.record {next : Scene} (h : scene.Untouched next) (effect : Effect) :
    scene.Untouched (next.record effect) :=
  ⟨h.conference, h.advances.record effect⟩

theorem untouched_pass (scene : Scene)
    (hidle : ∀ command, (scene.handle.answer command).allCalls = [])
    (command : HostCommand) : scene.Untouched (scene.pass command).1 := by
  have hsame : scene.Untouched scene := ⟨rfl, .refl scene⟩
  unfold Scene.pass
  split
  · exact hsame.record _
  · simp only [hidle, List.foldl_nil]
    exact (hsame.record _).record _

theorem untouched_act (scene : Scene)
    (hidle : ∀ command, (scene.handle.answer command).allCalls = [])
    (action : UserAction) : scene.Untouched (scene.act action).1 := by
  have hsame : scene.Untouched scene := ⟨rfl, .refl scene⟩
  cases action with
  | command command =>
      simp only [Scene.act, Scene.command]
      split
      · have hasked := hsame.record (.noted (.conference .hangUpAsked))
        have hpassed := untouched_pass (scene.note .hangUpAsked) hidle command
        exact ⟨hpassed.conference, hasked.advances.trans hpassed.advances⟩
      · exact untouched_pass scene hidle command
  | split endpoint => exact hsame.record _
  | merge connection =>
      simp only [Scene.act, Scene.merge]
      split
      · exact hsame.record _
      · split
        · exact (hsame.record _).record _
        · exact (hsame.record _).record _
  | offer connection => exact hsame.record _

end Scene

end ConferenceBridge
