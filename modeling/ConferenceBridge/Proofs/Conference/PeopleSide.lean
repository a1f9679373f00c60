import ConferenceBridge.Proofs.Conference.HostReport

namespace ConferenceBridge

/-! The participants' side of a conference: the roster, everyone who ever took part, and what the
conference can do with them. As long as nobody is called back, this side depends on lists, on calls to
participants and on the end, and on nothing else that the host reports. -/

namespace Scene

/-- What the subscribers hear of participants and capabilities. -/
def peopleChanges (scene : Scene) : List Change :=
  scene.changes.filter fun change => !change.isAboutHost

structure SamePeople (first second : Scene) : Prop where
  config : first.conference.config = second.conference.config
  tornDown : first.conference.tornDown = second.conference.tornDown
  capabilities : first.conference.capabilities = second.conference.capabilities
  roster : first.conference.roster = second.conference.roster
  participants : first.conference.participants = second.conference.participants
  dropped : first.dropped = second.dropped
  told : first.peopleChanges = second.peopleChanges

variable {first second third scene next : Scene}

theorem peopleChanges_eq_of_changes_eq (h : next.changes = scene.changes) :
    next.peopleChanges = scene.peopleChanges :=
  congrArg (List.filter fun change : Change => !change.isAboutHost) h

theorem peopleChanges_announce (change : Change) (scene : Scene) :
    (scene.announce change).peopleChanges =
      if change.isAboutHost then scene.peopleChanges else scene.peopleChanges ++ [change] := by
  rw [peopleChanges, changes_announce, List.filter_append]
  cases hchange : change.isAboutHost <;> simp [peopleChanges, hchange]

theorem changes_settle (number : Nat) (outcome : Participant.Outcome) (scene : Scene) :
    (scene.settle number outcome).changes = scene.changes ++ outcome.changes := by
  have heffects : (scene.settle number outcome).effects = scene.effects ++ outcome.told := by
    simp [settle, effects, Participant.Outcome.told]
  rw [changes, heffects, List.filterMap_append, outcome.changes_told, changes]

namespace SamePeople

theorem refl (scene : Scene) : scene.SamePeople scene :=
  ⟨rfl, rfl, rfl, rfl, rfl, rfl, rfl⟩

theorem symm (h : first.SamePeople second) : second.SamePeople first :=
  ⟨h.config.symm, h.tornDown.symm, h.capabilities.symm, h.roster.symm, h.participants.symm,
    h.dropped.symm, h.told.symm⟩

theorem trans (h : first.SamePeople second) (hthen : second.SamePeople third) :
    first.SamePeople third :=
  ⟨h.config.trans hthen.config, h.tornDown.trans hthen.tornDown,
    h.capabilities.trans hthen.capabilities, h.roster.trans hthen.roster,
    h.participants.trans hthen.participants, h.dropped.trans hthen.dropped, h.told.trans hthen.told⟩

theorem participant?_eq (h : first.SamePeople second) (number : Nat) :
    first.participant? number = second.participant? number :=
  congrArg (·[number]?) h.participants

theorem of_conference_eq (hconference : next.conference = scene.conference)
    (hdropped : next.dropped = scene.dropped) (hchanges : next.changes = scene.changes) :
    next.SamePeople scene := by
  refine ⟨?_, ?_, ?_, ?_, ?_, hdropped, peopleChanges_eq_of_changes_eq hchanges⟩
  all_goals rw [hconference]

theorem noted (notice : ConferenceNotice) (scene : Scene) : (scene.note notice).SamePeople scene :=
  .of_conference_eq rfl rfl (changes_note notice scene)

theorem note (h : first.SamePeople second) (notice other : ConferenceNotice) :
    (first.note notice).SamePeople (second.note other) :=
  (noted notice first).trans (h.trans (noted other second).symm)

theorem announce (h : first.SamePeople second) (change : Change) :
    (first.announce change).SamePeople (second.announce change) where
  config := h.config
  tornDown := h.tornDown
  capabilities := h.capabilities
  roster := h.roster
  participants := h.participants
  dropped := h.dropped
  told := by rw [peopleChanges_announce, peopleChanges_announce, h.told]

theorem setRoster (h : first.SamePeople second) (roster : Roster Nat) :
    (first.setRoster roster).SamePeople (second.setRoster roster) :=
  ⟨h.config, h.tornDown, h.capabilities, rfl, h.participants, h.dropped, h.told⟩

theorem setCapabilities (h : first.SamePeople second) (capabilities : Capabilities) :
    SamePeople { first with conference := { first.conference with capabilities } }
      { second with conference := { second.conference with capabilities } } :=
  ⟨h.config, h.tornDown, rfl, h.roster, h.participants, h.dropped, h.told⟩

theorem settle (h : first.SamePeople second) (number : Nat) (outcome : Participant.Outcome) :
    (first.settle number outcome).SamePeople (second.settle number outcome) where
  config := h.config
  tornDown := h.tornDown
  capabilities := h.capabilities
  roster := h.roster
  participants := congrArg (List.set · number outcome.participant) h.participants
  dropped := h.dropped
  told := by
    rw [peopleChanges, changes_settle, List.filter_append, peopleChanges, changes_settle,
      List.filter_append]
    exact congrArg (· ++ _) h.told

theorem operate (h : first.SamePeople second) (number : Nat) (operation : Participant.Operation) :
    (first.operate number operation).SamePeople (second.operate number operation) := by
  unfold Scene.operate
  rw [h.participant?_eq]
  split
  · exact h
  · exact h.settle number _

theorem refreshManage (h : first.SamePeople second) :
    first.refreshManage.SamePeople second.refreshManage := by
  have hcan : (!first.conference.roster.isEmpty) = !second.conference.roster.isEmpty := by
    rw [h.roster]
  simp only [Scene.refreshManage, conference_note]
  rw [h.capabilities, hcan]
  split
  · exact h.note _ _
  · exact ((h.note _ _).setCapabilities _).announce _

theorem forget (h : first.SamePeople second) (number : Nat) :
    (first.forget number).SamePeople (second.forget number) := by
  unfold Scene.forget
  rw [h.participant?_eq, h.roster]
  split
  · exact h
  · split
    · exact h
    · exact (((h.setRoster _).operate number .detach).note _ _).refreshManage

theorem callParticipant (h : first.SamePeople second) (number : Nat) (call : ParticipantCall) :
    (first.callParticipant number call).SamePeople (second.callParticipant number call) := by
  unfold Scene.callParticipant
  rw [h.participant?_eq]
  split
  · exact h
  · rename_i participant _
    have hsettled := h.settle number (participant.perform (.call call))
    simp only [hsettled.dropped]
    split
    · exact hsettled.forget number
    · exact hsettled

theorem dismantle (h : first.SamePeople second) (entry : Endpoint × Nat) :
    (first.dismantle entry).SamePeople (second.dismantle entry) :=
  ((((h.operate entry.2 .unobserve).operate entry.2 .detach).callParticipant entry.2
    (.disconnect .aborted)).callParticipant entry.2 .destroy).note _ _

theorem dismantleAll (h : first.SamePeople second) (entries : List (Endpoint × Nat)) :
    (first.dismantleAll entries).SamePeople (second.dismantleAll entries) := by
  induction entries generalizing first second with
  | nil => exact h
  | cons entry entries ih => exact ih (h.dismantle entry)

theorem keep (h : first.SamePeople second) (listed : List Endpoint) :
    (first.keep listed).SamePeople (second.keep listed) := by
  unfold Scene.keep
  rw [h.roster]
  exact (h.setRoster _).dismantleAll _

theorem dismissAll (h : first.SamePeople second) :
    first.dismissAll.1.SamePeople second.dismissAll.1 := by
  unfold Scene.dismissAll
  rw [h.roster]
  refine refreshManage (dismantleAll ?_ _)
  split
  · exact h.setRoster .empty
  · exact (h.setRoster .empty).note _ _

theorem enroll (h : first.SamePeople second) (entry : Snapshot) (roster : Roster Nat) :
    (first.enroll entry roster).SamePeople (second.enroll entry roster) where
  config := h.config
  tornDown := h.tornDown
  capabilities := h.capabilities
  roster := rfl
  participants := by
    simp only [Scene.enroll, Conference.enroll]
    rw [h.participants, h.config]
  dropped := h.dropped
  told := by
    rw [peopleChanges_eq_of_changes_eq (changes_enroll entry roster first), h.told,
      peopleChanges_eq_of_changes_eq (changes_enroll entry roster second)]

end SamePeople

theorem coupling_samePeople : Coupling SamePeople where
  roster h := h.roster
  participants h := h.participants
  note h := h.note
  welcome h endpoint := h.announce (.participantAdded endpoint)
  call h := h.related.callParticipant
  keep h := h.keep
  refreshManage h := h.refreshManage
  enroll h := h.enroll

/-! What the host reports before the end does nothing to the participants. -/

theorem samePeople_remember (state : ConnectionState) (scene : Scene) :
    (scene.remember state).SamePeople scene :=
  ⟨rfl, rfl, rfl, rfl, rfl, rfl, rfl⟩

theorem peopleChanges_setState (next : ConnectionState) (scene : Scene) :
    (scene.setState next).peopleChanges = scene.peopleChanges := by
  rw [peopleChanges, changes_setState]
  split
  · rfl
  · rw [List.filter_append]
    exact List.append_nil _

theorem samePeople_setState (next : ConnectionState) (scene : Scene) :
    (scene.setState next).SamePeople scene := by
  refine ⟨?_, ?_, ?_, ?_, ?_, (routine_setState next scene).advances.dropped_eq,
    peopleChanges_setState next scene⟩
  all_goals rw [conference_setState]

theorem samePeople_setDisconnected (cause : DisconnectCause) (scene : Scene) :
    (scene.setDisconnected cause).SamePeople scene := by
  cases hcause : scene.conference.cause with
  | some earlier =>
      rw [setDisconnected_of_cause (by simp [hcause])]
      exact .refl scene
  | none =>
      refine ⟨?_, ?_, ?_, ?_, ?_, (advances_setDisconnected cause scene).dropped_eq, ?_⟩
      all_goals try rw [conference_setDisconnected hcause]
      rw [peopleChanges_eq_of_changes_eq (changes_setDisconnected hcause cause),
        peopleChanges_setState]

theorem samePeople_applyHostState {state : ConnectionState} (hgoes : state ≠ .disconnected)
    (scene : Scene) : (scene.applyHostState state).SamePeople scene := by
  have hnoted := SamePeople.noted (.hostState state) scene
  cases state with
  | active | held => exact (samePeople_setState _ _).trans hnoted
  | disconnected => exact absurd rfl hgoes
  | _ => exact hnoted

theorem samePeople_process {event : HostEvent} (hlisting : event.isListing = false)
    (hgoes : event.isEnding = false) (scene : Scene) : (scene.process event).SamePeople scene := by
  unfold process processWith
  split
  · exact .noted _ scene
  · cases event with
    | stateChanged code =>
        cases hcode : ConnectionState.ofCode? code with
        | none =>
            simp only [hcode]
            exact .noted _ scene
        | some state =>
            have hstate : state ≠ .disconnected := by
              rintro rfl
              rw [HostEvent.isEnding_of_ofCode? hcode] at hgoes
              cases hgoes
            simp only [hcode]
            exact (samePeople_applyHostState hstate _).trans (samePeople_remember state scene)
    | disconnected cause => exact samePeople_setDisconnected _ scene
    | destroyed => cases hgoes
    | participantsChanged entries => cases hlisting

/-! All ends are the same to them. -/

theorem samePeople_releaseHost (scene : Scene) : scene.releaseHost.SamePeople scene := by
  simp only [releaseHost, HostLine.release]
  split
  · exact ⟨rfl, rfl, rfl, rfl, rfl, rfl, rfl⟩
  · exact ⟨rfl, rfl, rfl, rfl, rfl, rfl, peopleChanges_eq_of_changes_eq (changes_noteHost _ _)⟩

theorem SamePeople.tearDown (h : first.SamePeople second) :
    first.tearDown.SamePeople second.tearDown := by
  have hflags := h.tornDown
  cases hopen : first.conference.tornDown with
  | true =>
      rw [hopen] at hflags
      rw [tearDown_of_tornDown hopen, tearDown_of_tornDown hflags.symm]
      exact h
  | false =>
      rw [hopen] at hflags
      have hflagged : first.flagged.SamePeople second.flagged :=
        ⟨h.config, rfl, h.capabilities, h.roster, h.participants, h.dropped, h.told⟩
      have hreleased := (samePeople_releaseHost _).trans
        (hflagged.dismissAll.trans (samePeople_releaseHost _).symm)
      simp only [Scene.tearDown, hopen, ← hflags, Bool.false_eq_true, if_false]
      exact (hreleased.note .tornDown .tornDown).announce .destroyed

theorem SamePeople.applyHostState_disconnected (h : first.SamePeople second) :
    (first.applyHostState .disconnected).SamePeople second.tearDown := by
  have hnoted : (first.note (.hostState .disconnected)).SamePeople second :=
    (SamePeople.noted _ first).trans h
  exact ((samePeople_setDisconnected _ _).trans hnoted).tearDown

theorem SamePeople.process_ending (h : first.SamePeople second) {event : HostEvent}
    (hends : event.isEnding = true) : (first.process event).SamePeople second.tearDown := by
  have hflags := h.tornDown
  cases hopen : first.conference.tornDown with
  | true =>
      rw [hopen] at hflags
      rw [process_of_tornDown hopen, tearDown_of_tornDown hflags.symm]
      exact (noted _ first).trans h
  | false =>
      cases event with
      | destroyed =>
          simp only [Scene.process, processWith, hopen, Bool.false_eq_true, if_false]
          exact ((noted .hostDestroyed first).trans h).tearDown
      | stateChanged code =>
          obtain rfl : code = 6 := beq_iff_eq.mp hends
          rw [process_stateChanged_six hopen]
          exact ((samePeople_remember .disconnected first).trans h).applyHostState_disconnected
      | disconnected cause => cases hends
      | participantsChanged entries => cases hends

theorem SamePeople.reconcileWith {react other : React} (h : first.SamePeople second)
    (hcalm : first.Calm) (hotherCalm : second.Calm) (hidle : ∀ scene, react [] scene = scene)
    (hother : ∀ scene, other [] scene = scene) (entries : List Snapshot) :
    (first.reconcileWith react entries).1.SamePeople (second.reconcileWith other entries).1 ∧
      (first.reconcileWith react entries).2 = (second.reconcileWith other entries).2 := by
  have hflags := h.tornDown
  cases hopen : first.conference.tornDown with
  | true =>
      rw [hopen] at hflags
      simp only [Scene.reconcileWith, hopen, ← hflags, if_true]
      exact ⟨h.note _ _, trivial⟩
  | false =>
      rw [hopen] at hflags
      have habreast : first.Abreast SamePeople second := ⟨h, hopen, hflags.symm, hcalm, hotherCalm⟩
      obtain ⟨hafter, hresult⟩ := habreast.reconcileWith coupling_samePeople hidle hother entries
      exact ⟨hafter.related, hresult⟩

theorem SamePeople.process_listing (h : first.SamePeople second) (hcalm : first.Calm)
    (hotherCalm : second.Calm) (entries : List Snapshot) :
    (first.process (.participantsChanged entries)).SamePeople
      (second.process (.participantsChanged entries)) := by
  unfold Scene.process processWith
  rw [h.tornDown]
  split
  · exact h.note _ _
  · exact ((h.note _ _).reconcileWith (hcalm.advances ((Advances.refl first).record _))
      (hotherCalm.advances ((Advances.refl second).record _)) (reactAt_nil _) (reactAt_nil _)
      entries).1

end Scene

end ConferenceBridge
