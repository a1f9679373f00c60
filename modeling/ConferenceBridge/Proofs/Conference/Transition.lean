import ConferenceBridge.Proofs.Conference.Step

namespace ConferenceBridge

/-! What the steps of a scene do to the conference alone, as long as someone holds it. -/

namespace Conference

inductive Transition : Conference → Conference → Prop
  | enroll {roster : Roster Nat} (entry : Snapshot) (hopen : conference.tornDown = false)
      (habsent : conference.roster.insertIfAbsent entry.endpoint
        conference.participants.length = .stored roster) :
      Transition conference (conference.enroll entry roster)
  | call (number : Nat) (call : ParticipantCall) :
      Transition conference (conference.call number call)
  | keep (listed : List Endpoint) (hopen : conference.tornDown = false) :
      Transition conference (conference.keep listed)
  | dismiss (htorn : conference.tornDown = true) : Transition conference conference.dismissAll
  | refreshManage : Transition conference conference.refreshManage
  | remember (state : ConnectionState) :
      Transition conference { conference with host := conference.host.remember state }
  | setState (state : ConnectionState) (hstate : state ≠ .disconnected) :
      Transition conference { conference with state }
  | disconnect (cause : DisconnectCause) (hfirst : conference.cause = none) :
      Transition conference (conference.disconnect cause)
  | tearDown : Transition conference conference.tearDown

abbrev Evolves : Conference → Conference → Prop :=
  Relation.ReflTransGen Transition

theorem Evolves.preserves {P : Conference → Prop}
    (htransition : ∀ {conference next}, Transition conference next → P conference → P next)
    (h : Evolves conference next) (hconference : P conference) : P next := by
  induction h with
  | refl => exact hconference
  | tail _ hlast ih => exact htransition hlast ih

end Conference

namespace Scene

theorem evolves_setDisconnected (cause : DisconnectCause) (scene : Scene) :
    scene.conference.Evolves (scene.setDisconnected cause).conference := by
  cases hcause : scene.conference.cause with
  | none =>
      rw [conference_setDisconnected hcause]
      exact .single (.disconnect cause hcause)
  | some first =>
      rw [setDisconnected_of_cause (by simp [hcause])]

theorem evolves_applyHostState (state : ConnectionState) (scene : Scene) :
    scene.conference.Evolves (scene.applyHostState state).conference := by
  cases state with
  | active | held =>
      simp only [applyHostState, conference_setState, conference_note]
      exact .single (.setState _ (by decide))
  | disconnected =>
      simp only [applyHostState, conference_tearDown]
      exact (evolves_setDisconnected _ (scene.note _)).tail .tearDown
  | _ => exact .refl

theorem Step.evolves (hstep : Step scene next) (hheld : scene.dropped = false) :
    scene.conference.Evolves next.conference := by
  cases hstep with
  | remark effect heffect => exact .refl
  | surroundings handle register => exact .refl
  | enroll entry hopen habsent => exact .single (.enroll entry hopen habsent)
  | welcome endpoint => exact .refl
  | call number call =>
      rw [conference_callParticipant hheld]
      exact .single (.call number call)
  | keep listed hopen =>
      rw [conference_keep]
      exact .single (.keep listed hopen)
  | dismiss htorn =>
      rw [conference_dismissAll]
      exact .single (.dismiss htorn)
  | refreshManage =>
      rw [conference_refreshManage]
      exact .single .refreshManage
  | remember state => exact .single (.remember state)
  | follow state => exact evolves_applyHostState state scene
  | disconnect cause => exact evolves_setDisconnected cause scene
  | tearDown =>
      rw [conference_tearDown]
      exact .single .tearDown

theorem Reaches.evolves (hreach : Reaches scene next) (hheld : scene.dropped = false) :
    scene.conference.Evolves next.conference := by
  apply hreach.preserves (P := fun later => scene.conference.Evolves later.conference) _ hheld .refl
  intro middle later hstep hmiddle hevolves
  exact hevolves.trans (hstep.evolves hmiddle)

/-! Runs of a new conference. -/

theorem changes_openOver (id : ConferenceId) (config : ConferenceConfig) (handle : Handle) :
    (openOver id config handle).changes = [] := rfl

theorem eq_openOver_of_openOver? {id : ConferenceId} {config : ConferenceConfig} {handle : Handle}
    {start : Scene} (h : openOver? id config handle = .ok start) :
    start = openOver id config handle ∧ config.validate = .ok () := by
  unfold openOver? at h
  split at h
  · cases h
  · rename_i hvalid
    cases h
    exact ⟨rfl, hvalid⟩

theorem dropped_run {id : ConferenceId} {config : ConferenceConfig} {handle : Handle}
    {start : Scene} (hopen : openOver? id config handle = .ok start) (requests : List Request) :
    (start.run requests).dropped = false := by
  obtain ⟨rfl, -⟩ := eq_openOver_of_openOver? hopen
  exact Reaches.dropped_eq (reaches_run requests (openOver id config handle))

theorem evolves_run {id : ConferenceId} {config : ConferenceConfig} {handle : Handle}
    {start : Scene} (hopen : openOver? id config handle = .ok start) (requests : List Request) :
    Conference.Evolves { id, config, host := .ofHandle handle }
      (start.run requests).conference := by
  obtain ⟨rfl, -⟩ := eq_openOver_of_openOver? hopen
  exact Reaches.evolves (reaches_run requests (openOver id config handle)) rfl

def fresh : Scene :=
  openOver .nil {} { label := "host", phone := ⟨1⟩ }

theorem openOver?_fresh :
    openOver? .nil {} { label := "host", phone := ⟨1⟩ } = .ok fresh := rfl

end Scene

end ConferenceBridge
