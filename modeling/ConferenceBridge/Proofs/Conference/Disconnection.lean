import ConferenceBridge.Proofs.Conference.Frame
import ConferenceBridge.Proofs.Conference.Permanence

namespace ConferenceBridge

/-! When a conference is disconnected. It follows its host, which may become active or be held
again after a disconnection; what was seen of the conference tells whether that happened. -/

namespace Effect

def isDisconnection : Effect → Bool
  | .noted (.conference (.disconnected _)) => true
  | _ => false

def isRevival : Effect → Bool
  | .noted (.conference (.hostState .active)) | .noted (.conference (.hostState .held)) => true
  | _ => false

def isSteady : Effect → Bool
  | .noted (.conference (.disconnected _)) | .noted (.conference (.hostState _)) => false
  | _ => true

theorem isSteady_of_isRoutine {effect : Effect} (h : effect.isRoutine = true) :
    effect.isSteady = true := by
  revert h
  unfold isRoutine isSteady
  repeat' split
  all_goals simp_all

theorem any_isDisconnection_of_steady {told : List Effect}
    (h : ∀ effect ∈ told, effect.isSteady = true) : told.any isDisconnection = false := by
  rw [List.any_eq_false]
  intro effect heffect
  have hsteady := h effect heffect
  unfold isSteady at hsteady
  unfold isDisconnection
  split <;> simp_all

theorem any_isRevival_of_steady {told : List Effect}
    (h : ∀ effect ∈ told, effect.isSteady = true) : told.any isRevival = false := by
  rw [List.any_eq_false]
  intro effect heffect
  have hsteady := h effect heffect
  unfold isSteady at hsteady
  unfold isRevival
  split <;> simp_all

/-- After a disconnection the host was active or held again. -/
def Revived (effects : List Effect) : Prop :=
  ∃ before after, effects = before ++ after ∧ before.any isDisconnection = true ∧
    after.any isRevival = true

theorem Revived.any {effects : List Effect} (h : Revived effects) :
    effects.any isDisconnection = true ∧ effects.any isRevival = true := by
  obtain ⟨before, after, rfl, hbefore, hafter⟩ := h
  simp [hbefore, hafter]

theorem revived_append {first second : List Effect} :
    Revived (first ++ second) ↔
      Revived first ∨ (first.any isDisconnection = true ∧ second.any isRevival = true) ∨
        Revived second := by
  constructor
  · rintro ⟨before, after, heq, hbefore, hafter⟩
    rcases List.append_eq_append_iff.mp heq with ⟨rest, rfl, rfl⟩ | ⟨rest, rfl, rfl⟩
    · rw [List.any_append, Bool.or_eq_true] at hbefore
      rcases hbefore with hfirst | hrest
      · exact .inr (.inl ⟨hfirst, by simp [hafter]⟩)
      · exact .inr (.inr ⟨rest, after, rfl, hrest, hafter⟩)
    · rw [List.any_append, Bool.or_eq_true] at hafter
      rcases hafter with hrest | hsecond
      · exact .inl ⟨before, rest, rfl, hbefore, hrest⟩
      · exact .inr (.inl ⟨by simp [hbefore], hsecond⟩)
  · rintro (⟨before, after, rfl, hbefore, hafter⟩ | ⟨hfirst, hsecond⟩ |
      ⟨before, after, rfl, hbefore, hafter⟩)
    · exact ⟨before, after ++ second, by simp, hbefore, by simp [hafter]⟩
    · exact ⟨first, second, rfl, hfirst, hsecond⟩
    · exact ⟨first ++ before, after, by simp, by simp [hbefore], hafter⟩

end Effect

namespace Scene

theorem tells_isSteady_setState (next : ConnectionState) (scene : Scene) :
    Tells Effect.isSteady scene (scene.setState next) :=
  (routine_setState next scene).tells.weaken Effect.isSteady_of_isRoutine

theorem tells_isSteady_enroll (entry : Snapshot) (roster : Roster Nat) (scene : Scene) :
    Tells Effect.isSteady scene (scene.enroll entry roster) :=
  ⟨_, effects_enroll entry roster scene, by simp [Effect.isSteady]⟩

theorem tells_isSteady_tearDown (scene : Scene) : Tells Effect.isSteady scene scene.tearDown := by
  cases hflag : scene.conference.tornDown with
  | true =>
      rw [tearDown_of_tornDown hflag]
      exact .of_effects_eq rfl
  | false =>
      obtain ⟨last, htells, heffects⟩ := effects_tearDown hflag
      exact (htells.weaken Effect.isSteady_of_isRoutine).trans
        ⟨[.changed .destroyed], heffects, by simp [Effect.isSteady]⟩

/-- What a conference that follows its host makes of what was seen so far. -/
structure Outlook (scene : Scene) : Prop where
  cause : scene.conference.cause.isSome = scene.effects.any Effect.isDisconnection
  state : scene.conference.state = .disconnected ↔
    scene.effects.any Effect.isDisconnection = true ∧ ¬ Effect.Revived scene.effects

theorem Outlook.of_told {scene next : Scene} (h : scene.Outlook) {told : List Effect}
    (heffects : next.effects = scene.effects ++ told)
    (hdisconnection : told.any Effect.isDisconnection = false)
    (hrevival : told.any Effect.isRevival = false)
    (hstate : next.conference.state = scene.conference.state)
    (hcause : next.conference.cause = scene.conference.cause) : next.Outlook := by
  have hrevived : Effect.Revived next.effects ↔ Effect.Revived scene.effects := by
    rw [heffects, Effect.revived_append, hrevival]
    constructor
    · rintro (hbefore | ⟨-, habsurd⟩ | htold)
      · exact hbefore
      · cases habsurd
      · have habsurd := htold.any.1
        rw [hdisconnection] at habsurd
        cases habsurd
    · exact .inl
  have hany : next.effects.any Effect.isDisconnection =
      scene.effects.any Effect.isDisconnection := by
    rw [heffects, List.any_append, hdisconnection, Bool.or_false]
  constructor
  · rw [hcause, h.cause, hany]
  · rw [hstate, h.state, hany, hrevived]

theorem Outlook.steady {scene next : Scene} (h : scene.Outlook)
    (hsteady : Tells Effect.isSteady scene next)
    (hstate : next.conference.state = scene.conference.state)
    (hcause : next.conference.cause = scene.conference.cause) : next.Outlook := by
  obtain ⟨told, heffects, htold⟩ := hsteady
  exact h.of_told heffects (Effect.any_isDisconnection_of_steady htold)
    (Effect.any_isRevival_of_steady htold) hstate hcause

theorem Outlook.tearDown {scene : Scene} (h : scene.Outlook) : scene.tearDown.Outlook := by
  apply h.steady (tells_isSteady_tearDown scene)
  · rw [conference_tearDown, Conference.state_tearDown]
  · rw [conference_tearDown, Conference.cause_tearDown]

theorem Outlook.setDisconnected {scene : Scene} (h : scene.Outlook) (cause : DisconnectCause) :
    (scene.setDisconnected cause).Outlook := by
  cases hcause : scene.conference.cause with
  | some first =>
      rw [setDisconnected_of_cause (by simp [hcause])]
      exact h
  | none =>
      obtain ⟨told, heffects, htold⟩ :=
        (tells_setDisconnected hcause cause).weaken Effect.isSteady_of_isRoutine
      rw [note, effects_record, List.append_assoc] at heffects
      have hnever : scene.effects.any Effect.isDisconnection = false := by
        rw [← h.cause, hcause]
        rfl
      have hsteady : told.any Effect.isRevival = false := Effect.any_isRevival_of_steady htold
      have hany : (scene.setDisconnected cause).effects.any Effect.isDisconnection = true := by
        rw [heffects]
        simp [Effect.isDisconnection]
      have hrevived : ¬ Effect.Revived (scene.setDisconnected cause).effects := by
        rw [heffects, Effect.revived_append]
        rintro (hbefore | ⟨hbefore, -⟩ | hafter)
        · have habsurd := hbefore.any.1
          rw [hnever] at habsurd
          cases habsurd
        · rw [hnever] at hbefore
          cases hbefore
        · have habsurd := hafter.any.2
          rw [List.singleton_append, List.any_cons, hsteady] at habsurd
          cases habsurd
      constructor
      · rw [hany, conference_setDisconnected hcause]
        rfl
      · rw [conference_setDisconnected hcause]
        exact ⟨fun _ => ⟨hany, hrevived⟩, fun _ => rfl⟩

theorem Outlook.revive {scene : Scene} (h : scene.Outlook) {state : ConnectionState}
    (hrevival : (Effect.noted (.conference (.hostState state))).isRevival = true)
    (hstate : state ≠ .disconnected) :
    ((scene.note (.hostState state)).setState state).Outlook := by
  obtain ⟨told, heffects, htold⟩ := tells_isSteady_setState state (scene.note (.hostState state))
  rw [note, effects_record, List.append_assoc] at heffects
  have hany : ((scene.note (.hostState state)).setState state).effects.any Effect.isDisconnection =
      scene.effects.any Effect.isDisconnection := by
    rw [note, heffects]
    simp [Effect.any_isDisconnection_of_steady htold, Effect.isDisconnection]
  constructor
  · rw [hany, conference_setState, ← h.cause]
    rfl
  · rw [hany, conference_setState]
    refine ⟨fun heq => absurd heq hstate, ?_⟩
    rintro ⟨hdisconnected, hnever⟩
    refine absurd ?_ hnever
    rw [note, heffects]
    exact Effect.revived_append.mpr (.inr (.inl ⟨hdisconnected, by simp [hrevival]⟩))

theorem Outlook.applyHostState {scene : Scene} (h : scene.Outlook) (state : ConnectionState) :
    (scene.applyHostState state).Outlook := by
  have hnote : state ≠ .active → state ≠ .held → (scene.note (.hostState state)).Outlook := by
    intro hactive hheld
    refine h.of_told (effects_record _ scene) rfl ?_ rfl rfl
    cases state with
    | active => exact absurd rfl hactive
    | held => exact absurd rfl hheld
    | _ => rfl
  cases state with
  | active => exact h.revive rfl (by decide)
  | held => exact h.revive rfl (by decide)
  | disconnected => exact ((hnote (by decide) (by decide)).setDisconnected _).tearDown
  | _ => exact hnote (by decide) (by decide)

theorem Step.outlook (hstep : Step scene next) (hheld : scene.dropped = false)
    (h : scene.Outlook) : next.Outlook := by
  cases hstep.course hheld with
  | quiet hquiet =>
      exact h.steady (hquiet.tells.weaken Effect.isSteady_of_isRoutine) hquiet.frame.state
        hquiet.frame.cause
  | enroll entry hopen => exact h.steady (tells_isSteady_enroll entry _ scene) rfl rfl
  | follow state => exact h.applyHostState state
  | disconnect cause => exact h.setDisconnected cause
  | tearDown => exact h.tearDown

theorem Reaches.outlook (hreach : Reaches scene next) (hheld : scene.dropped = false)
    (h : scene.Outlook) : next.Outlook :=
  hreach.preserves Step.outlook hheld h

def hangUp : Effect :=
  .noted (.conference (.hostState .disconnected))

theorem Tells.hangUp_mem {scene next : Scene} (hsteady : Tells Effect.isSteady scene next)
    (h : hangUp ∈ next.effects) : hangUp ∈ scene.effects := by
  obtain ⟨told, heffects, htold⟩ := hsteady
  rw [heffects, List.mem_append] at h
  rcases h with hbefore | hmem
  · exact hbefore
  · cases htold _ hmem

theorem hangUp_mem_setDisconnected {cause : DisconnectCause} {scene : Scene}
    (h : hangUp ∈ (scene.setDisconnected cause).effects) : hangUp ∈ scene.effects := by
  cases hcause : scene.conference.cause with
  | some first =>
      rw [setDisconnected_of_cause (by simp [hcause])] at h
      exact h
  | none =>
      have hnote := ((tells_setDisconnected hcause cause).weaken
        Effect.isSteady_of_isRoutine).hangUp_mem h
      rw [note, effects_record, List.mem_append, List.mem_singleton] at hnote
      exact hnote.resolve_right (by simp [hangUp])

theorem isSome_cause_setDisconnected (cause : DisconnectCause) (scene : Scene) :
    (scene.setDisconnected cause).conference.cause.isSome = true := by
  cases hcause : scene.conference.cause with
  | some first =>
      rw [setDisconnected_of_cause (by simp [hcause]), hcause]
      rfl
  | none =>
      rw [conference_setDisconnected hcause]
      rfl

theorem ended_applyHostState (scene : Scene) :
    (scene.applyHostState .disconnected).conference.tornDown = true ∧
      (scene.applyHostState .disconnected).conference.cause.isSome = true := by
  simp only [applyHostState, conference_tearDown]
  refine ⟨Conference.tornDown_tearDown _, ?_⟩
  rw [Conference.cause_tearDown]
  exact isSome_cause_setDisconnected _ _

theorem state_applyHostState (scene : Scene) :
    (scene.applyHostState .disconnected).conference.state =
      if scene.conference.cause.isSome then scene.conference.state else .disconnected := by
  simp only [applyHostState, conference_tearDown, Conference.state_tearDown]
  cases hcause : scene.conference.cause with
  | some first =>
      rw [setDisconnected_of_cause (by simp [hcause])]
      rfl
  | none =>
      rw [conference_setDisconnected (by simp [hcause])]
      rfl

theorem Step.hangUp_mem (hstep : Step scene next) (hheld : scene.dropped = false)
    (h : hangUp ∈ next.effects) :
    hangUp ∈ scene.effects ∨
      (next.conference.tornDown = true ∧ next.conference.cause.isSome = true) := by
  cases hstep.course hheld with
  | quiet hquiet => exact .inl ((hquiet.tells.weaken Effect.isSteady_of_isRoutine).hangUp_mem h)
  | enroll entry hopen => exact .inl ((tells_isSteady_enroll entry _ scene).hangUp_mem h)
  | follow state =>
      cases state with
      | disconnected => exact .inr (ended_applyHostState scene)
      | active | held =>
          have hnote := (tells_isSteady_setState _ (scene.note (.hostState _))).hangUp_mem h
          rw [note, effects_record, List.mem_append, List.mem_singleton] at hnote
          exact .inl (hnote.resolve_right (by simp [hangUp]))
      | _ =>
          rw [applyHostState, note, effects_record, List.mem_append, List.mem_singleton] at h
          exact .inl (h.resolve_right (by simp [hangUp]))
  | disconnect cause => exact .inl (hangUp_mem_setDisconnected h)
  | tearDown => exact .inl ((tells_isSteady_tearDown scene).hangUp_mem h)

theorem Step.ended_of_hangUp (hstep : Step scene next) (hheld : scene.dropped = false)
    (hbefore : hangUp ∈ scene.effects →
      scene.conference.tornDown = true ∧ scene.conference.cause.isSome = true)
    (h : hangUp ∈ next.effects) :
    next.conference.tornDown = true ∧ next.conference.cause.isSome = true := by
  rcases hstep.hangUp_mem hheld h with hmem | hended
  · obtain ⟨htorn, hcause⟩ := hbefore hmem
    have hcontinues := (hstep.evolves hheld).continues
    refine ⟨hcontinues.tornDown htorn, ?_⟩
    rw [hcontinues.cause hcause]
    exact hcause
  · exact hended

/-- A conference whose host reported its disconnection is taken down and knows a cause. -/
theorem Reaches.ended_of_hangUp (hreach : Reaches scene next) (hheld : scene.dropped = false)
    (hnever : hangUp ∉ scene.effects) (h : hangUp ∈ next.effects) :
    next.conference.tornDown = true ∧ next.conference.cause.isSome = true := by
  revert h
  apply hreach.preserves _ hheld (fun hmem => absurd hmem hnever)
  intro scene next hstep hheld hbefore
  exact hstep.ended_of_hangUp hheld hbefore

variable {id : ConferenceId} {config : ConferenceConfig} {handle : Handle} {start : Scene}

theorem outlook_openOver (id : ConferenceId) (config : ConferenceConfig) (handle : Handle) :
    (openOver id config handle).Outlook := by
  refine ⟨rfl, ?_⟩
  constructor
  · intro habsurd
    cases habsurd
  · rintro ⟨habsurd, -⟩
    cases habsurd

theorem hangUp_not_mem_openOver (id : ConferenceId) (config : ConferenceConfig)
    (handle : Handle) : hangUp ∉ (openOver id config handle).effects := by
  simp [openOver, effects, note, noteHost, record, hangUp]

/-- A conference is disconnected exactly if it was told of a cause and its host was not active or
held again afterwards. So cause and state agree as long as that does not happen, and only it lets a
conference leave the final state. -/
theorem disconnected_iff_not_revived (hopen : openOver? id config handle = .ok start)
    (requests : List Request) :
    let scene := start.run requests
    let conference := scene.conference
    (conference.state = .disconnected ↔
      conference.cause.isSome = true ∧ ¬ Effect.Revived scene.effects) ∧
    ((conference.cause.isSome = true ↔ conference.state = .disconnected) ↔
      ¬ Effect.Revived scene.effects) ∧
    (hangUp ∈ scene.effects → conference.tornDown = true ∧
      (conference.state = .disconnected ↔ ¬ Effect.Revived scene.effects)) ∧
    (conference.tornDown = false →
      let next := start.run (requests ++ [.event (.stateChanged 6)])
      next.conference.tornDown = true ∧
        (next.conference.state = .disconnected ↔ ¬ Effect.Revived scene.effects)) ∧
    ∀ more : List Request, conference.state = .disconnected →
      let later := start.run (requests ++ more)
      later.conference.state = .disconnected ↔
        (later.effectsAfter scene.effects.length).any Effect.isRevival = false := by
  intro scene conference
  have houtlook : ∀ requests : List Request, (start.run requests).Outlook := by
    intro requests
    obtain ⟨rfl, -⟩ := eq_openOver_of_openOver? hopen
    exact Reaches.outlook (reaches_run requests _) rfl (outlook_openOver id config handle)
  have hstate : conference.state = .disconnected ↔
      conference.cause.isSome = true ∧ ¬ Effect.Revived scene.effects := by
    rw [(houtlook requests).cause]
    exact (houtlook requests).state
  have hcause : Effect.Revived scene.effects → conference.cause.isSome = true := by
    intro hrevived
    rw [(houtlook requests).cause]
    exact hrevived.any.1
  refine ⟨hstate, ?_, ?_, ?_, ?_⟩
  · rw [hstate]
    constructor
    · intro hagree hrevived
      exact (hagree.mp (hcause hrevived)).2 hrevived
    · intro hnever
      exact ⟨fun hsome => ⟨hsome, hnever⟩, fun hboth => hboth.1⟩
  · intro hmem
    have hended : conference.tornDown = true ∧ conference.cause.isSome = true := by
      obtain ⟨rfl, -⟩ := eq_openOver_of_openOver? hopen
      exact Reaches.ended_of_hangUp (reaches_run requests _) rfl
        (hangUp_not_mem_openOver id config handle) hmem
    exact ⟨hended.1, hstate.trans (and_iff_right hended.2)⟩
  · intro hstill next
    have hnext : next = (scene.remember .disconnected).applyHostState .disconnected := by
      rw [← process_stateChanged_six hstill]
      exact run_append requests _ start
    rw [hnext, state_applyHostState]
    refine ⟨(ended_applyHostState _).1, ?_⟩
    change (if conference.cause.isSome then conference.state else .disconnected) = _ ↔ _
    split
    · rename_i hsome
      exact hstate.trans (and_iff_right hsome)
    · rename_i hnone
      exact iff_of_true rfl fun hrevived => hnone (hcause hrevived)
  · intro more hdisconnected later
    obtain ⟨hsome, hnever⟩ := hstate.mp hdisconnected
    rw [(houtlook requests).cause] at hsome
    obtain ⟨told, htold⟩ : scene.effects <+: later.effects := by
      have hmore : Reaches scene (scene.run more) := reaches_run more scene
      rw [← run_append] at hmore
      exact Reaches.effects_grow hmore
    have hlater : later.effectsAfter scene.effects.length = told := by
      rw [effectsAfter_eq_drop, ← htold, List.drop_left]
    rw [(houtlook (requests ++ more)).state, hlater]
    change later.effects.any _ = true ∧ ¬ Effect.Revived later.effects ↔ _
    rw [← htold, List.any_append, hsome, Effect.revived_append]
    constructor
    · rintro ⟨-, hneither⟩
      rw [Bool.eq_false_iff]
      exact fun hrevival => hneither (.inr (.inl ⟨hsome, hrevival⟩))
    · intro hquiet
      refine ⟨rfl, ?_⟩
      rintro (hbefore | ⟨-, hrevival⟩ | hafter)
      · exact hnever hbefore
      · rw [hquiet] at hrevival
        cases hrevival
      · rw [hafter.any.2] at hquiet
        cases hquiet

theorem disconnected_iff_not_revived_fresh :
    (fresh.run [.event (.disconnected .normal)]).conference.state = .disconnected ∧
      ¬ Effect.Revived (fresh.run [.event (.disconnected .normal)]).effects ∧
      (fresh.run [.event (.disconnected .normal), .event (.stateChanged 6)]).conference.tornDown =
        true ∧
      (fresh.run [.event (.disconnected .normal),
        .event (.stateChanged 6)]).conference.state = .disconnected ∧
      (fresh.run [.event (.disconnected .normal),
        .event (.stateChanged 4)]).conference.state ≠ .disconnected ∧
      (fresh.run [.hostState .disconnected]).conference.tornDown = true := by
  obtain ⟨hstate, -, -, hhangUp, hmore⟩ :=
    disconnected_iff_not_revived openOver?_fresh [.event (.disconnected .normal)]
  obtain ⟨-, -, hended, -, -⟩ :=
    disconnected_iff_not_revived openOver?_fresh [.hostState .disconnected]
  have hnever := (hstate.mp rfl).2
  refine ⟨rfl, hnever, (hhangUp rfl).1, (hhangUp rfl).2.mpr hnever, ?_, (hended (by decide)).1⟩
  exact fun habsurd =>
    absurd ((hmore [.event (.stateChanged 4)] rfl).mp habsurd) (by decide)

/-- A host that is disconnected and then active: the cause stays, the state does not, not even when
the conference is taken down in the end. -/
theorem revived_after_disconnection :
    let revived := fresh.run [.event (.disconnected .normal), .event (.stateChanged 4)]
    let ended := revived.run [.event (.stateChanged 6)]
    revived.conference.cause = some .remote ∧ revived.conference.state = .active ∧
      ended.conference.tornDown = true ∧ ended.conference.cause = some .remote ∧
      ended.conference.state = .active :=
  ⟨rfl, rfl, rfl, rfl, rfl⟩

end Scene

end ConferenceBridge
