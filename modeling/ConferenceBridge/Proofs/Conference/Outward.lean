import ConferenceBridge.Proofs.Conference.Announcement
import ConferenceBridge.Proofs.Conference.FirstCause

namespace ConferenceBridge

/-! What is seen of a conference apart from the log: who is handed over, what the subscribers are
told, and what is asked of others. -/

namespace Effect

def isOutward (effect : Effect) : Bool :=
  effect.notice?.isNone

theorem filter_isOutward_eq_nil_iff {effects : List Effect} :
    effects.filter isOutward = [] ↔ ∃ notices : List Notice, effects = notices.map .noted := by
  constructor
  · intro h
    induction effects with
    | nil => exact ⟨[], rfl⟩
    | cons effect effects ih =>
        rw [List.filter_eq_nil_iff, List.forall_mem_cons, ← List.filter_eq_nil_iff] at h
        obtain ⟨notices, rfl⟩ := ih h.2
        cases effect with
        | noted notice => exact ⟨notice :: notices, rfl⟩
        | _ => exact absurd rfl h.1
  · rintro ⟨notices, rfl⟩
    simp [List.filter_map, Function.comp_def, isOutward, notice?]

def ofStates (endpoint : Endpoint) (old next : ConnectionState) : List Effect :=
  if old = next then [] else [.changed (.participantState endpoint old next)]

theorem eq_of_mem_ofStates {endpoint : Endpoint} {old next : ConnectionState} {effect : Effect}
    (h : effect ∈ ofStates endpoint old next) :
    effect = .changed (.participantState endpoint old next) := by
  unfold ofStates at h
  split at h
  · cases h
  · exact List.mem_singleton.mp h

end Effect

namespace Participant

variable {participant : Participant}

theorem changes_update (h : participant.destroyed = false) (next : ConnectionState) :
    (participant.update next).changes.map .changed =
      Effect.ofStates participant.endpoint participant.state (participant.state.hear next) := by
  unfold update Effect.ofStates ConnectionState.hear
  by_cases hsame : participant.state = next
  · simp [h, hsame, unchanged]
  · by_cases hfinal : participant.state.isFinal = true
    · simp [h, hsame, hfinal, unchanged]
    · simp [h, hsame, hfinal]

end Participant

namespace Scene

variable {scene next : Scene}

/-- What was seen so far, except for the log. -/
def outward (scene : Scene) : List Effect :=
  scene.effects.filter Effect.isOutward

@[simp] theorem outward_note (notice : ConferenceNotice) (scene : Scene) :
    (scene.note notice).outward = scene.outward := by
  simp [outward, note, Effect.isOutward, Effect.notice?]

@[simp] theorem outward_announce (change : Change) (scene : Scene) :
    (scene.announce change).outward = scene.outward ++ [.changed change] := by
  simp [outward, announce, Effect.isOutward, Effect.notice?]

@[simp] theorem outward_enroll (entry : Snapshot) (roster : Roster Nat) (scene : Scene) :
    (scene.enroll entry roster).outward =
      scene.outward ++ [.published (scene.publication entry)] := by
  simp [outward, Effect.isOutward, Effect.notice?]

theorem changes_eq_outward (scene : Scene) :
    scene.changes = scene.outward.filterMap Effect.change? := by
  rw [changes, outward, List.filterMap_filter]
  congr 1
  funext effect
  cases effect <;> rfl

theorem participant?_operate {number : Nat} {participant : Participant}
    (h : scene.participant? number = some participant) (operation : Participant.Operation) :
    (scene.operate number operation).participant? number =
      some (participant.perform operation).participant := by
  rw [participant?] at h
  rw [participant?, conference_operate, Conference.getElem?_modify, h]
  simp

theorem outward_operate {number : Nat} {participant : Participant}
    (h : scene.participant? number = some participant) (operation : Participant.Operation) :
    (scene.operate number operation).outward =
      scene.outward ++ (participant.perform operation).changes.map .changed := by
  have hnotices : ∀ (endpoint : Endpoint) (notices : List ParticipantNotice),
      (notices.map fun notice =>
        Effect.noted (.participant endpoint notice)).filter Effect.isOutward = [] := by
    intro endpoint notices
    exact Effect.filter_isOutward_eq_nil_iff.mpr ⟨notices.map (.participant endpoint), by simp⟩
  have hchanges : ∀ changes : List Change,
      (changes.map Effect.changed).filter Effect.isOutward = changes.map .changed := by
    intro changes
    rw [List.filter_eq_self]
    simp [Effect.isOutward, Effect.notice?]
  rw [operate_eq_advance, outward, effects_advance, List.filter_append, told, h,
    Option.elim_some, Participant.Outcome.told, List.filter_append, hnotices, hchanges,
    List.nil_append, outward]

theorem outward_refreshManage (scene : Scene) :
    scene.refreshManage.outward =
      if scene.conference.capabilities.can .manageConference = !scene.conference.roster.isEmpty then
        scene.outward
      else
        scene.outward ++ [.changed (.capabilities
          (scene.conference.capabilities.set .manageConference
            (!scene.conference.roster.isEmpty)))] := by
  simp only [refreshManage]
  split
  · rw [outward_note]
  · rw [outward_announce]
    exact congrArg (· ++ _) (outward_note (.manageChecked _ _) scene)

end Scene

/-- What the call list has to do when someone new is handed to it, and the scene that it finds. -/
structure Visit where
  calls : List RegisterCall
  found : Scene

namespace Walk

def visits : Walk → Snapshot → List Visit :=
  hears fun calls found => [⟨calls, found⟩]

section Entry

variable {walk : Walk} {entry : Snapshot}

theorem visits_of_known (hknown : walk.knows entry.endpoint = true) : walk.visits entry = [] :=
  if_pos (.inr hknown)

variable (hopen : walk.scene.conference.tornDown = false)

include hopen

theorem visits_of_present (hunknown : walk.knows entry.endpoint = false) {number : Nat}
    (hpresent : walk.scene.conference.roster.insertIfAbsent entry.endpoint
      walk.scene.conference.participants.length = .present number) : walk.visits entry = [] := by
  rw [visits, hears, if_neg (by simp [hopen, hunknown]), hpresent]

theorem visits_of_absent (hunknown : walk.knows entry.endpoint = false) {roster : Roster Nat}
    (habsent : walk.scene.conference.roster.insertIfAbsent entry.endpoint
      walk.scene.conference.participants.length = .stored roster) :
    walk.visits entry = [⟨walk.scene.nextCalls.1, walk.scene.enroll entry roster⟩] := by
  rw [visits, hears, if_neg (by simp [hopen, hunknown]), habsent]

end Entry

variable {first second : React}

theorem reaches_visit {walk : Walk} {entry : Snapshot} {visit : Visit}
    (h : visit ∈ walk.visits entry) (depth : Nat) :
    Scene.Reaches walk.scene visit.found ∧
      Scene.Reaches visit.found (walk.enterWith (Scene.reactAt depth) entry).scene := by
  cases hopen : walk.scene.conference.tornDown with
  | true =>
      rw [visits, hears, if_pos (.inl hopen)] at h
      cases h
  | false =>
      cases hknown : walk.knows entry.endpoint with
      | true =>
          rw [visits_of_known hknown] at h
          cases h
      | false =>
          cases hinsert : walk.scene.conference.roster.insertIfAbsent entry.endpoint
              walk.scene.conference.participants.length with
          | present number =>
              rw [visits_of_present hopen hknown hinsert] at h
              cases h
          | stored roster =>
              rw [visits_of_absent hopen hknown hinsert] at h
              rw [List.mem_singleton.mp h, enterWith_of_absent hopen _ hknown hinsert]
              refine ⟨(Scene.Step.enroll entry hopen hinsert).reaches, ?_⟩
              have hcalled := Scene.walkClosed_reaches.reactAt depth walk.scene.nextCalls.1
                (walk.scene.enroll entry roster)
              exact (hcalled.tail (.remark _ rfl)).tail (.welcome entry.endpoint)

theorem reaches_visits {entries : List Snapshot} {walk : Walk} {depth : Nat} {visit : Visit}
    (h : visit ∈ gather (enterWith (Scene.reactAt depth)) visits entries walk) :
    Scene.Reaches walk.scene visit.found ∧
      Scene.Reaches visit.found (entries.foldl (enterWith (Scene.reactAt depth)) walk).scene := by
  induction entries generalizing walk with
  | nil => cases h
  | cons entry entries ih =>
      have hreact := Scene.walkClosed_reaches.reactAt depth
      have hidle := Scene.reactAt_nil depth
      rw [gather, List.mem_append] at h
      rcases h with hfirst | hlater
      · obtain ⟨hbefore, hafter⟩ := reaches_visit hfirst depth
        exact ⟨hbefore, hafter.trans (Scene.walkClosed_reaches.walk hidle hreact entries _)⟩
      · obtain ⟨hbefore, hafter⟩ := ih hlater
        exact ⟨(Scene.walkClosed_reaches.enterWith hidle hreact walk entry).trans hbefore, hafter⟩

/-- Of what the call list might do only that counts which it does with the scene that it finds. -/
theorem enterWith_congr {walk : Walk} {entry : Snapshot}
    (h : ∀ visit ∈ walk.visits entry,
      first visit.calls visit.found = second visit.calls visit.found) :
    walk.enterWith first entry = walk.enterWith second entry := by
  cases hopen : walk.scene.conference.tornDown with
  | true => rw [enterWith, if_pos hopen, enterWith, if_pos hopen]
  | false =>
      cases hknown : walk.knows entry.endpoint with
      | true => rw [enterWith_of_known hopen first hknown, enterWith_of_known hopen second hknown]
      | false =>
          cases hinsert : walk.scene.conference.roster.insertIfAbsent entry.endpoint
              walk.scene.conference.participants.length with
          | present number =>
              rw [enterWith_of_present hopen first hknown hinsert,
                enterWith_of_present hopen second hknown hinsert]
          | stored roster =>
              rw [visits_of_absent hopen hknown hinsert] at h
              have hsame := h _ List.mem_cons_self
              rw [enterWith_of_absent hopen first hknown hinsert,
                enterWith_of_absent hopen second hknown hinsert, Scene.enrollWith, hsame,
                Scene.enrollWith]

theorem foldl_enterWith_congr {entries : List Snapshot} {walk : Walk}
    (h : ∀ visit ∈ gather (enterWith first) visits entries walk,
      first visit.calls visit.found = second visit.calls visit.found) :
    entries.foldl (enterWith first) walk = entries.foldl (enterWith second) walk := by
  induction entries generalizing walk with
  | nil => rfl
  | cons entry entries ih =>
      rw [gather, List.forall_mem_append] at h
      rw [List.foldl_cons, List.foldl_cons, ih h.2, enterWith_congr h.1]

end Walk

namespace Scene

variable {scene : Scene}

def visits (react : React) (entries : List Snapshot) (scene : Scene) : List Visit :=
  if scene.conference.tornDown then []
  else gather (Walk.enterWith react) Walk.visits entries { scene }

theorem reconcileWith_congr {first second : React} {entries : List Snapshot}
    (h : ∀ visit ∈ scene.visits first entries,
      first visit.calls visit.found = second visit.calls visit.found) :
    scene.reconcileWith first entries = scene.reconcileWith second entries := by
  cases htorn : scene.conference.tornDown with
  | true => rw [reconcileWith, if_pos htorn, reconcileWith, if_pos htorn]
  | false =>
      rw [visits, htorn] at h
      simp only [reconcileWith, Walk.foldl_enterWith_congr h]

theorem reaches_visit {depth : Nat} {entries : List Snapshot} {visit : Visit}
    (h : visit ∈ scene.visits (reactAt depth) entries) :
    Reaches scene visit.found ∧
      Reaches visit.found (scene.reconcileWith (reactAt depth) entries).1 := by
  cases hopen : scene.conference.tornDown with
  | true =>
      rw [visits, if_pos hopen] at h
      cases h
  | false =>
      rw [visits, hopen] at h
      obtain ⟨hbefore, hafter⟩ := Walk.reaches_visits h
      have hbringUp := hafter.trans (walkClosed_reaches.bringUp _)
      refine ⟨hbefore, ?_⟩
      simp only [reconcileWith, hopen, Bool.false_eq_true, if_false]
      split
      · rename_i hend
        exact hbringUp.trans (walkClosed_reaches.finishTornDown hend _)
      · rename_i hend
        exact hbringUp.trans (walkClosed_reaches.finish (Bool.eq_false_iff.mpr hend) _)

/-- A participant is handed over when it is on the roster already, attached, and in the state in
which it was created. -/
structure HandsOver (publication : Publication) (moment : Scene) : Prop where
  listed : moment.conference.roster.get? publication.endpoint = some publication.number
  present : ∃ participant, moment.participant? publication.number = some participant ∧
    participant.endpoint = publication.endpoint ∧
    participant.displayName = publication.displayName ∧ participant.attached = true ∧
    participant.state = moment.conference.config.initialState
  state : publication.state = moment.conference.config.initialState

theorem handsOver_enroll {entry : Snapshot} {roster : Roster Nat}
    (habsent : scene.conference.roster.insertIfAbsent entry.endpoint
      scene.conference.participants.length = .stored roster) :
    HandsOver (scene.publication entry) (scene.enroll entry roster) := by
  have hcreated : (scene.enroll entry roster).participant? scene.conference.participants.length =
      some (.ofSnapshot entry scene.conference.config.initialState) := by
    refine (Conference.getElem?_enroll entry roster scene.conference _).trans ?_
    rw [if_pos rfl]
  refine ⟨?_, ⟨_, hcreated, rfl, rfl, rfl, rfl⟩, rfl⟩
  rw [Roster.get?_eq_some_iff]
  change _ ∈ roster.entries
  rw [(Roster.stored_of_insertIfAbsent habsent).2]
  exact List.mem_append_right _ List.mem_cons_self

end Scene

end ConferenceBridge
