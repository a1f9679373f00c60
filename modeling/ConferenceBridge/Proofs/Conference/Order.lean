import ConferenceBridge.Proofs.Conference.Handover

namespace ConferenceBridge

/-! What subscribers may expect of the order in which they hear of things, and when a bracketed text
meets it: everyone is announced before anything else is told of them, and the end is told last. -/

namespace Effect

def isPassing : Effect → Bool
  | .published _ | .changed (.participantAdded _) | .changed .destroyed => false
  | _ => true

def isAside : Effect → Bool
  | .published _ | .changed _ => false
  | _ => true

def isEpilogue : Effect → Bool
  | .changed (.participantAdded _) => true
  | effect => effect.isAside

theorem isPlain_of_isPassing {effect : Effect} (h : effect.isPassing = true) :
    effect.isPlain = true := by
  revert h
  unfold isPassing isPlain
  repeat' split
  all_goals simp_all

theorem isPassing_of_isAside {effect : Effect} (h : effect.isAside = true) :
    effect.isPassing = true := by
  cases effect with
  | published publication => cases h
  | changed change => cases h
  | _ => rfl

theorem isEpilogue_of_isAside {effect : Effect} (h : effect.isAside = true) :
    effect.isEpilogue = true := by
  cases effect with
  | published publication => cases h
  | changed change => cases h
  | _ => rfl

/-- After the end nobody is handed over, and nothing is told but who was being handed over. -/
def Concludes (effects : List Effect) : Prop :=
  ∀ before after, effects = before ++ .changed .destroyed :: after →
    ∀ effect ∈ after, effect.isEpilogue = true

namespace Concludes

theorem of_not_mem {told : List Effect} (h : .changed .destroyed ∉ told) : Concludes told := by
  intro before after heq
  exact absurd (by simp [heq]) h

theorem append {first second : List Effect} (hfirst : Concludes first) (hsecond : Concludes second)
    (h : .changed .destroyed ∈ first → ∀ effect ∈ second, effect.isEpilogue = true) :
    Concludes (first ++ second) := by
  intro before after heq effect heffect
  rcases place_of_append heq with ⟨rest, rfl, rfl⟩ | ⟨rest, -, hrest⟩
  · rcases List.mem_append.mp heffect with hleft | hright
    · exact hfirst before rest rfl effect hleft
    · exact h (by simp) effect hright
  · exact hsecond rest after hrest effect heffect

theorem ending : Concludes [.changed .destroyed] := by
  intro before after heq effect heffect
  cases before with
  | nil =>
      rw [List.nil_append, List.cons.injEq] at heq
      rw [← heq.2] at heffect
      cases heffect
  | cons first before => simp at heq

end Concludes

/-- Whatever else is told of an endpoint is told when everyone handed over under it was announced. -/
def AnnouncedFirst (effects : List Effect) : Prop :=
  ∀ before change after endpoint, effects = before ++ .changed change :: after →
    change.endpoint? = some endpoint → change ≠ .participantAdded endpoint →
      0 < announcements endpoint before ∧
        handovers endpoint before = announcements endpoint before

def EndsLast (effects : List Effect) : Prop :=
  ∀ before after, effects = before ++ .changed .destroyed :: after →
    after.filterMap change? = []

theorem announcedFirst_iff {effects : List Effect} (h : Balanced effects)
    (hintroduced : ∀ before change after endpoint, effects = before ++ .changed change :: after →
      change.endpoint? = some endpoint → change ≠ .participantAdded endpoint →
        0 < handovers endpoint before) :
    AnnouncedFirst effects ↔ ∀ publication window, Window publication window effects →
      ∀ change, .changed change ∈ window → change.endpoint? = some publication.endpoint →
        change = .participantAdded publication.endpoint := by
  constructor
  · intro hfirst publication window hwindow change hmem hendpoint
    refine Decidable.byContradiction fun hother => ?_
    obtain ⟨inner, outer, hinner⟩ := List.append_of_mem hmem
    obtain ⟨before, after, heq, hne⟩ := hwindow.counts_ne h hinner
    exact hne (hfirst before change after _ heq hendpoint hother).2
  · intro hwindows before change after endpoint heq hendpoint hother
    by_cases hcounts : handovers endpoint before = announcements endpoint before
    · have hpos := hintroduced before change after endpoint heq hendpoint hother
      exact ⟨hcounts ▸ hpos, hcounts⟩
    · have hplain : (Effect.changed change).isPlain = true := by
        cases change with
        | participantAdded other =>
            cases hendpoint
            exact absurd rfl hother
        | _ => rfl
      obtain ⟨publication, window, hwindow, hmem, rfl⟩ := h.exists_window heq hplain hcounts
      exact absurd (hwindows publication window hwindow change hmem hendpoint) hother

theorem endsLast_iff {effects : List Effect} (h : Balanced effects) (hend : Concludes effects) :
    EndsLast effects ↔ ∀ publication window, Window publication window effects →
      .changed .destroyed ∉ window := by
  constructor
  · rintro hlast publication window ⟨before, after, heq, -⟩ hmem
    obtain ⟨inner, outer, rfl⟩ := List.append_of_mem hmem
    have hnothing := hlast (before ++ .published publication :: inner)
      (outer ++ .changed (.participantAdded publication.endpoint) :: after) (by simp [heq])
    simp [change?] at hnothing
  · intro hwindows before after heq
    rw [List.filterMap_eq_nil_iff]
    intro effect heffect
    have hepilogue := hend before after heq
    cases effect with
    | changed change =>
        cases change with
        | participantAdded endpoint =>
            have hnobody : handovers endpoint after = 0 := by
              rw [handovers, List.countP_eq_zero]
              intro later hlater
              have hlater := hepilogue later hlater
              cases later with
              | published publication => cases hlater
              | _ => simp [publication?]
            have hsome : 0 < announcements endpoint after := List.count_pos_iff.mpr heffect
            have hcounts : handovers endpoint before ≠ announcements endpoint before := by
              have hequal := h.counts_eq endpoint
              rw [heq, ← List.singleton_append, handovers_append, announcements_append,
                handovers_append, announcements_append, hnobody] at hequal
              have hplain : (Effect.changed .destroyed).isPlain = true := rfl
              obtain ⟨hzero, hnone⟩ := counts_of_isPlain hplain endpoint
              omega
            obtain ⟨publication, window, hwindow, hmem, -⟩ := h.exists_window heq rfl hcounts
            exact absurd hmem (hwindows publication window hwindow)
        | _ => cases hepilogue _ heffect
    | _ => rfl

/-- Everyone is announced as soon as the call list has them. -/
def Prompt (effects : List Effect) : Prop :=
  ∀ before publication after, effects = before ++ .published publication :: after →
    ∃ note rest, note.isAside = true ∧
      after = note :: .changed (.participantAdded publication.endpoint) :: rest

namespace Prompt

theorem append {first second : List Effect} (hfirst : Prompt first) (hsecond : Prompt second) :
    Prompt (first ++ second) := by
  intro before publication after heq
  rcases place_of_append heq with ⟨rest, hbefore, rfl⟩ | ⟨rest, -, hrest⟩
  · obtain ⟨note, later, haside, rfl⟩ := hfirst before publication rest hbefore
    exact ⟨note, later ++ second, haside, rfl⟩
  · exact hsecond rest publication after hrest

theorem of_unpublished {told : List Effect} (h : ∀ effect ∈ told, effect.publication? = none) :
    Prompt told := by
  intro before publication after heq
  cases h (.published publication) (by simp [heq])

theorem enrolment (publication : Publication) {note : Effect} (haside : note.isAside = true) :
    Prompt [.published publication, note, .changed (.participantAdded publication.endpoint)] := by
  intro before other after heq
  cases before with
  | nil =>
      rw [List.nil_append, List.cons.injEq, published.injEq] at heq
      obtain ⟨rfl, rfl⟩ := heq
      exact ⟨note, [], haside, rfl⟩
  | cons first before =>
      rw [List.cons_append, List.cons.injEq] at heq
      have hmem : .published other ∈ [note, .changed (.participantAdded publication.endpoint)] := by
        simp [heq.2]
      simp only [List.mem_cons, List.not_mem_nil, reduceCtorEq, or_false] at hmem
      rw [← hmem] at haside
      cases haside

theorem window {effects window : List Effect} {publication : Publication} (h : Prompt effects)
    (hwindow : Window publication window effects) : ∀ effect ∈ window, effect.isAside = true := by
  obtain ⟨before, after, heq, hbalanced⟩ := hwindow
  obtain ⟨note, rest, haside, hafter⟩ := h before publication
    (window ++ .changed (.participantAdded publication.endpoint) :: after) (by simp [heq])
  cases window with
  | nil =>
      intro effect heffect
      cases heffect
  | cons first window =>
      rw [List.cons_append, List.cons.injEq] at hafter
      obtain ⟨rfl, hafter⟩ := hafter
      cases window with
      | nil =>
          intro effect heffect
          rw [List.mem_singleton.mp heffect]
          exact haside
      | cons second window =>
          rw [List.cons_append, List.cons.injEq] at hafter
          obtain ⟨rfl, -⟩ := hafter
          obtain ⟨pending, hsplit⟩ := hbalanced.exists_split
            (List.append_cons [first] (.changed (.participantAdded publication.endpoint)) window)
          have hcounts := hsplit.counts publication.endpoint
          have hnote := counts_of_isPlain (isPlain_of_isPassing (isPassing_of_isAside haside))
            publication.endpoint
          have hannounced := counts_announcement publication.endpoint publication.endpoint
          rw [handovers_append, announcements_append, hnote.1, hnote.2, hannounced.1, hannounced.2,
            if_pos rfl] at hcounts
          omega

end Prompt

end Effect

end ConferenceBridge
