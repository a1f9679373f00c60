import ConferenceBridge.Conference.Effect

namespace ConferenceBridge

/-! What is seen of a conference as a bracketed text: a participant is handed to the call list, and
announced to the subscribers when that is done with it. Whatever is seen in between stands inside. -/

namespace Effect

theorem place_of_append {effect : Effect} {first second before after : List Effect}
    (h : first ++ second = before ++ effect :: after) :
    (∃ rest, first = before ++ effect :: rest ∧ after = rest ++ second) ∨
      ∃ rest, before = first ++ rest ∧ second = rest ++ effect :: after := by
  rcases List.append_eq_append_iff.mp h with hlater | ⟨rest, hfirst, hrest⟩
  · exact .inr hlater
  · cases rest with
    | nil => exact .inr ⟨[], by simpa using hfirst.symm, by simpa using hrest.symm⟩
    | cons head rest =>
        rw [List.cons_append, List.cons.injEq] at hrest
        obtain ⟨rfl, rfl⟩ := hrest
        exact .inl ⟨rest, hfirst, rfl⟩

def isPlain : Effect → Bool
  | .published _ | .changed (.participantAdded _) => false
  | _ => true

def handovers (endpoint : Endpoint) (effects : List Effect) : Nat :=
  effects.countP fun effect =>
    effect.publication?.any fun publication => publication.endpoint = endpoint

def announcements (endpoint : Endpoint) (effects : List Effect) : Nat :=
  effects.count (.changed (.participantAdded endpoint))

variable {endpoint : Endpoint} {effect : Effect} {before after : List Effect}

@[simp] theorem handovers_append (first second : List Effect) :
    handovers endpoint (first ++ second) = handovers endpoint first + handovers endpoint second :=
  List.countP_append

@[simp] theorem announcements_append (first second : List Effect) :
    announcements endpoint (first ++ second) =
      announcements endpoint first + announcements endpoint second :=
  List.count_append

theorem counts_of_isPlain (h : effect.isPlain = true) (endpoint : Endpoint) :
    handovers endpoint [effect] = 0 ∧ announcements endpoint [effect] = 0 := by
  cases effect with
  | published publication => cases h
  | changed change =>
      cases change with
      | participantAdded endpoint => cases h
      | _ => exact ⟨rfl, rfl⟩
  | _ => exact ⟨rfl, rfl⟩

theorem counts_publication (publication : Publication) (endpoint : Endpoint) :
    handovers endpoint [.published publication] =
        (if publication.endpoint = endpoint then 1 else 0) ∧
      announcements endpoint [.published publication] = 0 := by
  refine ⟨?_, rfl⟩
  by_cases heq : publication.endpoint = endpoint <;> simp [handovers, publication?, heq]

theorem counts_announcement (announced endpoint : Endpoint) :
    handovers endpoint [.changed (.participantAdded announced)] = 0 ∧
      announcements endpoint [.changed (.participantAdded announced)] =
        if announced = endpoint then 1 else 0 := by
  refine ⟨rfl, ?_⟩
  by_cases heq : announced = endpoint <;> simp [announcements, heq]

inductive Balanced : List Effect → Prop
  | nil : Balanced []
  | plain {effect : Effect} {rest : List Effect} (h : effect.isPlain = true)
      (hrest : Balanced rest) : Balanced (effect :: rest)
  | handover {window rest : List Effect} (publication : Publication) (hwindow : Balanced window)
      (hrest : Balanced rest) :
      Balanced (.published publication :: window ++
        .changed (.participantAdded publication.endpoint) :: rest)

namespace Balanced

theorem append {first second : List Effect} (hfirst : Balanced first) (hsecond : Balanced second) :
    Balanced (first ++ second) := by
  induction hfirst with
  | nil => exact hsecond
  | plain h _ ih => exact .plain h ih
  | handover publication hwindow _ _ ih =>
      rw [List.append_assoc, List.cons_append]
      exact .handover publication hwindow ih

theorem of_isPlain {told : List Effect} (h : ∀ effect ∈ told, effect.isPlain = true) :
    Balanced told := by
  induction told with
  | nil => exact .nil
  | cons effect told ih =>
      exact .plain (h effect List.mem_cons_self) (ih fun later hlater => h later (.tail _ hlater))

theorem counts_eq {told : List Effect} (h : Balanced told) (endpoint : Endpoint) :
    handovers endpoint told = announcements endpoint told := by
  induction h with
  | nil => rfl
  | @plain effect rest h _ ih =>
      obtain ⟨hnobody, hnone⟩ := counts_of_isPlain h endpoint
      rw [← List.singleton_append, handovers_append, announcements_append, hnobody, hnone, ih]
  | @handover window rest publication _ _ ihwindow ihrest =>
      obtain ⟨hone, hnone⟩ := counts_publication publication endpoint
      obtain ⟨hnobody, hannounced⟩ := counts_announcement publication.endpoint endpoint
      rw [← List.singleton_append, List.append_assoc, ← List.singleton_append (l := rest)]
      simp only [handovers_append, announcements_append, hone, hnone, hnobody, hannounced, ihwindow,
        ihrest]
      omega

end Balanced

/-- A place in a balanced text, and the participants that are being handed over there, the first of
them outermost. -/
inductive Split : List Publication → List Effect → List Effect → Prop
  | outside {before after : List Effect} (hbefore : Balanced before) (hafter : Balanced after) :
      Split [] before after
  | inside {pending : List Publication} {first inner outer rest : List Effect}
      (publication : Publication) (hfirst : Balanced first) (hsplit : Split pending inner outer)
      (hrest : Balanced rest) :
      Split (publication :: pending) (first ++ .published publication :: inner)
        (outer ++ .changed (.participantAdded publication.endpoint) :: rest)

namespace Split

variable {pending : List Publication}

theorem prepend (h : Split pending before after) {first : List Effect} (hfirst : Balanced first) :
    Split pending (first ++ before) after := by
  cases h with
  | outside hbefore hafter => exact .outside (hfirst.append hbefore) hafter
  | inside publication hbefore hsplit hrest =>
      rw [← List.append_assoc]
      exact .inside publication (hfirst.append hbefore) hsplit hrest

theorem balanced (h : Split pending before after) : Balanced (before ++ after) := by
  induction h with
  | outside hbefore hafter => exact hbefore.append hafter
  | inside publication hfirst _ hrest ih =>
      have hwhole := hfirst.append (.handover publication ih hrest)
      simpa using hwhole

/-- So many participants of an endpoint are being handed over as there were more of it handed over
than announced. -/
theorem counts (h : Split pending before after) (endpoint : Endpoint) :
    handovers endpoint before =
      announcements endpoint before +
        pending.countP fun publication => publication.endpoint = endpoint := by
  induction h with
  | outside hbefore _ => exact hbefore.counts_eq endpoint
  | @inside pending first inner outer rest publication hfirst _ _ ih =>
      obtain ⟨hone, hnone⟩ := counts_publication publication endpoint
      rw [← List.singleton_append (l := inner)]
      simp only [handovers_append, announcements_append, hone, hnone, ih, hfirst.counts_eq,
        List.countP_cons, decide_eq_true_eq]
      omega

theorem exists_window (h : Split pending before after) {publication : Publication}
    (hmem : publication ∈ pending) :
    ∃ first inner outer rest, before = first ++ .published publication :: inner ∧
      after = outer ++ .changed (.participantAdded publication.endpoint) :: rest ∧
      Balanced (inner ++ outer) := by
  induction h with
  | outside => cases hmem
  | @inside pending first inner outer rest outermost _ hsplit _ ih =>
      rcases List.mem_cons.mp hmem with rfl | hinner
      · exact ⟨first, inner, outer, rest, rfl, rfl, hsplit.balanced⟩
      · obtain ⟨before, within, behind, remaining, rfl, rfl, hbalanced⟩ := ih hinner
        exact ⟨first ++ .published outermost :: before, within, behind,
          remaining ++ .changed (.participantAdded outermost.endpoint) :: rest, by simp, by simp,
          hbalanced⟩

end Split

theorem Balanced.exists_split {told : List Effect} (h : Balanced told)
    (heq : told = before ++ after) : ∃ pending, Split pending before after := by
  induction h generalizing before after with
  | nil =>
      obtain ⟨rfl, rfl⟩ := List.append_eq_nil_iff.mp heq.symm
      exact ⟨[], .outside .nil .nil⟩
  | @plain effect rest hplain hrest ih =>
      cases before with
      | nil =>
          rw [List.nil_append] at heq
          exact ⟨[], .outside .nil (heq ▸ .plain hplain hrest)⟩
      | cons head before =>
          rw [List.cons_append, List.cons.injEq] at heq
          obtain ⟨rfl, heq⟩ := heq
          obtain ⟨pending, hsplit⟩ := ih heq
          exact ⟨pending, hsplit.prepend (.plain hplain .nil)⟩
  | @handover window rest publication hwindow hrest ihwindow ihrest =>
      cases before with
      | nil =>
          rw [List.nil_append] at heq
          exact ⟨[], .outside .nil (heq ▸ .handover publication hwindow hrest)⟩
      | cons head before =>
          rw [List.cons_append, List.cons_append, List.cons.injEq] at heq
          obtain ⟨rfl, heq⟩ := heq
          rcases List.append_eq_append_iff.mp heq with ⟨behind, rfl, hbehind⟩ | ⟨inner, hinner, hrest'⟩
          · cases behind with
            | nil =>
                obtain ⟨pending, hsplit⟩ := ihwindow (List.append_nil window).symm
                rw [List.nil_append] at hbehind
                rw [List.append_nil, ← hbehind]
                exact ⟨_, Split.inside publication .nil hsplit hrest⟩
            | cons closing behind =>
                rw [List.cons_append, List.cons.injEq] at hbehind
                obtain ⟨rfl, hbehind⟩ := hbehind
                obtain ⟨pending, hsplit⟩ := ihrest hbehind
                have hblock := Balanced.handover publication hwindow .nil
                exact ⟨pending, by simpa using hsplit.prepend hblock⟩
          · obtain ⟨pending, hsplit⟩ := ihwindow hinner
            rw [hrest']
            exact ⟨_, Split.inside publication .nil hsplit hrest⟩

/-- Someone is handed over, and meanwhile the window is seen. -/
def Window (publication : Publication) (window effects : List Effect) : Prop :=
  ∃ before after, effects = before ++ .published publication :: window ++
    .changed (.participantAdded publication.endpoint) :: after ∧ Balanced window

/-- Where more participants of an endpoint were handed over than announced, one of them is being
handed over. -/
theorem Balanced.exists_window {effects : List Effect} (h : Balanced effects)
    (heq : effects = before ++ effect :: after) (hplain : effect.isPlain = true)
    (hcounts : handovers endpoint before ≠ announcements endpoint before) :
    ∃ publication window, Window publication window effects ∧ effect ∈ window ∧
      publication.endpoint = endpoint := by
  obtain ⟨pending, hsplit⟩ := h.exists_split heq
  have hpending : 0 < pending.countP fun publication => publication.endpoint = endpoint := by
    have hcount := hsplit.counts endpoint
    omega
  obtain ⟨publication, hmem, hendpoint⟩ := List.countP_pos_iff.mp hpending
  obtain ⟨first, inner, outer, rest, rfl, hafter, hbalanced⟩ := hsplit.exists_window hmem
  cases outer with
  | nil =>
      rw [List.nil_append, List.cons.injEq] at hafter
      rw [hafter.1] at hplain
      cases hplain
  | cons head outer =>
      rw [List.cons_append, List.cons.injEq] at hafter
      obtain ⟨rfl, rfl⟩ := hafter
      refine ⟨publication, inner ++ effect :: outer, ⟨first, rest, ?_, hbalanced⟩, by simp, ?_⟩
      · simp [heq]
      · simpa using hendpoint

theorem Window.counts_ne {publication : Publication} {window effects inner outer : List Effect}
    (hwindow : Window publication window effects) (h : Balanced effects)
    (hinner : window = inner ++ effect :: outer) :
    ∃ before after, effects = before ++ effect :: after ∧
      handovers publication.endpoint before ≠ announcements publication.endpoint before := by
  obtain ⟨first, rest, heq, hbalanced⟩ := hwindow
  refine ⟨first ++ .published publication :: inner,
    outer ++ .changed (.participantAdded publication.endpoint) :: rest, ?_, ?_⟩
  · rw [heq, hinner]
    simp
  · have hplace : effects = first ++ (.published publication :: (window ++
        .changed (.participantAdded publication.endpoint) :: rest)) := by
      rw [heq]
      simp
    obtain ⟨pending, hfirst⟩ := h.exists_split hplace
    obtain ⟨nested, hnested⟩ := hbalanced.exists_split hinner
    obtain ⟨hone, hnone⟩ := counts_publication publication publication.endpoint
    have houter := hfirst.counts publication.endpoint
    have hinside := hnested.counts publication.endpoint
    rw [← List.singleton_append (l := inner)]
    simp only [handovers_append, announcements_append, hone, hnone, ↓reduceIte]
    omega

end Effect

end ConferenceBridge
