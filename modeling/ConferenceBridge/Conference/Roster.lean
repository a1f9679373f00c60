import ConferenceBridge.Call.Endpoint

namespace ConferenceBridge

/-! Who takes part: at most one entry for each endpoint, in the order of their arrival. -/

structure Roster (α : Type) where
  entries : List (Endpoint × α)
  nodup : (entries.map Prod.fst).Nodup

namespace Roster

def empty : Roster α :=
  ⟨[], List.nodup_nil⟩

instance : Inhabited (Roster α) := ⟨empty⟩

def endpoints (roster : Roster α) : List Endpoint :=
  roster.entries.map Prod.fst

def members (roster : Roster α) : List α :=
  roster.entries.map Prod.snd

def size (roster : Roster α) : Nat :=
  roster.entries.length

def isEmpty (roster : Roster α) : Bool :=
  roster.entries.isEmpty

def get? (roster : Roster α) (endpoint : Endpoint) : Option α :=
  roster.entries.lookup endpoint

def contains (roster : Roster α) (endpoint : Endpoint) : Bool :=
  (roster.get? endpoint).isSome

def filter (roster : Roster α) (keep : Endpoint × α → Bool) : Roster α where
  entries := roster.entries.filter keep
  nodup := roster.nodup.sublist (List.filter_sublist.map Prod.fst)

theorem get?_eq_none_iff {roster : Roster α} {endpoint : Endpoint} :
    roster.get? endpoint = none ↔ endpoint ∉ roster.endpoints := by
  simp only [get?, endpoints, List.lookup_eq_none_iff, List.mem_map, not_exists, not_and]
  constructor
  · rintro h entry hentry rfl
    simpa using h entry hentry
  · intro h entry hentry
    simpa using fun heq : endpoint = entry.1 => h entry hentry heq.symm

inductive Insertion (α : Type)
  | stored (roster : Roster α)
  | present (member : α)

def insertIfAbsent (roster : Roster α) (endpoint : Endpoint) (member : α) : Insertion α :=
  match h : roster.get? endpoint with
  | some present => .present present
  | none =>
      .stored {
        entries := roster.entries ++ [(endpoint, member)]
        nodup := by
          have habsent := get?_eq_none_iff.1 h
          simp only [List.map_append, List.map_cons, List.map_nil]
          refine List.nodup_append.2 ⟨roster.nodup, by simp, ?_⟩
          rintro first hfirst second hsecond rfl
          simp only [List.mem_singleton] at hsecond
          exact habsent (hsecond ▸ hfirst) }

def erase (roster : Roster α) (endpoint : Endpoint) : Roster α :=
  roster.filter fun entry => entry.1 != endpoint

/-- Erases the entry only if it is this very member. -/
def eraseIf? [DecidableEq α] (roster : Roster α) (endpoint : Endpoint) (member : α) :
    Option (Roster α) :=
  if roster.get? endpoint = some member then some (roster.erase endpoint) else none

def splitBy (roster : Roster α) (listed : List Endpoint) : Roster α × List (Endpoint × α) :=
  (roster.filter fun entry => entry.1 ∈ listed,
    roster.entries.filter fun entry => entry.1 ∉ listed)

theorem eq_of_entries {first second : Roster α} (h : first.entries = second.entries) :
    first = second := by
  obtain ⟨entries, hnodup⟩ := first
  subst h
  rfl

theorem eq_empty_of_entries {roster : Roster α} (h : roster.entries = []) : roster = .empty :=
  eq_of_entries h

@[simp] theorem get?_empty (endpoint : Endpoint) : (empty : Roster α).get? endpoint = none := rfl

theorem get?_eq_some_iff {roster : Roster α} {endpoint : Endpoint} {member : α} :
    roster.get? endpoint = some member ↔ (endpoint, member) ∈ roster.entries := by
  obtain ⟨entries, hnodup⟩ := roster
  simp only [get?]
  induction entries with
  | nil => simp
  | cons entry rest ih =>
      obtain ⟨key, value⟩ := entry
      simp only [List.map_cons, List.nodup_cons] at hnodup
      by_cases heq : endpoint = key
      · subst heq
        simp only [List.lookup_cons_self, Option.some.injEq, List.mem_cons, Prod.mk.injEq,
          true_and]
        constructor
        · exact fun h => .inl h.symm
        · rintro (h | h)
          · exact h.symm
          · exact absurd (List.mem_map_of_mem (f := Prod.fst) h) hnodup.1
      · have hbeq : (endpoint == key) = false := by simpa using heq
        simp [List.lookup_cons, hbeq, heq, ih hnodup.2]

theorem stored_of_insertIfAbsent {roster next : Roster α} {endpoint : Endpoint} {member : α}
    (h : roster.insertIfAbsent endpoint member = .stored next) :
    endpoint ∉ roster.endpoints ∧ next.entries = roster.entries ++ [(endpoint, member)] := by
  unfold insertIfAbsent at h
  split at h
  · cases h
  · rename_i habsent
    cases h
    exact ⟨get?_eq_none_iff.mp habsent, rfl⟩

theorem present_of_insertIfAbsent {roster : Roster α} {endpoint : Endpoint}
    {member present : α} (h : roster.insertIfAbsent endpoint member = .present present) :
    (endpoint, present) ∈ roster.entries := by
  unfold insertIfAbsent at h
  split at h
  · rename_i hpresent
    cases h
    exact get?_eq_some_iff.mp hpresent
  · cases h

theorem unique {roster : Roster α} {endpoint : Endpoint} {first second : α}
    (hfirst : (endpoint, first) ∈ roster.entries) (hsecond : (endpoint, second) ∈ roster.entries) :
    first = second := by
  rw [← get?_eq_some_iff] at hfirst hsecond
  exact Option.some.inj (hfirst.symm.trans hsecond)

theorem get?_filter {roster : Roster α} {keep : Endpoint × α → Bool} {endpoint : Endpoint} :
    (roster.filter keep).get? endpoint =
      (roster.get? endpoint).filter fun member => keep (endpoint, member) := by
  cases h : roster.get? endpoint with
  | none =>
      rw [get?_eq_none_iff] at h
      simp only [Option.filter_none, get?_eq_none_iff]
      intro hmem
      apply h
      simp only [endpoints, filter, List.mem_map, List.mem_filter] at hmem ⊢
      obtain ⟨entry, hentry, heq⟩ := hmem
      exact ⟨entry, hentry.1, heq⟩
  | some member =>
      rw [get?_eq_some_iff] at h
      by_cases hkeep : keep (endpoint, member)
      · simp only [Option.filter_some, hkeep, if_true]
        exact get?_eq_some_iff.2 (List.mem_filter.2 ⟨h, hkeep⟩)
      · simp only [Option.filter_some, hkeep, Bool.false_eq_true, if_false]
        rw [get?_eq_none_iff]
        intro hmem
        simp only [endpoints, filter, List.mem_map, List.mem_filter] at hmem
        obtain ⟨⟨key, other⟩, hentry, rfl⟩ := hmem
        have hsame : member = other := by
          have := get?_eq_some_iff.2 h
          rw [get?_eq_some_iff.2 hentry.1] at this
          exact (Option.some.inj this).symm
        exact hkeep (hsame ▸ hentry.2)

theorem get?_erase {roster : Roster α} {removed endpoint : Endpoint} :
    (roster.erase removed).get? endpoint =
      if endpoint = removed then none else roster.get? endpoint := by
  rw [erase, get?_filter]
  cases roster.get? endpoint <;> by_cases h : endpoint = removed <;> simp [h]

end Roster

end ConferenceBridge
