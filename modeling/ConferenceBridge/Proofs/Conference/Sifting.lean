import ConferenceBridge.Conference.Roster
import Mathlib.Data.List.Nodup
import Mathlib.Data.List.Perm.Basic

namespace ConferenceBridge

/-! What a roster looks like from outside, and what is left of it when many are taken out. Since
each endpoint is listed once, it does not matter whether all that fall through go at once or one
after another, nor in which order. -/

namespace Roster

variable {α : Type} {roster next : Roster α} {endpoint : Endpoint} {member : α}

theorem get?_of_mem {entry : Endpoint × α} (h : entry ∈ roster.entries) :
    roster.get? entry.1 = some entry.2 :=
  get?_eq_some_iff.mpr h

theorem get?_of_append (h : next.entries = roster.entries ++ [(endpoint, member)])
    (other : Endpoint) :
    next.get? other = if other = endpoint then some member else roster.get? other := by
  by_cases hsame : other = endpoint
  · rw [if_pos hsame, get?_eq_some_iff, h, hsame]
    exact List.mem_append_right _ List.mem_cons_self
  · have hlast : List.lookup other [(endpoint, member)] = none := by
      rw [List.lookup_eq_none_iff]
      simpa using hsame
    rw [if_neg hsame, get?, h, List.lookup_append, hlast, Option.or_none, get?]

theorem filter_everyone (roster : Roster α) : (roster.filter fun _ => true) = roster :=
  eq_of_entries (List.filter_eq_self.mpr fun _ _ => rfl)

theorem filter_nobody (roster : Roster α) : (roster.filter fun _ => false) = .empty :=
  eq_empty_of_entries (List.filter_eq_nil_iff.mpr fun _ _ => Bool.false_ne_true)

theorem map_some_filter (roster : Roster α) (keep : Endpoint → Bool) :
    ((roster.entries.filter fun entry => keep entry.1).map Prod.snd).map some =
      (roster.endpoints.filter keep).map roster.get? := by
  rw [endpoints, List.filter_map, List.map_map, List.map_map]
  exact List.map_congr_left fun entry hentry =>
    (get?_of_mem (List.mem_of_mem_filter hentry)).symm

theorem map_some_members (roster : Roster α) :
    roster.members.map some = roster.endpoints.map roster.get? := by
  rw [members, endpoints, List.map_map, List.map_map]
  exact List.map_congr_left fun entry hentry => (get?_of_mem hentry).symm

/-- What can be asked about a roster without changing it fits together. -/
structure Tallies (roster : Roster α) : Prop where
  nodup : roster.endpoints.Nodup
  size_eq : roster.size = roster.endpoints.length
  isEmpty_iff : roster.isEmpty = true ↔ roster.size = 0
  contains_iff : ∀ endpoint, roster.contains endpoint = true ↔ endpoint ∈ roster.endpoints
  members_eq : roster.members.map some = roster.endpoints.map roster.get?

theorem tallies (roster : Roster α) : roster.Tallies where
  nodup := roster.nodup
  size_eq := by rw [size, endpoints, List.length_map]
  isEmpty_iff := by rw [isEmpty, size, List.isEmpty_iff, List.length_eq_zero_iff]
  contains_iff endpoint := by
    rw [contains, ← not_iff_not, ← get?_eq_none_iff, Bool.not_eq_true, Option.isSome_eq_false_iff,
      Option.isNone_iff_eq_none]
  members_eq := roster.map_some_members

theorem erased_eq (roster : Roster α) (endpoint : Endpoint) :
    (roster.entries.filter fun entry => !(entry.1 != endpoint)).map Prod.snd =
      (roster.get? endpoint).toList := by
  have hkey : ∀ other : Endpoint, (!(other != endpoint)) = true ↔ other = endpoint := by simp
  cases hmember : roster.get? endpoint with
  | none =>
      rw [List.filter_eq_nil_iff.mpr]
      · rfl
      · intro entry hentry hsame
        rw [← (hkey entry.1).mp hsame, get?_of_mem hentry] at hmember
        cases hmember
  | some member =>
      have hsingle : (roster.entries.filter fun entry => !(entry.1 != endpoint)).Perm
          [(endpoint, member)] := by
        apply (List.perm_ext_iff_of_nodup (roster.nodup.of_map.filter _)
          (List.nodup_singleton _)).mpr
        rintro ⟨other, occupant⟩
        rw [List.mem_filter, hkey, List.mem_singleton, Prod.mk.injEq, ← get?_eq_some_iff]
        constructor
        · rintro ⟨hoccupant, rfl⟩
          exact ⟨rfl, Option.some.inj (hoccupant.symm.trans hmember)⟩
        · rintro ⟨rfl, rfl⟩
          exact ⟨hmember, rfl⟩
      rw [List.perm_singleton.mp hsingle]
      rfl

/-- Takes out the entries under the endpoints one after another. Endpoints that were gathered before
and are not there any more are passed over. -/
def removeEach (roster : Roster α) : List Endpoint → List α × Roster α
  | [] => ([], roster)
  | endpoint :: endpoints =>
      let (members, rest) := (roster.erase endpoint).removeEach endpoints
      ((roster.get? endpoint).toList ++ members, rest)

theorem removeEach_of_nodup {endpoints : List Endpoint} (h : endpoints.Nodup) (roster : Roster α) :
    roster.removeEach endpoints =
      (endpoints.filterMap roster.get?, roster.filter fun entry => entry.1 ∉ endpoints) := by
  induction endpoints generalizing roster with
  | nil =>
      refine Prod.ext rfl (eq_of_entries ?_)
      simp [removeEach, filter]
  | cons endpoint endpoints ih =>
      obtain ⟨hfirst, hrest⟩ := List.nodup_cons.mp h
      rw [removeEach, ih hrest]
      have hsame : endpoints.filterMap (roster.erase endpoint).get? =
          endpoints.filterMap roster.get? := by
        refine List.filterMap_congr fun other hother => ?_
        rw [get?_erase, if_neg (ne_of_mem_of_not_mem hother hfirst)]
      refine Prod.ext ?_ (eq_of_entries ?_)
      · rw [hsame, List.filterMap_cons]
        cases roster.get? endpoint <;> rfl
      · simp only [erase, filter, List.filter_filter]
        refine List.filter_congr fun entry _ => ?_
        simp only [decide_not, List.mem_cons, not_or, Bool.decide_and, bne]
        exact Bool.and_comm _ _

theorem filterMap_get?_endpoints (roster : Roster α) (keep : Endpoint → Bool) :
    (roster.endpoints.filter keep).filterMap roster.get? =
      (roster.entries.filter fun entry => keep entry.1).map Prod.snd := by
  calc (roster.endpoints.filter keep).filterMap roster.get?
    _ = ((roster.endpoints.filter keep).map roster.get?).filterMap id := by
        rw [List.filterMap_map, Function.id_comp]
    _ = (((roster.entries.filter fun entry => keep entry.1).map Prod.snd).map some).filterMap id :=
        congrArg _ (roster.map_some_filter keep).symm
    _ = (roster.entries.filter fun entry => keep entry.1).map Prod.snd := by
        rw [List.filterMap_map (f := some), Function.id_comp, List.filterMap_some]

/-- In whatever order the endpoints are gathered, nobody is passed over. -/
theorem removeEach_of_perm {order : List Endpoint} (keep : Endpoint → Bool)
    (h : order.Perm (roster.endpoints.filter fun endpoint => !keep endpoint)) :
    (roster.removeEach order).1.Perm
        ((roster.entries.filter fun entry => !keep entry.1).map Prod.snd) ∧
      (roster.removeEach order).2 = roster.filter fun entry => keep entry.1 := by
  have hnodup : order.Nodup := h.nodup_iff.mpr (roster.nodup.filter _)
  rw [removeEach_of_nodup hnodup]
  constructor
  · rw [← roster.filterMap_get?_endpoints fun endpoint => !keep endpoint]
    exact h.filterMap roster.get?
  · apply eq_of_entries
    refine List.filter_congr fun entry hentry => ?_
    have hlisted : entry.1 ∈ roster.endpoints := List.mem_map_of_mem hentry
    rw [Bool.eq_iff_iff, decide_eq_true_iff, h.mem_iff, List.mem_filter]
    simp [hlisted]

/-- Taking many out at once comes to the same as gathering their endpoints first, in whatever order,
and then removing one after another. -/
structure SiftsOneByOne (roster : Roster α) : Prop where
  split : ∀ listed order, order.Perm (roster.endpoints.filter (· ∉ listed)) →
    (roster.removeEach order).1.Perm ((roster.splitBy listed).2.map Prod.snd) ∧
      (roster.removeEach order).2 = (roster.splitBy listed).1
  clear : ∀ order, order.Perm roster.endpoints →
    (roster.removeEach order).1.Perm roster.members ∧ (roster.removeEach order).2 = .empty

theorem siftsOneByOne (roster : Roster α) : roster.SiftsOneByOne where
  split listed order h := by
    have hparts := removeEach_of_perm (fun endpoint => endpoint ∈ listed) (by simpa using h)
    simpa [splitBy] using hparts
  clear order h := by
    obtain ⟨hmembers, hrest⟩ := removeEach_of_perm (fun _ => false) (by simpa using h)
    exact ⟨by simpa [members] using hmembers, hrest.trans roster.filter_nobody⟩

end Roster

end ConferenceBridge
