import ConferenceBridge.Proofs.Conference.Transcript
import Mathlib.Data.List.Induction
import Mathlib.Data.List.Perm.Basic

namespace ConferenceBridge

/-! Lists in another order. If nobody is listed twice, each entry is heard as if it stood alone, so
the order is seen in nothing but who comes first: all that takes part, changes and is told is the
same. -/

namespace Snapshot

variable {first second : List Snapshot}

theorem filter_eq_of_perm (hperm : first.Perm second) (hnodup : (first.map (·.endpoint)).Nodup)
    (endpoint : Endpoint) :
    first.filter (·.endpoint = endpoint) = second.filter (·.endpoint = endpoint) := by
  have hfiltered := hperm.filter (·.endpoint = endpoint)
  have hunique : ((first.filter (·.endpoint = endpoint)).map (·.endpoint)).Nodup :=
    hnodup.sublist (List.filter_sublist.map _)
  have hnamed : ∀ entry ∈ first.filter (·.endpoint = endpoint), entry.endpoint = endpoint := by
    intro entry hentry
    simpa using (List.mem_filter.mp hentry).2
  generalize first.filter (·.endpoint = endpoint) = found at hfiltered hunique hnamed
  match found with
  | [] => exact hfiltered.nil_eq
  | [entry] => exact (List.perm_singleton.mp hfiltered.symm).symm
  | entry :: other :: rest =>
      rw [List.forall_mem_cons, List.forall_mem_cons] at hnamed
      rw [List.map_cons, List.map_cons, List.nodup_cons, hnamed.1, hnamed.2.1] at hunique
      exact absurd List.mem_cons_self hunique.1

theorem reports_eq_of_perm (hperm : first.Perm second) (hnodup : (first.map (·.endpoint)).Nodup)
    (endpoint : Endpoint) : reports endpoint first = reports endpoint second := by
  rw [reports, reports, filter_eq_of_perm hperm hnodup]

theorem find?_eq_of_perm (hperm : first.Perm second) (hnodup : (first.map (·.endpoint)).Nodup)
    (endpoint : Endpoint) :
    first.find? (·.endpoint = endpoint) = second.find? (·.endpoint = endpoint) := by
  rw [← List.head?_filter, filter_eq_of_perm hperm hnodup, List.head?_filter]

theorem mem_endpoints_of_perm (hperm : first.Perm second) (endpoint : Endpoint) :
    endpoint ∈ first.map (·.endpoint) ↔ endpoint ∈ second.map (·.endpoint) :=
  (hperm.map _).mem_iff

end Snapshot

namespace Conference

variable {conference : Conference}

section Alone

variable {earlier : List Snapshot} {entry : Snapshot}
  (h : entry.endpoint ∉ earlier.map (·.endpoint))

include h

/-- Whoever was not listed before hears the entry as if it were the first. -/
theorem changedBy_alone : conference.changedBy earlier entry = conference.changedBy [] entry := by
  rw [changedBy, changedBy, Snapshot.reports_eq_nil h]
  rfl

theorem changes_entryTranscript_alone :
    (conference.entryTranscript earlier entry).filterMap Effect.change? =
      (conference.entryTranscript [] entry).filterMap Effect.change? := by
  rw [entryTranscript, entryTranscript, Snapshot.reports_eq_nil h]
  cases conference.stateAt? entry.endpoint with
  | some state => rfl
  | none =>
      dsimp only
      rw [if_neg h]
      rfl

end Alone

/-- If nobody is listed twice, the entries may be taken one by one. -/
theorem changes_walkTranscript {earlier entries : List Snapshot}
    (hnodup : ((earlier ++ entries).map (·.endpoint)).Nodup) :
    (conference.walkTranscript earlier entries).filterMap Effect.change? =
      entries.flatMap fun entry =>
        (conference.entryTranscript [] entry).filterMap Effect.change? := by
  induction entries generalizing earlier with
  | nil => rfl
  | cons entry entries ih =>
      have halone : entry.endpoint ∉ earlier.map (·.endpoint) := by
        rw [List.map_append, List.nodup_append] at hnodup
        intro hmem
        exact hnodup.2.2 _ hmem _ List.mem_cons_self rfl
      have hrest : ((earlier ++ [entry] ++ entries).map (·.endpoint)).Nodup := by
        simpa using hnodup
      rw [walkTranscript, List.filterMap_append, changes_entryTranscript_alone halone, ih hrest,
        List.flatMap_cons]

theorem updates_eq_countP {entries : List Snapshot} (hnodup : (entries.map (·.endpoint)).Nodup) :
    conference.updates entries = entries.countP (conference.changedBy []) := by
  induction entries using List.reverseRecOn with
  | nil => rfl
  | append_singleton entries entry ih =>
      rw [List.map_append, List.nodup_append] at hnodup
      have halone : entry.endpoint ∉ entries.map (·.endpoint) := fun hmem =>
        hnodup.2.2 _ hmem _ List.mem_cons_self rfl
      rw [updates_concat, ih hnodup.1, changedBy_alone halone, List.countP_append]
      cases hchanges : conference.changedBy [] entry <;> simp [hchanges]

variable {first second : List Snapshot} (hperm : first.Perm second)
  (hnodup : (first.map (·.endpoint)).Nodup)

include hperm

theorem vanished_eq_of_perm : conference.vanished first = conference.vanished second := by
  unfold vanished
  congr 1
  funext entry
  rw [decide_eq_decide, not_iff_not]
  exact Snapshot.mem_endpoints_of_perm hperm entry.1

theorem newEndpoints_perm :
    (conference.newEndpoints first).Perm (conference.newEndpoints second) := by
  rw [List.perm_ext_iff_of_nodup (nodup_newEndpoints first) (nodup_newEndpoints second)]
  intro endpoint
  rw [mem_newEndpoints, mem_newEndpoints, Snapshot.mem_endpoints_of_perm hperm]

include hnodup

theorem updates_eq_of_perm : conference.updates first = conference.updates second := by
  rw [updates_eq_countP hnodup, updates_eq_countP ((hperm.map _).nodup_iff.mp hnodup),
    hperm.countP_eq]

theorem changes_transcript_perm (leaving : List (Endpoint × Nat)) :
    ((conference.transcript first leaving).filterMap Effect.change?).Perm
      ((conference.transcript second leaving).filterMap Effect.change?) := by
  have hsecond : (second.map (·.endpoint)).Nodup := (hperm.map _).nodup_iff.mp hnodup
  have hwalk : ((conference.walkTranscript [] first).filterMap Effect.change?).Perm
      ((conference.walkTranscript [] second).filterMap Effect.change?) := by
    rw [@changes_walkTranscript _ [] first hnodup, @changes_walkTranscript _ [] second hsecond]
    exact hperm.flatMap_right _
  have hbringUp : (conference.bringUpTranscript first).Perm
      (conference.bringUpTranscript second) := by
    simp only [bringUpTranscript, Snapshot.reports_eq_of_perm hperm hnodup]
    exact (newEndpoints_perm hperm).flatMap_right _
  have hmanage : conference.manageTranscript first = conference.manageTranscript second := by
    rw [manageTranscript, manageTranscript, hperm.isEmpty_eq]
  simp only [transcript, List.filterMap_append, hmanage]
  exact ((hwalk.append (hbringUp.filterMap _)).append_right _).append_right _

end Conference

namespace Scene

/-- What two lists make of a conference differs in nothing but the order of things. -/
structure SameButOrder (before : Scene) (one other : Scene × Reconciliation) : Prop where
  endpoints : ∀ endpoint, endpoint ∈ one.1.conference.roster.endpoints ↔
    endpoint ∈ other.1.conference.roster.endpoints
  numbers : ∀ endpoint ∈ before.conference.roster.endpoints,
    one.1.conference.roster.get? endpoint = other.1.conference.roster.get? endpoint
  members : ∀ endpoint,
    one.1.conference.member? endpoint = other.1.conference.member? endpoint
  participants : ∀ number < before.conference.participants.length,
    one.1.participant? number = other.1.participant? number
  regroups : one.1.conference.Regroups other.1.conference
  added : one.2.added.Perm other.2.added
  removed : one.2.removed.Perm other.2.removed
  updated : one.2.updated = other.2.updated
  told : one.1.changes.Perm other.1.changes

theorem SameButOrder.refl (before : Scene) (one : Scene × Reconciliation) :
    before.SameButOrder one one where
  endpoints _ := .rfl
  numbers _ _ := rfl
  members _ := rfl
  participants _ _ := rfl
  regroups := .refl _
  added := .refl _
  removed := .refl _
  updated := rfl
  told := .refl _

namespace Receptive

variable {scene : Scene} (h : scene.Receptive) {first second : List Snapshot}
  (hperm : first.Perm second) (hnodup : (first.map (·.endpoint)).Nodup)

include h

theorem changes_reconcile (entries : List Snapshot) : (scene.reconcile entries).1.changes =
    scene.changes ++ (scene.conference.transcript entries
      (scene.conference.vanished entries)).filterMap Effect.change? := by
  rw [changes_eq_outward, h.outward_reconcile, List.filterMap_append, ← changes_eq_outward]

theorem get?_reconcile {endpoint : Endpoint} (entries : List Snapshot)
    (hknown : endpoint ∈ scene.conference.roster.endpoints) :
    (scene.reconcile entries).1.conference.roster.get? endpoint =
      if endpoint ∈ entries.map (·.endpoint) then scene.conference.roster.get? endpoint
      else none := by
  split
  · rename_i hlisted
    obtain ⟨number, participant, hmem, hparticipant, -⟩ := h.coherent.exists_member hknown
    have hnumber := Roster.get?_eq_some_iff.mpr hmem
    rw [((h.reconciles entries).known _ _ _ hnumber hparticipant hlisted).1, hnumber]
  · rename_i hmissing
    rw [Roster.get?_eq_none_iff, (h.reconciles entries).endpoints]
    exact hmissing

include hperm hnodup

theorem sameButOrder :
    scene.SameButOrder (scene.reconcile first) (scene.reconcile second) := by
  have hone := h.reconciles first
  have hother := h.reconciles second
  have hlisted := Snapshot.mem_endpoints_of_perm hperm
  constructor
  · intro endpoint
    rw [hone.endpoints, hother.endpoints, hlisted]
  · intro endpoint hknown
    rw [h.get?_reconcile first hknown, h.get?_reconcile second hknown]
    simp only [hlisted]
  · intro endpoint
    rw [h.member?_reconcile, h.member?_reconcile, Snapshot.find?_eq_of_perm hperm hnodup,
      Snapshot.reports_eq_of_perm hperm hnodup]
  · intro number hnumber
    have hparticipant : scene.participant? number = some _ := List.getElem?_eq_getElem hnumber
    rw [h.participant?_reconcile hparticipant, h.participant?_reconcile hparticipant]
    simp only [hlisted, Snapshot.reports_eq_of_perm hperm hnodup]
  · have hcapabilities : (scene.reconcile second).1.conference.capabilities =
        (scene.reconcile first).1.conference.capabilities := by
      rw [h.capabilities_reconcile, h.capabilities_reconcile, hperm.isEmpty_eq]
    rw [Conference.Regroups, h.regroups_reconcile second, hcapabilities]
    conv_rhs => rw [h.regroups_reconcile first]
  · rw [hone.added, hother.added]
    exact Conference.newEndpoints_perm hperm
  · rw [List.perm_ext_iff_of_nodup hone.removed.1 hother.removed.1]
    intro endpoint
    rw [hone.removed.2, hother.removed.2, hlisted]
  · rw [hone.updated, hother.updated, Conference.updates_eq_of_perm hperm hnodup]
  · rw [h.changes_reconcile, h.changes_reconcile, Conference.vanished_eq_of_perm hperm]
    exact (Conference.changes_transcript_perm hperm hnodup _).append_left _

end Receptive

variable {id : ConferenceId} {config : ConferenceConfig} {handle : Handle} {start : Scene}

/-- Whatever happened before, it makes no difference in which order a list that names nobody twice
names them, while nobody calls back. -/
theorem reconcile_unordered (hopen : openOver? id config handle = .ok start)
    (requests : List Request) {first second : List Snapshot} (hperm : first.Perm second)
    (hnodup : (first.map (·.endpoint)).Nodup)
    (hsilent : Silent (start.run requests).register) :
    (start.run requests).SameButOrder ((start.run requests).reconcile first)
      ((start.run requests).reconcile second) := by
  cases htorn : (start.run requests).conference.tornDown with
  | true =>
      rw [reconcile_of_tornDown htorn, reconcile_of_tornDown htorn]
      exact .refl _ _
  | false => exact (receptive_run hopen requests htorn hsilent).sameButOrder hperm hnodup

def thirdList : List Snapshot :=
  [⟨⟨"upper", by decide⟩, .ringing, none, none⟩, ⟨⟨"lower", by decide⟩, .active, none, none⟩] ++
    (firstList.take 1).map fun entry => { entry with state := .held }

theorem reconcile_unordered_thirdList :
    Silent (fresh.run [.reconcile firstList]).register ∧
      ((fresh.run [.reconcile firstList]).reconcile thirdList).2.added =
        [⟨"upper", by decide⟩, ⟨"lower", by decide⟩] ∧
      ((fresh.run [.reconcile firstList]).reconcile thirdList.reverse).2.added =
        [⟨"lower", by decide⟩, ⟨"upper", by decide⟩] ∧
      (fresh.run [.reconcile firstList]).SameButOrder
        ((fresh.run [.reconcile firstList]).reconcile thirdList)
        ((fresh.run [.reconcile firstList]).reconcile thirdList.reverse) :=
  ⟨silent_firstList, rfl, rfl, reconcile_unordered openOver?_fresh [.reconcile firstList]
    (List.reverse_perm thirdList).symm (by decide) silent_firstList⟩

end Scene

end ConferenceBridge
