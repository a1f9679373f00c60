import ConferenceBridge.Conference.Registry
import ConferenceBridge.Proofs.Conference.Transition
import Mathlib.Data.List.Induction
import Mathlib.Data.List.Nodup
import Mathlib.Data.List.Perm.Basic

namespace ConferenceBridge

/-! Conferences that come and go. A conference is listed from its promotion until a purge finds it
torn down. Whoever holds it may use it all the while and later, past the registry, so it may be torn
down long before the registry takes note of it. -/

/-- All that may be asked of a registry, and past it of one of its conferences. -/
inductive RegistryCall
  | promote (id : ConferenceId) (handle : Handle)
  | deliver (id : ConferenceId) (event : HostEvent)
  | purge
  | direct (id : ConferenceId) (request : Request)

def RegistryCall.promoted? : RegistryCall → Option ConferenceId
  | promote id _ => some id
  | _ => none

namespace Registry

def serve (registry : Registry) : RegistryCall → Registry
  | .promote id handle => (registry.promote id handle).1
  | .deliver id event => (registry.deliver id event).toOption.getD registry
  | .purge => registry.purge.1
  | .direct id request => registry.update id (·.serve request)

def run (calls : List RegistryCall) (registry : Registry) : Registry :=
  calls.foldl serve registry

def promoted (calls : List RegistryCall) : List ConferenceId :=
  calls.filterMap RegistryCall.promoted?

def purged (calls : List RegistryCall) (registry : Registry) : List ConferenceId :=
  match calls with
  | [] => []
  | .purge :: calls => registry.purge.2 ++ purged calls (registry.serve .purge)
  | call :: calls => purged calls (registry.serve call)

variable {registry start : Registry} {id other : ConferenceId} {event : HostEvent} {scene : Scene}

theorem run_concat (calls : List RegistryCall) (call : RegistryCall) (registry : Registry) :
    registry.run (calls ++ [call]) = (registry.run calls).serve call := by
  simp [run]

theorem purged_append (calls more : List RegistryCall) (registry : Registry) :
    registry.purged (calls ++ more) = registry.purged calls ++ (registry.run calls).purged more := by
  induction calls generalizing registry with
  | nil => rfl
  | cons call calls ih =>
      cases call with
      | purge => simp only [List.cons_append, purged, ih, List.append_assoc, run, List.foldl_cons]
      | _ => simp only [List.cons_append, purged, ih, run, List.foldl_cons]

theorem mem_finished_iff :
    id ∈ registry.finished ↔
      id ∈ registry.listed ∧ ∃ scene, registry.scene? id = some scene ∧
        scene.conference.tornDown = true := by
  simp [finished, List.mem_filter, Option.any_eq_true]

theorem perm_purge (registry : Registry) :
    (registry.purge.1.listed ++ registry.purge.2).Perm registry.listed := by
  have hgone : registry.listed.filter (fun id => id ∈ registry.finished) = registry.finished := by
    rw [finished]
    refine List.filter_congr fun id hid => ?_
    simp [hid]
  have hparts := List.filter_append_perm (fun id => decide (id ∉ registry.finished)) registry.listed
  simp only [decide_not, Bool.not_not, hgone] at hparts
  simpa only [purge, decide_not] using hparts

theorem id_serve (request : Request) (scene : Scene) :
    (scene.serve request).conference.id = scene.conference.id :=
  (Scene.reaches_run [request] scene).id_eq

/-! What a delivery does follows from what is found under the id. -/

theorem deliver_of_none (h : registry.lookup? id = none) (event : HostEvent) :
    registry.deliver id event = .error (.notFound id) := by
  rw [deliver, h]

theorem deliver_of_tornDown (h : registry.lookup? id = some scene)
    (htorn : scene.conference.tornDown = true) (event : HostEvent) :
    registry.deliver id event = .error (.tornDown id) := by
  simp [deliver, h, htorn]

theorem deliver_of_open (h : registry.lookup? id = some scene)
    (hopen : scene.conference.tornDown = false) (event : HostEvent) :
    registry.deliver id event = .ok (registry.update id (·.process event)) := by
  simp [deliver, h, hopen]

theorem serve_deliver_eq_or (id : ConferenceId) (event : HostEvent) (registry : Registry) :
    registry.serve (.deliver id event) = registry ∨
      registry.serve (.deliver id event) = registry.update id (·.process event) := by
  rw [serve, deliver]
  split
  · exact .inl rfl
  · split
    · exact .inl rfl
    · exact .inr rfl

/-- The conferences are those that were made, and each of them is listed or was given back by a
purge. -/
structure Accounts (start : Registry) (calls : List RegistryCall) : Prop where
  made : (start.run calls).scenes.map (·.conference.id) = promoted calls
  parts : ((start.run calls).listed ++ start.purged calls).Perm (promoted calls)

theorem Accounts.of_update {calls : List RegistryCall} {call : RegistryCall}
    {change : Scene → Scene} (h : start.Accounts calls) (hcall : call.promoted? = none)
    (hpurged : (start.run calls).purged [call] = [])
    (hchange : ∀ scene, (change scene).conference.id = scene.conference.id)
    (hserve : (start.run calls).serve call = (start.run calls).update id change) :
    start.Accounts (calls ++ [call]) := by
  have hpromoted : promoted (calls ++ [call]) = promoted calls := by simp [promoted, hcall]
  constructor
  · rw [run_concat, hserve, ids_update fun scene hid => (hchange scene).trans hid, h.made,
      hpromoted]
  · rw [run_concat, hserve, listed_update, purged_append, hpurged, List.append_nil, hpromoted]
    exact h.parts

theorem accounts_run (hscenes : start.scenes = []) (hlisted : start.listed = [])
    (calls : List RegistryCall) : start.Accounts calls := by
  induction calls using List.reverseRecOn with
  | nil => exact ⟨by rw [run, List.foldl_nil, hscenes]; rfl, by rw [run, List.foldl_nil, hlisted]; rfl⟩
  | append_singleton calls call ih =>
      cases call with
      | promote id handle =>
          have hpromoted : promoted (calls ++ [.promote id handle]) = promoted calls ++ [id] := by
            simp [promoted, RegistryCall.promoted?]
          constructor
          · rw [run_concat, hpromoted, ← ih.made]
            simp [serve, promote]
            rfl
          · rw [run_concat, purged_append, hpromoted]
            refine List.Perm.trans ?_ (ih.parts.append_right [id])
            simp only [serve, promote, purged, List.append_nil, List.append_assoc]
            exact (List.perm_append_comm).append_left _
      | deliver id event =>
          rcases serve_deliver_eq_or id event (start.run calls) with heq | heq
          · have hsame : promoted (calls ++ [.deliver id event]) = promoted calls := by
              simp [promoted, RegistryCall.promoted?]
            constructor
            · rw [run_concat, heq, hsame, ih.made]
            · rw [run_concat, heq, purged_append, hsame]
              simpa [purged] using ih.parts
          · exact ih.of_update rfl rfl (fun scene => Scene.id_process event scene) heq
      | purge =>
          have hsame : promoted (calls ++ [.purge]) = promoted calls := by
            simp [promoted, RegistryCall.promoted?]
          constructor
          · rw [run_concat, hsame, ← ih.made]
            rfl
          · rw [run_concat, purged_append, hsame]
            refine List.Perm.trans ?_ ih.parts
            simp only [serve, purged, List.append_nil]
            refine List.Perm.trans ?_ ((perm_purge (start.run calls)).append_right _)
            rw [List.append_assoc]
            exact (List.perm_append_comm).append_left _
      | direct id request => exact ih.of_update rfl rfl (id_serve request) rfl

section Accounts

variable {calls : List RegistryCall} (h : start.Accounts calls) (hfresh : (promoted calls).Nodup)

include h

theorem Accounts.exists_scene? (hmem : id ∈ promoted calls) :
    ∃ scene, (start.run calls).scene? id = some scene := by
  rw [← h.made] at hmem
  obtain ⟨scene, hscene, hid⟩ := List.mem_map.mp hmem
  rw [← Option.isSome_iff_exists, scene?, List.find?_isSome]
  exact ⟨scene, hscene, beq_iff_eq.mpr hid⟩

include hfresh

theorem Accounts.nodup_parts : ((start.run calls).listed ++ start.purged calls).Nodup :=
  h.parts.nodup_iff.mpr hfresh

theorem Accounts.mem_listed_iff :
    id ∈ (start.run calls).listed ↔ id ∈ promoted calls ∧ id ∉ start.purged calls := by
  have hdisjoint := List.disjoint_of_nodup_append (h.nodup_parts hfresh)
  rw [← h.parts.mem_iff, List.mem_append]
  constructor
  · exact fun hlisted => ⟨.inl hlisted, fun hpurged => hdisjoint hlisted hpurged⟩
  · rintro ⟨hlisted | hpurged, hkept⟩
    · exact hlisted
    · exact absurd hpurged hkept

theorem Accounts.lookup?_of_listed (hmem : id ∈ promoted calls) (hkept : id ∉ start.purged calls) :
    (start.run calls).lookup? id = (start.run calls).scene? id := by
  rw [lookup?, if_pos ((h.mem_listed_iff hfresh).mpr ⟨hmem, hkept⟩)]

theorem Accounts.lookup?_eq_none (habsent : id ∉ promoted calls ∨ id ∈ start.purged calls) :
    (start.run calls).lookup? id = none := by
  rw [lookup?, if_neg]
  intro hlisted
  obtain ⟨hmem, hkept⟩ := (h.mem_listed_iff hfresh).mp hlisted
  rcases habsent with hnever | hpurged
  · exact hnever hmem
  · exact hkept hpurged

end Accounts

/-- How a delivery ends, and what it changes. -/
structure Delivers (calls : List RegistryCall) (id : ConferenceId) (event : HostEvent)
    (start : Registry) : Prop where
  ok_iff : (∃ next, (start.run calls).deliver id event = .ok next) ↔
    id ∈ promoted calls ∧ id ∉ start.purged calls ∧
      ∃ scene, (start.run calls).scene? id = some scene ∧ scene.conference.tornDown = false
  tornDown_iff : (start.run calls).deliver id event = .error (.tornDown id) ↔
    id ∈ promoted calls ∧ id ∉ start.purged calls ∧
      ∃ scene, (start.run calls).scene? id = some scene ∧ scene.conference.tornDown = true
  notFound_iff : (start.run calls).deliver id event = .error (.notFound id) ↔
    id ∉ promoted calls ∨ id ∈ start.purged calls
  refused : ∀ error, (start.run calls).deliver id event = .error error →
    start.run (calls ++ [.deliver id event]) = start.run calls
  heard : ∀ next, (start.run calls).deliver id event = .ok next →
    start.run (calls ++ [.deliver id event]) = next ∧ next.listed = (start.run calls).listed ∧
      next.scene? id = ((start.run calls).scene? id).map (·.process event) ∧
      (∀ other, other ≠ id → next.scene? other = (start.run calls).scene? other) ∧
      next.scenes.map (·.conference.id) = (start.run calls).scenes.map (·.conference.id)

theorem delivers_run {calls : List RegistryCall} (h : start.Accounts calls)
    (hfresh : (promoted calls).Nodup) (id : ConferenceId) (event : HostEvent) :
    start.Delivers calls id event := by
  have hid : ∀ scene : Scene, scene.conference.id = id → (scene.process event).conference.id = id :=
    fun scene hscene => (Scene.id_process event scene).trans hscene
  have hserved : start.run (calls ++ [.deliver id event]) =
      ((start.run calls).deliver id event).toOption.getD (start.run calls) := run_concat _ _ _
  by_cases habsent : id ∉ promoted calls ∨ id ∈ start.purged calls
  · have hdeliver := deliver_of_none (h.lookup?_eq_none hfresh habsent) event
    have hnot : ¬ (id ∈ promoted calls ∧ id ∉ start.purged calls) := by tauto
    refine ⟨?_, ?_, ?_, ?_, ?_⟩
    · simp [hdeliver, ← and_assoc, hnot]
    · simp [hdeliver, ← and_assoc, hnot]
    · exact iff_of_true hdeliver habsent
    · intro error _
      rw [hserved, hdeliver]
      rfl
    · intro next hnext
      rw [hdeliver] at hnext
      cases hnext
  · rw [not_or, not_not] at habsent
    obtain ⟨hmade, hkept⟩ := habsent
    obtain ⟨scene, hscene⟩ := h.exists_scene? hmade
    have hlookup := (h.lookup?_of_listed hfresh hmade hkept).trans hscene
    cases htorn : scene.conference.tornDown with
    | true =>
        have hdeliver := deliver_of_tornDown hlookup htorn event
        refine ⟨?_, ?_, ?_, ?_, ?_⟩
        · simp [hdeliver, hscene, htorn]
        · simp [hdeliver, hmade, hkept, hscene, htorn]
        · simp [hdeliver, hmade, hkept]
        · intro error _
          rw [hserved, hdeliver]
          rfl
        · intro next hnext
          rw [hdeliver] at hnext
          cases hnext
    | false =>
        have hdeliver := deliver_of_open hlookup htorn event
        refine ⟨?_, ?_, ?_, ?_, ?_⟩
        · simp [hdeliver, hmade, hkept, hscene, htorn]
        · simp [hdeliver, hscene, htorn]
        · simp [hdeliver, hmade, hkept]
        · intro error herror
          rw [hdeliver] at herror
          cases herror
        · intro next hnext
          rw [hserved, hnext]
          rw [hdeliver] at hnext
          cases hnext
          exact ⟨rfl, rfl, scene?_update_self hid, fun _ => scene?_update_of_ne hid,
            ids_update hid⟩

theorem eq_of_open? {config : ConferenceConfig} (h : open? config = .ok start) :
    start.scenes = [] ∧ start.listed = [] := by
  unfold open? at h
  split at h
  · cases h
  · cases h
    exact ⟨rfl, rfl⟩

/-- A conference can be reached through the registry from its promotion until it is torn down, even
if that happens past the registry; from then until the next purge it is said to be torn down, and
otherwise not to be found. What is refused changes nothing, and an event that is delivered changes
only the conference that it is meant for, just as if that had been told directly. A purge gives back
each conference that is torn down and still listed once, and leaves the others; what it gave back is
never found again. -/
theorem registry_lifecycle {config : ConferenceConfig} (hopen : open? config = .ok start)
    (calls : List RegistryCall) (hfresh : (promoted calls).Nodup) :
    let registry := start.run calls
    (∀ id event, start.Delivers calls id event) ∧
    (∀ id, id ∈ registry.purge.2 ↔ id ∈ promoted calls ∧ id ∉ start.purged calls ∧
      ∃ scene, registry.scene? id = some scene ∧ scene.conference.tornDown = true) ∧
    (start.purged calls ++ registry.purge.2).Nodup ∧
    (∀ id, id ∈ registry.purge.1.listed ↔ id ∈ registry.listed ∧ id ∉ registry.purge.2) ∧
    registry.purge.1.scenes = registry.scenes ∧
    registry.purge.1.purge.2 = [] ∧
    (∀ id ∈ start.purged calls ++ registry.purge.2, ∀ more,
      (promoted (calls ++ .purge :: more)).Nodup →
        (start.run (calls ++ .purge :: more)).lookup? id = none) := by
  intro registry
  obtain ⟨hscenes, hlisted⟩ := eq_of_open? hopen
  have h := accounts_run hscenes hlisted calls
  have hpurge := accounts_run hscenes hlisted (calls ++ [.purge])
  have hpurged : start.purged (calls ++ [.purge]) = start.purged calls ++ registry.purge.2 := by
    rw [purged_append]
    simp [purged, registry]
  have hpromoted : promoted (calls ++ [.purge]) = promoted calls := by
    simp [promoted, RegistryCall.promoted?]
  have hfinished : ∀ id, id ∈ registry.purge.2 ↔ id ∈ registry.listed ∧
      ∃ scene, registry.scene? id = some scene ∧ scene.conference.tornDown = true :=
    fun id => mem_finished_iff
  refine ⟨delivers_run h hfresh, ?_, ?_, ?_, rfl, ?_, ?_⟩
  · intro id
    rw [hfinished, h.mem_listed_iff hfresh, and_assoc]
  · have hnodup := hpurge.nodup_parts (hpromoted ▸ hfresh)
    rw [hpurged] at hnodup
    exact hnodup.of_append_right
  · intro id
    simp [purge]
  · rw [List.eq_nil_iff_forall_not_mem]
    intro id hid
    have hagain := mem_finished_iff.mp hid
    have hkept : id ∈ registry.listed ∧ id ∉ registry.finished := by
      simpa [purge] using hagain.1
    exact hkept.2 (mem_finished_iff.mpr ⟨hkept.1, hagain.2⟩)
  · intro id hid more hmore
    have hlater := accounts_run hscenes hlisted (calls ++ .purge :: more)
    apply hlater.lookup?_eq_none hmore
    right
    have hsplit : calls ++ .purge :: more = (calls ++ [.purge]) ++ more := by simp
    rw [hsplit, purged_append, hpurged]
    exact List.mem_append_left _ hid

theorem validate_usual : ({} : ConferenceConfig).validate = .ok () := rfl

def empty : Registry where
  config := {}
  valid := validate_usual

theorem open?_empty : open? {} = .ok empty := rfl

def endedBehind : List RegistryCall :=
  [.promote .nil { label := "host", phone := ⟨1⟩ }, .direct .nil (.event .destroyed),
    .promote (.ofRandom ConferenceId.digitOf) { label := "host", phone := ⟨2⟩ }]

theorem registry_lifecycle_endedBehind :
    (promoted endedBehind).Nodup ∧
      (empty.run endedBehind).deliver .nil .destroyed = .error (.tornDown .nil) ∧
      .nil ∈ (empty.run endedBehind).purge.2 := by
  have hfresh : (promoted endedBehind).Nodup := by decide
  obtain ⟨hdelivers, hpurge, -⟩ := registry_lifecycle open?_empty endedBehind hfresh
  have hended : .nil ∈ promoted endedBehind ∧ .nil ∉ empty.purged endedBehind ∧
      ∃ scene, (empty.run endedBehind).scene? .nil = some scene ∧
        scene.conference.tornDown = true :=
    ⟨by decide, List.not_mem_nil, _, rfl, rfl⟩
  exact ⟨hfresh, (hdelivers .nil .destroyed).tornDown_iff.mpr hended, (hpurge .nil).mpr hended⟩

end Registry

end ConferenceBridge
