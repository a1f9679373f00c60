import ConferenceBridge.Conference.Request

namespace ConferenceBridge

/-! All conferences of a bridge. One that was taken down stays listed until the next purge; whoever
holds it may use it even longer. -/

structure Registry where
  config : ConferenceConfig
  valid : config.validate = .ok ()
  /-- All conferences there ever were, oldest first. -/
  scenes : List Scene := []
  listed : List ConferenceId := []

inductive RegistryNotice
  | registered (id : ConferenceId) (count : Nat)
  | purged (count : Nat)
  deriving DecidableEq, Repr

open Log in
def RegistryNotice.record : RegistryNotice → Record
  | registered id count =>
      ⟨.info, target, "Konferenz registriert",
        [("konferenz", .text id.display), ("anzahl", .count count)]⟩
  | purged count =>
      ⟨.debug, target, "Abgebaute Konferenzen entfernt", [("anzahl", .count count)]⟩
where
  target := "callbridge_conference::manager"

namespace Registry

def open? (config : ConferenceConfig) : Except ConferenceError Registry :=
  match h : config.validate with
  | .error fault => .error (.ofFault fault)
  | .ok () => .ok { config, valid := h }

def size (registry : Registry) : Nat :=
  registry.listed.length

def scene? (registry : Registry) (id : ConferenceId) : Option Scene :=
  registry.scenes.find? fun scene => scene.conference.id == id

theorem id_of_scene? {registry : Registry} {id : ConferenceId} {scene : Scene}
    (h : registry.scene? id = some scene) : scene.conference.id = id := by
  simpa using List.find?_some h

def lookup? (registry : Registry) (id : ConferenceId) : Option Scene :=
  if id ∈ registry.listed then registry.scene? id else none

/-- Changes one conference, listed or not. -/
def update (id : ConferenceId) (change : Scene → Scene) (registry : Registry) : Registry :=
  { registry with
    scenes := registry.scenes.map fun scene =>
      if scene.conference.id = id then change scene else scene }

@[simp] theorem listed_update (id : ConferenceId) (change : Scene → Scene) (registry : Registry) :
    (registry.update id change).listed = registry.listed := rfl

section Update

variable {registry : Registry} {id : ConferenceId} {change : Scene → Scene}
  (hid : ∀ scene, scene.conference.id = id → (change scene).conference.id = id)

include hid

theorem scene?_update_self :
    (registry.update id change).scene? id = (registry.scene? id).map change := by
  simp only [scene?, update]
  induction registry.scenes with
  | nil => rfl
  | cons scene rest ih =>
      by_cases hscene : scene.conference.id = id
      · simp [hscene, hid scene hscene]
      · simp [hscene, ih]

theorem scene?_update_of_ne {other : ConferenceId} (hne : other ≠ id) :
    (registry.update id change).scene? other = registry.scene? other := by
  simp only [scene?, update]
  induction registry.scenes with
  | nil => rfl
  | cons scene rest ih =>
      by_cases hscene : scene.conference.id = id
      · simp [hscene, hid scene hscene, hne.symm, ih]
      · simp only [List.map_cons, hscene, if_false, List.find?_cons, ih]

theorem ids_update :
    (registry.update id change).scenes.map (·.conference.id) =
      registry.scenes.map (·.conference.id) := by
  simp only [update, List.map_map]
  apply List.map_congr_left
  intro scene _
  by_cases hscene : scene.conference.id = id
  · simp [hscene, hid scene hscene]
  · simp [hscene]

theorem update_update (more : Scene → Scene) :
    (registry.update id change).update id more = registry.update id (more ∘ change) := by
  simp only [update, List.map_map]
  congr 1
  apply List.map_congr_left
  intro scene _
  by_cases hscene : scene.conference.id = id
  · simp [hscene, hid scene hscene]
  · simp [hscene]

end Update

def promote (id : ConferenceId) (handle : Handle) (registry : Registry) :
    Registry × RegistryNotice :=
  let registry := { registry with
    scenes := registry.scenes ++ [.openOver id registry.config handle]
    listed := registry.listed ++ [id] }
  (registry, .registered id registry.size)

theorem scene?_promote_self {registry : Registry} {id : ConferenceId}
    (hnew : id ∉ registry.scenes.map (·.conference.id)) (handle : Handle) :
    (registry.promote id handle).1.scene? id = some (.openOver id registry.config handle) := by
  have hnone : registry.scenes.find? (fun scene => scene.conference.id == id) = none := by
    rw [List.find?_eq_none]
    intro scene hscene heq
    exact hnew (List.mem_map.mpr ⟨scene, hscene, beq_iff_eq.mp heq⟩)
  have hself : ((Scene.openOver id registry.config handle).conference.id == id) = true :=
    beq_iff_eq.mpr rfl
  simp [scene?, promote, hnone, hself]

theorem scene?_promote_of_ne {id other : ConferenceId} (hne : other ≠ id) (handle : Handle)
    (registry : Registry) :
    (registry.promote id handle).1.scene? other = registry.scene? other := by
  have hother : ((Scene.openOver id registry.config handle).conference.id == other) = false :=
    beq_eq_false_iff_ne.mpr hne.symm
  simp [scene?, promote, hother]

def deliver (id : ConferenceId) (event : HostEvent) (registry : Registry) :
    Except ConferenceError Registry :=
  match registry.lookup? id with
  | none => .error (.notFound id)
  | some scene =>
      if scene.conference.tornDown then .error (.tornDown id)
      else .ok (registry.update id (·.process event))

def finished (registry : Registry) : List ConferenceId :=
  registry.listed.filter fun id =>
    (registry.scene? id).any fun scene => scene.conference.tornDown

def purge (registry : Registry) : Registry × List ConferenceId :=
  let finished := registry.finished
  ({ registry with listed := registry.listed.filter fun id => id ∉ finished }, finished)

def purgeNotice? (purged : List ConferenceId) : Option RegistryNotice :=
  if purged.isEmpty then none else some (.purged purged.length)

end Registry

end ConferenceBridge
