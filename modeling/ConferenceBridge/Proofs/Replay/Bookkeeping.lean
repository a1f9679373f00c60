import ConferenceBridge.Proofs.Conference.Likeness
import ConferenceBridge.Proofs.Conference.Registration
import ConferenceBridge.Replay.Server
import Mathlib.Data.List.Nodup
import Mathlib.Data.Set.Function
import Mathlib.Order.Interval.Set.Defs

namespace ConferenceBridge

/-! What a server keeps in order from line to line: every open room has a conference of its own that
the registry lists, and no two rooms share a name. -/

def LineAction.wanted : LineAction → UserAction
  | .command asked => .command asked
  | .split endpoint => .split endpoint

namespace Room

def hear (event : HostEvent) (room : Room) : Room :=
  { room with host := room.host.hear event }

def handOver (room : Room) (scene : Scene) : Scene :=
  { scene with handle := room.host.handle }

end Room

namespace Server

variable {server next : Server} {room : Room} {name other : String} {id : ConferenceId}
  {handle : Handle} {change : Scene → Scene}

/-- The names in use, each with the id of its conference. -/
def doors (server : Server) : List (String × ConferenceId) :=
  server.rooms.map fun room => (room.name, room.id)

def Fresh (server : Server) : Prop :=
  Set.InjOn server.ids (Set.Iio server.statistics.created)

/-- The ledger holds, though conferences that are torn down may still be listed. -/
structure Tidy (server : Server) : Prop where
  created : server.registry.scenes.map (·.conference.id) =
    (List.range server.statistics.created).map server.ids
  listed : server.registry.listed = server.doors.map Prod.snd
  names : (server.doors.map Prod.fst).Nodup
  ids : (server.doors.map Prod.snd).Nodup
  calm : ∀ name id, (name, id) ∈ server.doors →
    ∃ scene, server.registry.scene? id = some scene ∧ scene.Calm

structure Orderly (server : Server) : Prop extends server.Tidy where
  stillOpen : ∀ name id scene, (name, id) ∈ server.doors →
    server.registry.scene? id = some scene → scene.conference.tornDown = false

namespace Tidy

theorem id_unique (h : server.Tidy) {first second : ConferenceId}
    (hfirst : (name, first) ∈ server.doors) (hsecond : (name, second) ∈ server.doors) :
    first = second :=
  congrArg Prod.snd (List.inj_on_of_nodup_map h.names hfirst hsecond rfl)

theorem name_unique (h : server.Tidy) (hfirst : (name, id) ∈ server.doors)
    (hsecond : (other, id) ∈ server.doors) : name = other :=
  congrArg Prod.fst (List.inj_on_of_nodup_map h.ids hfirst hsecond rfl)

theorem room?_of_mem (h : server.Tidy) (hmem : (name, id) ∈ server.doors) :
    ∃ room, server.room? name = some room ∧ room.name = name ∧ room.id = id := by
  obtain ⟨room, hroom, heq⟩ := List.mem_map.mp hmem
  cases hfound : server.room? name with
  | none =>
      have hnone := List.find?_eq_none.mp hfound room hroom
      exact absurd (congrArg Prod.fst heq) (by simpa using hnone)
  | some found =>
      have hname : found.name = name := by simpa using List.find?_some hfound
      have hdoor : (name, found.id) ∈ server.doors :=
        List.mem_map.mpr ⟨found, List.mem_of_find?_eq_some hfound, by rw [hname]⟩
      exact ⟨found, rfl, hname, h.id_unique hdoor hmem⟩

theorem conference?_of_mem (h : server.Tidy) (hmem : (name, id) ∈ server.doors) :
    server.conference? name = server.registry.scene? id := by
  obtain ⟨room, hroom, -, rfl⟩ := h.room?_of_mem hmem
  simp [conference?, hroom]

end Tidy

theorem room?_eq_none_iff : server.room? name = none ↔ ∀ id, (name, id) ∉ server.doors := by
  rw [room?, List.find?_eq_none]
  constructor
  · intro hnone id hmem
    obtain ⟨room, hroom, heq⟩ := List.mem_map.mp hmem
    exact hnone room hroom (beq_iff_eq.mpr (congrArg Prod.fst heq))
  · intro hnone room hroom heq
    exact hnone room.id (List.mem_map.mpr ⟨room, hroom, by rw [beq_iff_eq.mp heq]⟩)

theorem conference?_of_not_mem (h : ∀ id, (name, id) ∉ server.doors) :
    server.conference? name = none := by
  simp [conference?, room?_eq_none_iff.mpr h]

/-- A name finds the same if it leads to the same id and that to the same conference. -/
theorem Tidy.conference?_congr (h : server.Tidy) (hnext : next.Tidy)
    (hdoors : ∀ id, (name, id) ∈ next.doors ↔ (name, id) ∈ server.doors)
    (hscenes : ∀ id, (name, id) ∈ server.doors →
      next.registry.scene? id = server.registry.scene? id) :
    next.conference? name = server.conference? name := by
  by_cases hdoor : ∃ id, (name, id) ∈ server.doors
  · obtain ⟨id, hmem⟩ := hdoor
    rw [hnext.conference?_of_mem ((hdoors id).mpr hmem), h.conference?_of_mem hmem,
      hscenes id hmem]
  · rw [conference?_of_not_mem fun id hmem => hdoor ⟨id, (hdoors id).mp hmem⟩,
      conference?_of_not_mem fun id hmem => hdoor ⟨id, hmem⟩]

theorem Tidy.conference?_eq_none_iff (h : server.Tidy) :
    server.conference? name = none ↔ server.room? name = none := by
  rw [room?_eq_none_iff]
  refine ⟨fun hnone id hmem => ?_, conference?_of_not_mem⟩
  obtain ⟨scene, hscene, -⟩ := h.calm name id hmem
  rw [h.conference?_of_mem hmem, hscene] at hnone
  cases hnone

/-! What is done to the rooms and the registry in taking a line. -/

/-- The same rooms and conferences, though not the same hosts, counts and journal. -/
structure Same (server next : Server) : Prop where
  doors : next.doors = server.doors
  registry : next.registry = server.registry
  ids : next.ids = server.ids
  created : next.statistics.created = server.statistics.created

namespace Same

theorem trans {middle : Server} (hfirst : server.Same middle) (hsecond : middle.Same next) :
    server.Same next where
  doors := hsecond.doors.trans hfirst.doors
  registry := hsecond.registry.trans hfirst.registry
  ids := hsecond.ids.trans hfirst.ids
  created := hsecond.created.trans hfirst.created

theorem tidy (h : server.Same next) (htidy : server.Tidy) : next.Tidy where
  created := by rw [h.registry, h.created, h.ids, htidy.created]
  listed := by rw [h.registry, h.doors, htidy.listed]
  names := h.doors ▸ htidy.names
  ids := h.doors ▸ htidy.ids
  calm := by
    rw [h.doors, h.registry]
    exact htidy.calm

theorem orderly (h : server.Same next) (horderly : server.Orderly) : next.Orderly where
  toTidy := h.tidy horderly.toTidy
  stillOpen := by
    rw [h.doors, h.registry]
    exact horderly.stillOpen

theorem conference? (h : server.Same next) (htidy : server.Tidy) (name : String) :
    next.conference? name = server.conference? name :=
  htidy.conference?_congr (h.tidy htidy) (fun _ => by rw [h.doors]) fun _ _ => by rw [h.registry]

end Same

theorem same_write (records : List Log.Record) (server : Server) :
    server.Same (server.write records) :=
  ⟨rfl, rfl, rfl, rfl⟩

theorem same_countLine (server : Server) : server.Same server.countLine :=
  ⟨rfl, rfl, rfl, rfl⟩

theorem same_countEvent (server : Server) : server.Same server.countEvent :=
  ⟨rfl, rfl, rfl, rfl⟩

theorem same_countAction (server : Server) : server.Same server.countAction :=
  ⟨rfl, rfl, rfl, rfl⟩

theorem same_setRoom (room : Room) (server : Server)
    (h : ∀ other ∈ server.rooms, other.name = room.name → other.id = room.id) :
    server.Same (server.setRoom room) := by
  refine ⟨?_, rfl, rfl, rfl⟩
  simp only [doors, setRoom, List.map_map]
  apply List.map_congr_left
  intro other hother
  by_cases hname : other.name = room.name
  · simp [hname, h other hother hname]
  · simp [hname]

theorem same_observe (room : Room) (server : Server)
    (h : ∀ other ∈ server.rooms, other.name = room.name → other.id = room.id) (count : Nat) :
    server.Same (server.observe room count) := by
  unfold observe
  split
  · exact ⟨rfl, rfl, rfl, rfl⟩
  · rename_i scene _
    let counted : Server :=
      { server with
        published := server.published +
          ((scene.effectsAfter count).filterMap Effect.publication?).length }
    let served : Room :=
      { room with
        host := ((scene.effectsAfter count).filterMap Effect.command?).foldl
          (fun host command => host.perform command) room.host }
    have hcounted : server.Same counted := ⟨rfl, rfl, rfl, rfl⟩
    exact hcounted.trans ((same_setRoom served counted h).trans (same_write _ _))

theorem Tidy.ids_eq (h : server.Tidy) (room : Room) (hmem : (room.name, room.id) ∈ server.doors) :
    ∀ other ∈ server.rooms, other.name = room.name → other.id = room.id := by
  intro other hother hname
  exact h.id_unique (List.mem_map.mpr ⟨other, hother, by rw [hname]⟩) hmem

structure Turns (id : ConferenceId) (change : Scene → Scene) (server next : Server) : Prop where
  doors : next.doors = server.doors
  registry : next.registry = server.registry.update id change
  ids : next.ids = server.ids
  created : next.statistics.created = server.statistics.created

namespace Turns

theorem tidy (h : Turns id change server next) (htidy : server.Tidy)
    (hid : ∀ scene, scene.conference.id = id → (change scene).conference.id = id)
    (hcalm : ∀ scene, server.registry.scene? id = some scene → scene.Calm → (change scene).Calm) :
    next.Tidy where
  created := by rw [h.registry, Registry.ids_update hid, h.created, h.ids, htidy.created]
  listed := by rw [h.registry, Registry.listed_update, h.doors, htidy.listed]
  names := h.doors ▸ htidy.names
  ids := h.doors ▸ htidy.ids
  calm := by
    intro name other hmem
    obtain ⟨scene, hscene, hscenecalm⟩ := htidy.calm name other (h.doors ▸ hmem)
    rw [h.registry]
    by_cases heq : other = id
    · subst heq
      rw [Registry.scene?_update_self hid, hscene]
      exact ⟨change scene, rfl, hcalm scene hscene hscenecalm⟩
    · rw [Registry.scene?_update_of_ne hid heq]
      exact ⟨scene, hscene, hscenecalm⟩

variable (h : Turns id change server next) (htidy : server.Tidy) (hnext : next.Tidy)
  (hmem : (name, id) ∈ server.doors)
  (hid : ∀ scene, scene.conference.id = id → (change scene).conference.id = id)

include h htidy hnext hmem hid

theorem conference?_self : next.conference? name = (server.conference? name).map change := by
  rw [hnext.conference?_of_mem (h.doors ▸ hmem), htidy.conference?_of_mem hmem, h.registry,
    Registry.scene?_update_self hid]

theorem conference?_of_ne (hne : other ≠ name) :
    next.conference? other = server.conference? other := by
  refine htidy.conference?_congr hnext (fun _ => by rw [h.doors]) fun otherId hother => ?_
  have hids : otherId ≠ id := by
    rintro rfl
    exact hne (htidy.name_unique hother hmem)
  rw [h.registry, Registry.scene?_update_of_ne hid hids]

end Turns

structure Opens (room : Room) (server next : Server) : Prop where
  absent : ∀ id, (room.name, id) ∉ server.doors
  id : room.id = server.ids server.statistics.created
  doors : next.doors = server.doors ++ [(room.name, room.id)]
  registry : next.registry = (server.registry.promote room.id room.host.handle).1
  ids : next.ids = server.ids
  created : next.statistics.created = server.statistics.created + 1

theorem Tidy.id_mem (h : server.Tidy) (hmem : (name, id) ∈ server.doors) :
    id ∈ server.registry.scenes.map (·.conference.id) := by
  obtain ⟨scene, hscene, -⟩ := h.calm name id hmem
  exact List.mem_map.mpr
    ⟨scene, List.mem_of_find?_eq_some hscene, Registry.id_of_scene? hscene⟩

namespace Opens

variable (h : Opens room server next) (horderly : server.Orderly) (hfresh : next.Fresh)

include h horderly hfresh

theorem id_not_mem : room.id ∉ server.registry.scenes.map (·.conference.id) := by
  rw [horderly.created, h.id]
  intro hmem
  obtain ⟨number, hnumber, heq⟩ := List.mem_map.mp hmem
  have hlt := List.mem_range.mp hnumber
  rw [Fresh, h.ids, h.created] at hfresh
  have hsame := hfresh (Set.mem_Iio.mpr (by omega)) (Set.mem_Iio.mpr (Nat.lt_succ_self _)) heq
  omega

theorem scene?_self :
    next.registry.scene? room.id =
      some (.openOver room.id server.registry.config room.host.handle) := by
  rw [h.registry, Registry.scene?_promote_self (h.id_not_mem horderly hfresh)]

theorem scene?_of_mem (hmem : (name, id) ∈ server.doors) :
    next.registry.scene? id = server.registry.scene? id := by
  have hne : id ≠ room.id := by
    rintro rfl
    exact h.id_not_mem horderly hfresh (horderly.id_mem hmem)
  rw [h.registry, Registry.scene?_promote_of_ne hne]

omit horderly hfresh in
theorem mem_doors (hmem : (name, id) ∈ next.doors) :
    (name, id) ∈ server.doors ∨ (name = room.name ∧ id = room.id) := by
  rw [h.doors, List.mem_append, List.mem_singleton, Prod.mk.injEq] at hmem
  exact hmem

theorem orderly : next.Orderly where
  created := by
    rw [h.registry, h.created, h.ids, List.range_succ, List.map_append, ← horderly.created,
      List.map_singleton, ← h.id]
    simp [Registry.promote]
    rfl
  listed := by
    rw [h.registry, h.doors, List.map_append, ← horderly.listed]
    rfl
  names := by
    rw [h.doors, List.map_append]
    refine horderly.names.append (List.nodup_singleton _) ?_
    rw [List.map_singleton, List.disjoint_singleton]
    intro hmem
    obtain ⟨⟨name, id⟩, hdoor, rfl⟩ := List.mem_map.mp hmem
    exact h.absent id hdoor
  ids := by
    rw [h.doors, List.map_append]
    refine horderly.ids.append (List.nodup_singleton _) ?_
    rw [List.map_singleton, List.disjoint_singleton]
    intro hmem
    obtain ⟨⟨name, id⟩, hdoor, rfl⟩ := List.mem_map.mp hmem
    exact h.id_not_mem horderly hfresh (horderly.id_mem hdoor)
  calm := by
    intro name id hmem
    rcases h.mem_doors hmem with hold | ⟨rfl, rfl⟩
    · rw [h.scene?_of_mem horderly hfresh hold]
      exact horderly.calm name id hold
    · exact ⟨_, h.scene?_self horderly hfresh, Scene.calm_openOver _ _ _⟩
  stillOpen := by
    intro name id scene hmem hscene
    rcases h.mem_doors hmem with hold | ⟨rfl, rfl⟩
    · rw [h.scene?_of_mem horderly hfresh hold] at hscene
      exact horderly.stillOpen name id scene hold hscene
    · rw [h.scene?_self horderly hfresh] at hscene
      cases hscene
      rfl

theorem conference?_self :
    next.conference? room.name =
      some (.openOver room.id server.registry.config room.host.handle) := by
  have hmem : (room.name, room.id) ∈ next.doors := by simp [h.doors]
  rw [(h.orderly horderly hfresh).conference?_of_mem hmem, h.scene?_self horderly hfresh]

theorem conference?_of_ne (hne : other ≠ room.name) :
    next.conference? other = server.conference? other := by
  refine horderly.conference?_congr (h.orderly horderly hfresh).toTidy (fun id => ?_)
    fun id => h.scene?_of_mem horderly hfresh
  rw [h.doors, List.mem_append, List.mem_singleton, Prod.mk.injEq]
  exact or_iff_left fun hnew => hne hnew.1

end Opens

def seat (name : String) (server : Server) : Server :=
  let room := (server.openRoom name).1
  { server with
    registry := (server.registry.promote room.id room.host.handle).1
    nextPhone := server.nextPhone.next
    rooms := server.rooms ++ [room]
    statistics := { server.statistics with created := server.statistics.created + 1 } }

theorem openRoom_eq_observe (name : String) (server : Server) :
    ∃ records, (server.openRoom name).2 =
      ((server.seat name).observe (server.openRoom name).1 0).write records :=
  ⟨_, rfl⟩

theorem opens_openRoom (h : server.room? name = none) :
    (server.openRoom name).1.name = name ∧
      Opens (server.openRoom name).1 server (server.openRoom name).2 := by
  have habsent := room?_eq_none_iff.mp h
  let room := (server.openRoom name).1
  have hids : ∀ other ∈ (server.seat name).rooms, other.name = room.name → other.id = room.id := by
    intro other hother hname
    rcases List.mem_append.mp hother with hold | hnew
    · exact absurd (List.mem_map.mpr ⟨other, hold, congrArg (·, other.id) hname⟩)
        (habsent other.id)
    · rw [List.mem_singleton.mp hnew]
  have hsame : (server.seat name).Same (server.openRoom name).2 := by
    obtain ⟨records, heq⟩ := openRoom_eq_observe name server
    rw [heq]
    exact (same_observe room (server.seat name) hids 0).trans (same_write _ _)
  have hdoors : (server.seat name).doors = server.doors ++ [(room.name, room.id)] := by
    simp [doors, seat, room]
  exact ⟨rfl, habsent, rfl, hsame.doors.trans hdoors, hsame.registry, hsame.ids, hsame.created⟩

theorem applyEvent_eq_map (room : Room) (event : HostEvent) (server : Server) :
    server.applyEvent room event =
      ((server.registry.update room.id (room.hear event).handOver).deliver room.id event).map
        fun registry =>
          ({ server.setRoom (room.hear event) with registry } : Server).observe (room.hear event)
            ((server.setRoom (room.hear event)).effectCount (room.hear event)) := by
  have hbind : ∀ (delivered : Except ConferenceError Registry) (f : Registry → Server),
      (do return f (← delivered)) = delivered.map f := by
    intro delivered f
    cases delivered <;> rfl
  exact hbind _ _

theorem applyEvent_eq_ok (h : server.Orderly) (hmem : (room.name, room.id) ∈ server.doors)
    (event : HostEvent) :
    server.applyEvent room event =
      .ok (({ server.setRoom (room.hear event) with
        registry := server.registry.update room.id fun scene =>
          ((room.hear event).handOver scene).process event } : Server).observe (room.hear event)
            ((server.setRoom (room.hear event)).effectCount (room.hear event))) := by
  let heard := room.hear event
  have hheard : ∀ scene, scene.conference.id = room.id →
      (heard.handOver scene).conference.id = room.id := fun _ hid => hid
  obtain ⟨scene, hscene, -⟩ := h.calm _ _ hmem
  have hstill : (heard.handOver scene).conference.tornDown = false :=
    h.stillOpen _ _ scene hmem hscene
  have hlisted : room.id ∈ server.registry.listed := by
    rw [h.listed]
    exact List.mem_map_of_mem hmem
  have hlookup : (server.registry.update room.id heard.handOver).lookup? room.id =
      some (heard.handOver scene) := by
    rw [Registry.lookup?, Registry.listed_update, if_pos hlisted,
      Registry.scene?_update_self hheard, hscene, Option.map_some]
  have hdeliver : (server.registry.update room.id heard.handOver).deliver room.id event =
      .ok (server.registry.update room.id (Scene.process event ∘ heard.handOver)) := by
    simp only [Registry.deliver, hlookup, hstill, Bool.false_eq_true, if_false]
    rw [Registry.update_update hheard]
  rw [applyEvent_eq_map, hdeliver]
  rfl

theorem turns_applyEvent (h : server.Orderly) (hmem : (room.name, room.id) ∈ server.doors)
    (event : HostEvent) :
    ∃ next, server.applyEvent room event = .ok next ∧
      Turns room.id (fun scene => ((room.hear event).handOver scene).process event) server next := by
  let heard := room.hear event
  have hseated : server.Same (server.setRoom heard) :=
    same_setRoom heard server (h.ids_eq heard hmem)
  let changed : Server :=
    { server.setRoom heard with
      registry := server.registry.update room.id (Scene.process event ∘ heard.handOver) }
  have hids : ∀ other ∈ changed.rooms, other.name = heard.name → other.id = heard.id :=
    (hseated.tidy h.toTidy).ids_eq heard (hseated.doors ▸ hmem)
  have hobserved := same_observe heard changed hids ((server.setRoom heard).effectCount heard)
  exact ⟨_, applyEvent_eq_ok h hmem event, hobserved.doors.trans hseated.doors, hobserved.registry,
    hobserved.ids, hobserved.created⟩

theorem applyAction_eq {scene : Scene} (h : server.registry.scene? room.id = some scene)
    (action : LineAction) :
    server.applyAction room action =
      (({ server with registry := server.registry.update room.id fun _ =>
          ((room.handOver scene).act action.wanted).1 } : Server).observe room
        (server.effectCount room)).write
          [(ReplayNotice.acted room.name action
            ((room.handOver scene).act action.wanted).2).record] := by
  simp only [applyAction, h]
  rfl

theorem turns_applyAction (h : server.Orderly) (hmem : (room.name, room.id) ∈ server.doors)
    (action : LineAction) :
    ∃ scene later, server.registry.scene? room.id = some scene ∧
      later.conference = scene.conference ∧ (scene.Calm → later.Calm) ∧
        Turns room.id (fun _ => later) server (server.applyAction room action) := by
  obtain ⟨scene, hscene, -⟩ := h.calm _ _ hmem
  let handled := room.handOver scene
  let wanted := action.wanted
  have huntouched : handled.Untouched (handled.act wanted).1 :=
    Scene.untouched_act handled (fun _ => rfl) wanted
  let changed : Server :=
    { server with registry := server.registry.update room.id fun _ => (handled.act wanted).1 }
  have hobserved := same_observe room changed (h.ids_eq room hmem) (server.effectCount room)
  have hwritten := hobserved.trans (same_write
    [(ReplayNotice.acted room.name action (handled.act wanted).2).record] _)
  refine ⟨scene, (handled.act wanted).1, hscene, huntouched.conference, ?_, ?_⟩
  · intro hcalm
    have hhandled : handled.Calm := ⟨hcalm.silent, hcalm.held⟩
    exact hhandled.advances huntouched.advances
  · rw [applyAction_eq hscene]
    exact ⟨hwritten.doors, hwritten.registry, hwritten.ids, hwritten.created⟩

theorem doors_purge (server : Server) :
    server.purge.doors = server.doors.filter fun door => door.2 ∉ server.registry.finished := by
  simp only [doors, purge, write, Registry.purge, List.filter_map]
  rfl

theorem mem_doors_purge (h : server.Tidy) :
    (name, id) ∈ server.purge.doors ↔
      (name, id) ∈ server.doors ∧ ∃ scene, server.registry.scene? id = some scene ∧
        scene.conference.tornDown = false := by
  rw [doors_purge, List.mem_filter, decide_eq_true_iff, Registry.mem_finished_iff]
  constructor
  · rintro ⟨hmem, hopen⟩
    obtain ⟨scene, hscene, -⟩ := h.calm name id hmem
    have hlisted : id ∈ server.registry.listed := by
      rw [h.listed]
      exact List.mem_map_of_mem (f := Prod.snd) hmem
    refine ⟨hmem, scene, hscene, ?_⟩
    rw [← Bool.not_eq_true]
    exact fun htorn => hopen ⟨hlisted, scene, hscene, htorn⟩
  · rintro ⟨hmem, scene, hscene, hopen⟩
    refine ⟨hmem, ?_⟩
    rintro ⟨-, other, hother, htorn⟩
    rw [hscene] at hother
    cases hother
    rw [hopen] at htorn
    cases htorn

theorem orderly_purge (h : server.Tidy) : server.purge.Orderly where
  created := h.created
  listed := by
    rw [doors_purge]
    simp only [purge, write, Registry.purge, h.listed, List.filter_map]
    rfl
  names := by
    rw [doors_purge]
    exact h.names.sublist (List.filter_sublist.map _)
  ids := by
    rw [doors_purge]
    exact h.ids.sublist (List.filter_sublist.map _)
  calm := by
    intro name id hmem
    exact h.calm name id ((mem_doors_purge h).mp hmem).1
  stillOpen := by
    intro name id scene hmem hscene
    obtain ⟨-, other, hother, hopen⟩ := (mem_doors_purge h).mp hmem
    have hsame : server.registry.scene? id = some scene := hscene
    rw [hsame] at hother
    cases hother
    exact hopen

theorem conference?_purge (h : server.Tidy) (name : String) :
    server.purge.conference? name =
      (server.conference? name).filter fun scene => !scene.conference.tornDown := by
  by_cases hdoor : ∃ id, (name, id) ∈ server.doors
  · obtain ⟨id, hmem⟩ := hdoor
    obtain ⟨scene, hscene, -⟩ := h.calm name id hmem
    rw [h.conference?_of_mem hmem, hscene]
    cases hopen : scene.conference.tornDown with
    | false =>
        have hstays := (mem_doors_purge h).mpr ⟨hmem, scene, hscene, hopen⟩
        have hsame : server.purge.registry.scene? id = some scene := hscene
        rw [(orderly_purge h).conference?_of_mem hstays, hsame, Option.filter_some, hopen]
        rfl
    | true =>
        rw [conference?_of_not_mem]
        · rw [Option.filter_some, hopen]
          rfl
        · intro other hother
          obtain ⟨hbefore, found, hfound, hstill⟩ := (mem_doors_purge h).mp hother
          cases h.id_unique hbefore hmem
          rw [hscene] at hfound
          cases hfound
          rw [hopen] at hstill
          cases hstill
  · rw [conference?_of_not_mem fun id hmem => hdoor ⟨id, hmem⟩, conference?_of_not_mem]
    · rfl
    · exact fun id hmem => hdoor ⟨id, ((mem_doors_purge h).mp hmem).1⟩

end Server

end ConferenceBridge
