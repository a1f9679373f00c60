import ConferenceBridge.Proofs.Conference.Publication
import ConferenceBridge.Proofs.Replay.Isolation

namespace ConferenceBridge

/-! The books of a replay: what it counts, how many conferences it opened and closed, which telephone
each of them got, and how many participants the call list was handed. -/

namespace Text

theorem head?_trimEnd_of_not_blank {c : Char} {rest : List Char} (h : isBlank c = false) :
    (trimEnd (c :: rest)).head? = some c := by
  rw [trimEnd, List.reverse_cons, List.dropWhile_append]
  split
  · simp [h]
  · simp

theorem head?_trim (cs : List Char) : (trim cs).head? = cs.find? fun c => !isBlank c := by
  have hfirst : cs.find? (fun c => !isBlank c) = (trimStart cs).head? := by
    rw [List.find?_eq_head?_dropWhile_not]
    simp [trimStart]
  rw [hfirst, trim]
  cases hstart : trimStart cs with
  | nil => rfl
  | cons c rest =>
      have hblank : isBlank c = false := by
        have hhead := List.head?_dropWhile_not isBlank cs
        rw [show cs.dropWhile isBlank = c :: rest from hstart] at hhead
        simpa using hhead
      exact head?_trimEnd_of_not_blank hblank

end Text

namespace Line

def isSilent (text : String) : Bool :=
  (text.toList.find? fun c => !Text.isBlank c).all (· == '#')

def isRefused (text : String) : Bool :=
  !isSilent text && (ofText? text).isNone

def isEvent (line : Line) : Bool :=
  line.event?.isSome

def isAction (line : Line) : Bool :=
  line.event?.isNone

theorem parse_eq_ok_none_iff {text : String} : parse text = .ok none ↔ isSilent text = true := by
  rw [isSilent, ← Text.head?_trim]
  unfold parse
  split
  · rename_i hempty
    simp [hempty]
  · rename_i hcomment
    simp [hcomment]
  · rename_i cs hwritten hcomment
    have hread : ∀ read : Json.Decoded Line, some <$> read ≠ .ok none := by
      rintro (fault | line) <;> simp
    rw [iff_false_left (hread _)]
    cases hcs : Text.trim text.toList with
    | nil => exact absurd hcs hwritten
    | cons c rest =>
        intro hsilent
        have hhash : c = '#' := by simpa using hsilent
        exact hcomment rest (hhash ▸ hcs)

end Line

namespace Registry

variable {registry : Registry} {id : ConferenceId} {scene other : Scene}

theorem eq_of_scene? (hnodup : (registry.scenes.map (·.conference.id)).Nodup)
    (hscene : registry.scene? id = some scene) (hmem : other ∈ registry.scenes)
    (hid : other.conference.id = id) : other = scene :=
  List.inj_on_of_nodup_map hnodup hmem (List.mem_of_find?_eq_some hscene)
    (hid.trans (id_of_scene? hscene).symm)

/-- Of a sum over all conferences only the part of the one that changes is another. -/
theorem sum_update (hnodup : (registry.scenes.map (·.conference.id)).Nodup)
    (hscene : registry.scene? id = some scene) (change : Scene → Scene) (measure : Scene → Nat) :
    ((registry.update id change).scenes.map measure).sum + measure scene =
      (registry.scenes.map measure).sum + measure (change scene) := by
  unfold scene? at hscene
  unfold update
  dsimp only
  generalize registry.scenes = scenes at hnodup hscene ⊢
  induction scenes with
  | nil => cases hscene
  | cons first rest ih =>
      rw [List.map_cons, List.nodup_cons] at hnodup
      by_cases hfirst : first.conference.id = id
      · have hfound : first = scene := by simpa [hfirst] using hscene
        subst hfound
        have hrest : rest.map (fun scene => if scene.conference.id = id then change scene else scene)
            = rest := by
          refine (List.map_congr_left fun other hother => if_neg fun hid => ?_).trans
            (List.map_id' rest)
          exact hnodup.1 (List.mem_map.mpr ⟨other, hother, hid.trans hfirst.symm⟩)
        simp only [List.map_cons, if_pos hfirst, hrest, List.sum_cons]
        omega
      · have hfound : rest.find? (fun scene => scene.conference.id == id) = some scene := by
          simpa [hfirst] using hscene
        have hsum := ih hnodup.2 hfound
        simp only [List.map_cons, if_neg hfirst, List.sum_cons]
        omega

end Registry

namespace Scene

/-- What the books say of a conference stays right. -/
structure Carries (scene next : Scene) : Prop where
  id : next.conference.id = scene.conference.id
  phone : next.conference.host.phone = scene.conference.host.phone
  recorded : scene.Recorded → next.Recorded
  effects : scene.effects <+: next.effects

theorem Reaches.carries (hreach : Reaches scene next) (hheld : scene.dropped = false) :
    scene.Carries next where
  id := hreach.id_eq
  phone := (Reaches.evolves hreach hheld).phone_eq
  recorded := Reaches.recorded hreach
  effects := Reaches.effects_grow hreach

end Scene

namespace Server

variable {server next : Server} {room : Room} {line : Line} {id : ConferenceId}
  {change : Scene → Scene} {firstPhone : PhoneId}

@[simp] theorem statistics_observe (room : Room) (count : Nat) (server : Server) :
    (server.observe room count).statistics = server.statistics := by
  unfold observe
  split <;> rfl

@[simp] theorem nextPhone_observe (room : Room) (count : Nat) (server : Server) :
    (server.observe room count).nextPhone = server.nextPhone := by
  unfold observe
  split <;> rfl

theorem published_observe {scene : Scene} (h : server.registry.scene? room.id = some scene)
    (count : Nat) :
    (server.observe room count).published =
      server.published + ((scene.effectsAfter count).filterMap Effect.publication?).length := by
  simp only [observe, h]
  rfl

structure Booked (firstPhone : PhoneId) (server : Server) : Prop where
  balance : server.statistics.created = server.statistics.dismantled + server.doors.length
  nextPhone : server.nextPhone = PhoneId.next^[server.statistics.created] firstPhone
  phones : ∀ (number : Nat) (scene : Scene), server.registry.scenes[number]? = some scene →
    scene.conference.host.phone = PhoneId.next^[number] firstPhone
  recorded : ∀ scene ∈ server.registry.scenes, scene.Recorded
  published : server.published =
    (server.registry.scenes.map fun scene => scene.conference.participants.length).sum

/-- One conference changes, and what is seen of it meanwhile is written down. -/
structure Posts (id : ConferenceId) (change : Scene → Scene) (server next : Server) : Prop
    extends Turns id change server next where
  dismantled : next.statistics.dismantled = server.statistics.dismantled
  nextPhone : next.nextPhone = server.nextPhone
  published : ∀ scene, server.registry.scene? id = some scene → next.published =
    server.published +
      (((change scene).effectsAfter scene.history.length).filterMap Effect.publication?).length

theorem Tidy.nodup_ids (h : server.Tidy) (hfresh : server.Fresh) :
    (server.registry.scenes.map (·.conference.id)).Nodup := by
  rw [h.created]
  refine List.nodup_range.map_on fun first hfirst second hsecond heq => ?_
  exact hfresh (Set.mem_Iio.mpr (List.mem_range.mp hfirst))
    (Set.mem_Iio.mpr (List.mem_range.mp hsecond)) heq

theorem Booked.posts {scene : Scene} (h : server.Booked firstPhone)
    (hnodup : (server.registry.scenes.map (·.conference.id)).Nodup)
    (hposts : Posts id change server next) (hscene : server.registry.scene? id = some scene)
    (hcarries : scene.Carries (change scene)) : next.Booked firstPhone where
  balance := by rw [hposts.created, hposts.dismantled, hposts.doors, h.balance]
  nextPhone := by rw [hposts.nextPhone, hposts.created, h.nextPhone]
  phones := by
    intro number later hlater
    rw [hposts.registry, Registry.update, List.getElem?_map, Option.map_eq_some_iff] at hlater
    obtain ⟨before, hbefore, rfl⟩ := hlater
    have hphone := h.phones number before hbefore
    split
    · rename_i hid
      obtain rfl := Registry.eq_of_scene? hnodup hscene (List.mem_of_getElem? hbefore) hid
      rw [hcarries.phone, hphone]
    · exact hphone
  recorded := by
    intro later hlater
    rw [hposts.registry, Registry.update] at hlater
    obtain ⟨before, hbefore, rfl⟩ := List.mem_map.mp hlater
    have hrecorded := h.recorded before hbefore
    split
    · rename_i hid
      obtain rfl := Registry.eq_of_scene? hnodup hscene hbefore hid
      exact hcarries.recorded hrecorded
    · exact hrecorded
  published := by
    have hrecorded := h.recorded scene (List.mem_of_find?_eq_some hscene)
    have hnew := hrecorded.newcomers (hcarries.recorded hrecorded) hcarries.effects
    have hsum := Registry.sum_update hnodup hscene change
      fun scene => scene.conference.participants.length
    rw [hposts.registry, hposts.published scene hscene, h.published]
    omega

theorem posts_applyEvent (h : server.Orderly) (hmem : (room.name, room.id) ∈ server.doors)
    (event : HostEvent) :
    ∃ next, server.applyEvent room event = .ok next ∧ next.statistics = server.statistics ∧
      Posts room.id (fun scene => ((room.hear event).handOver scene).process event) server next := by
  obtain ⟨next, happlied, hturns⟩ := turns_applyEvent h hmem event
  have hid : ∀ scene, scene.conference.id = room.id →
      (((room.hear event).handOver scene).process event).conference.id = room.id := by
    intro scene hscene
    rw [Scene.id_process]
    exact hscene
  have hnext := applyEvent_eq_ok h hmem event
  rw [happlied] at hnext
  cases hnext
  refine ⟨_, happlied, statistics_observe _ _ _, hturns, ?_, nextPhone_observe _ _ _, ?_⟩
  · rw [statistics_observe]
    rfl
  · intro scene hscene
    have hchanged : (server.registry.update room.id fun scene =>
        ((room.hear event).handOver scene).process event).scene? room.id =
          (server.registry.scene? room.id).map _ := Registry.scene?_update_self hid
    rw [hscene, Option.map_some] at hchanged
    have hcount : (server.setRoom (room.hear event)).effectCount (room.hear event) =
        scene.history.length := by
      have hsame : (server.setRoom (room.hear event)).registry.scene? (room.hear event).id =
          some scene := hscene
      rw [effectCount, hsame]
      rfl
    rw [published_observe hchanged, hcount]
    rfl

theorem posts_applyAction {scene : Scene} (h : server.Orderly)
    (hmem : (room.name, room.id) ∈ server.doors)
    (hscene : server.registry.scene? room.id = some scene) (action : LineAction) :
    (server.applyAction room action).statistics = server.statistics ∧
      Posts room.id (fun _ => ((room.handOver scene).act action.wanted).1) server
        (server.applyAction room action) := by
  have hid : ∀ other : Scene, other.conference.id = room.id →
      ((room.handOver scene).act action.wanted).1.conference.id = room.id := by
    intro _ _
    have hreach := Scene.walkClosed_reaches.requests.act action.wanted (room.handOver scene)
    have hfound : scene.conference.id = room.id := Registry.id_of_scene? hscene
    exact hreach.id_eq.trans hfound
  let changed : Server :=
    { server with registry := server.registry.update room.id fun _ =>
        ((room.handOver scene).act action.wanted).1 }
  have hobserved := same_observe room changed (h.ids_eq room hmem) (server.effectCount room)
  have hstatistics : (server.applyAction room action).statistics = server.statistics := by
    rw [applyAction_eq hscene]
    exact statistics_observe _ _ _
  refine ⟨hstatistics, ⟨?_, ?_, ?_, congrArg _ hstatistics⟩, congrArg _ hstatistics, ?_, ?_⟩
  · rw [applyAction_eq hscene]
    exact hobserved.doors
  · rw [applyAction_eq hscene]
    exact hobserved.registry
  · rw [applyAction_eq hscene]
    exact hobserved.ids
  · rw [applyAction_eq hscene]
    exact nextPhone_observe _ _ _
  · intro other hother
    rw [hscene] at hother
    cases hother
    have hchanged : (server.registry.update room.id fun _ =>
        ((room.handOver scene).act action.wanted).1).scene? room.id =
          (server.registry.scene? room.id).map _ := Registry.scene?_update_self hid
    rw [hscene, Option.map_some] at hchanged
    have hcount : server.effectCount room = scene.history.length := by
      rw [effectCount, hscene]
      rfl
    rw [applyAction_eq hscene, hcount]
    exact published_observe hchanged _

theorem statistics_openRoom (name : String) (server : Server) :
    (server.openRoom name).2.statistics =
      { server.statistics with created := server.statistics.created + 1 } := by
  obtain ⟨records, heq⟩ := openRoom_eq_observe name server
  rw [heq]
  exact statistics_observe _ _ _

theorem Booked.openRoom (h : server.Booked firstPhone) (horderly : server.Orderly) {name : String}
    (habsent : server.room? name = none) (hfresh : (server.openRoom name).2.Fresh) :
    (server.openRoom name).2.Booked firstPhone := by
  obtain ⟨-, hopens⟩ := opens_openRoom habsent
  have hnew := hopens.scene?_self horderly hfresh
  let host : SimulatedHost := { name, phone := server.nextPhone }
  let scene : Scene := .openOver (server.openRoom name).1.id server.registry.config host.handle
  have hscenes : (server.openRoom name).2.registry.scenes = server.registry.scenes ++ [scene] := by
    rw [hopens.registry]
    rfl
  obtain ⟨records, heq⟩ := openRoom_eq_observe name server
  have hcreated := congrArg List.length horderly.created
  rw [List.length_map, List.length_map, List.length_range] at hcreated
  refine ⟨?_, ?_, ?_, ?_, ?_⟩
  · rw [statistics_openRoom, hopens.doors, List.length_append, List.length_singleton,
      ← Nat.add_assoc, ← h.balance]
  · have hphone : (server.openRoom name).2.nextPhone = server.nextPhone.next :=
      nextPhone_observe _ _ _
    rw [hphone, hopens.created, Function.iterate_succ_apply', h.nextPhone]
  · intro number later hlater
    rw [hscenes, List.getElem?_append] at hlater
    split at hlater
    · exact h.phones number later hlater
    · rename_i hlast
      obtain ⟨hnumber, rfl⟩ := List.getElem?_eq_some_iff.mp hlater
      have hsame : number = server.statistics.created := by
        rw [List.length_singleton] at hnumber
        omega
      rw [List.getElem_singleton, hsame, ← h.nextPhone]
      rfl
  · intro later hlater
    rw [hscenes] at hlater
    rcases List.mem_append.mp hlater with hold | hlast
    · exact h.recorded later hold
    · rw [List.mem_singleton.mp hlast]
      exact Scene.recorded_openOver _ _ _
  · have hfound := hopens.scene?_self horderly hfresh
    rw [hopens.registry] at hfound
    have hseen : ((server.seat name).observe (server.openRoom name).1 0).published =
        (server.seat name).published + _ := published_observe hfound 0
    have hpublished : (server.openRoom name).2.published = server.published := by
      rw [heq]
      exact hseen
    rw [hpublished, hscenes, List.map_append, List.sum_append, h.published]
    rfl

theorem Booked.purge (h : server.Booked firstPhone) (htidy : server.Tidy) :
    server.purge.Booked firstPhone where
  balance := by
    have hfinished : server.registry.finished.length =
        (server.doors.filter fun door => door.2 ∈ server.registry.finished).length := by
      have hlisted : ∀ door ∈ server.doors, door.2 ∈ server.registry.listed := by
        intro door hdoor
        rw [htidy.listed]
        exact List.mem_map_of_mem hdoor
      have hdoors : (server.doors.filter fun door => door.2 ∈ server.registry.finished) =
          server.doors.filter ((fun id => (server.registry.scene? id).any fun scene =>
            scene.conference.tornDown) ∘ Prod.snd) :=
        List.filter_congr fun door hdoor => by simp [Registry.finished, hlisted door hdoor]
      rw [hdoors, Registry.finished, htidy.listed, List.filter_map, List.length_map]
    have hparts := List.length_eq_length_filter_add (l := server.doors) fun door =>
      decide (door.2 ∈ server.registry.finished)
    have hdismantled : server.purge.statistics.dismantled =
        server.statistics.dismantled + server.registry.finished.length := rfl
    have hcreated : server.purge.statistics.created = server.statistics.created := rfl
    rw [doors_purge, hcreated, hdismantled, h.balance, hparts, hfinished]
    simp only [decide_not]
    omega
  nextPhone := h.nextPhone
  phones := h.phones
  recorded := h.recorded
  published := h.published

theorem booked_apply {entered : Server} (h : entered.Booked firstPhone) (horderly : entered.Orderly)
    (hfresh : entered.Fresh) (hentered : server.enterRoom line.conference = (room, entered))
    (hdoor : (room.name, room.id) ∈ entered.doors) :
    (server.apply line).Booked firstPhone ∧
      (server.apply line).statistics =
        { entered.statistics with
          events := entered.statistics.events + [line].countP Line.isEvent
          actions := entered.statistics.actions + [line].countP Line.isAction } := by
  obtain ⟨scene, hscene, hcalm⟩ := horderly.calm _ _ hdoor
  have hnodup := horderly.nodup_ids hfresh
  have hcarries : ∀ (holder : Room) {next : Scene}, Scene.Reaches (holder.handOver scene) next →
      scene.Carries next := by
    intro holder next hreach
    have hcarries := hreach.carries hcalm.held
    exact ⟨hcarries.id, hcarries.phone, hcarries.recorded, hcarries.effects⟩
  unfold apply
  rw [hentered]
  cases hcontent : line.content with
  | event event =>
      have hkind : line.event? = some event := by rw [Line.event?, hcontent]
      have hsame := same_countEvent entered
      have hcounted : entered.countEvent.Booked firstPhone :=
        ⟨h.balance, h.nextPhone, h.phones, h.recorded, h.published⟩
      obtain ⟨next, happlied, hstatistics, hposts⟩ :=
        posts_applyEvent (hsame.orderly horderly) (hsame.doors ▸ hdoor) event
      simp only [happlied]
      refine ⟨hcounted.posts hnodup hposts hscene (hcarries (room.hear event) ?_), ?_⟩
      · exact Scene.walkClosed_reaches.requests.process event _
      · rw [hstatistics]
        simp [countEvent, Line.isEvent, Line.isAction, hkind]
  | action action =>
      have hkind : line.event? = none := by rw [Line.event?, hcontent]
      have hsame := same_countAction entered
      have hcounted : entered.countAction.Booked firstPhone :=
        ⟨h.balance, h.nextPhone, h.phones, h.recorded, h.published⟩
      obtain ⟨hstatistics, hposts⟩ :=
        posts_applyAction (hsame.orderly horderly) (hsame.doors ▸ hdoor) hscene action
      refine ⟨hcounted.posts hnodup hposts hscene (hcarries room ?_), ?_⟩
      · exact Scene.walkClosed_reaches.requests.act action.wanted _
      · simp only [hstatistics]
        simp [countAction, Line.isEvent, Line.isAction, hkind]

theorem booked_enterRoom (h : server.Booked firstPhone) (horderly : server.Orderly) {name : String}
    {entered : Server} (hentered : server.enterRoom name = (room, entered))
    (hfresh : entered.Fresh) :
    entered.Booked firstPhone ∧ entered.statistics.lines = server.statistics.lines ∧
      entered.statistics.events = server.statistics.events ∧
      entered.statistics.actions = server.statistics.actions ∧
      entered.statistics.faulty = server.statistics.faulty := by
  unfold enterRoom at hentered
  cases hroom : server.room? name with
  | some found =>
      rw [hroom] at hentered
      cases hentered
      exact ⟨h, rfl, rfl, rfl, rfl⟩
  | none =>
      rw [hroom] at hentered
      obtain rfl : (server.openRoom name).2 = entered := congrArg Prod.snd hentered
      refine ⟨h.openRoom horderly hroom hfresh, ?_⟩
      rw [statistics_openRoom]
      exact ⟨rfl, rfl, rfl, rfl⟩

structure Counted (texts : List String) (statistics : Statistics) : Prop where
  lines : statistics.lines = texts.length
  events : statistics.events = (texts.filterMap Line.ofText?).countP Line.isEvent
  actions : statistics.actions = (texts.filterMap Line.ofText?).countP Line.isAction
  faulty : statistics.faulty = texts.countP Line.isRefused

theorem Counted.concat {texts : List String} {statistics after : Statistics} {text : String}
    (h : Counted texts statistics) (hlines : after.lines = statistics.lines + 1)
    (hevents : after.events =
      statistics.events + ([text].filterMap Line.ofText?).countP Line.isEvent)
    (hactions : after.actions =
      statistics.actions + ([text].filterMap Line.ofText?).countP Line.isAction)
    (hfaulty : after.faulty = statistics.faulty + [text].countP Line.isRefused) :
    Counted (texts ++ [text]) after where
  lines := by rw [hlines, h.lines, List.length_append, List.length_singleton]
  events := by rw [hevents, h.events, List.filterMap_append, List.countP_append]
  actions := by rw [hactions, h.actions, List.filterMap_append, List.countP_append]
  faulty := by rw [hfaulty, h.faulty, List.countP_append]

theorem booked_take_of_none {texts : List String} {text : String} (h : server.Booked firstPhone)
    (hcounted : Counted texts server.statistics) (hline : Line.ofText? text = none) :
    (server.take text).Booked firstPhone ∧
      Counted (texts ++ [text]) (server.take text).statistics := by
  unfold take
  cases hparse : Line.parse text with
  | error fault =>
      have hrefused : Line.isRefused text = true := by
        rw [Line.isRefused, hline, Option.isNone_none, Bool.and_true, Bool.not_eq_true',
          ← Bool.not_eq_true, ← Line.parse_eq_ok_none_iff, hparse]
        simp
      refine ⟨⟨h.balance, h.nextPhone, h.phones, h.recorded, h.published⟩,
        hcounted.concat rfl ?_ ?_ ?_⟩
      · simp [hline, write, countFaulty, countLine]
      · simp [hline, write, countFaulty, countLine]
      · simp [hrefused, write, countFaulty, countLine]
  | ok found =>
      obtain rfl : found = none := by
        simpa [Line.ofText?, hparse] using hline
      have hsilent := Line.parse_eq_ok_none_iff.mp hparse
      refine ⟨⟨h.balance, h.nextPhone, h.phones, h.recorded, h.published⟩,
        hcounted.concat rfl ?_ ?_ ?_⟩
      · simp [hline, countLine]
      · simp [hline, countLine]
      · simp [Line.isRefused, hsilent, countLine]

theorem booked_take_of_some {texts : List String} {text : String} {line : Line}
    (h : server.Booked firstPhone) (hcounted : Counted texts server.statistics)
    (horderly : server.Orderly) (hfresh : (server.take text).Fresh)
    (hline : Line.ofText? text = some line) :
    (server.take text).Booked firstPhone ∧
      Counted (texts ++ [text]) (server.take text).statistics := by
  have hsame := same_countLine server
  rw [take_of_some hline] at hfresh ⊢
  obtain ⟨⟨room, entered⟩, hentered⟩ :
      ∃ entered, server.countLine.enterRoom line.conference = entered := ⟨_, rfl⟩
  have hgrows := (grows_apply line server.countLine).trans (grows_purge _)
  have hadmits := admits_enterRoom (hsame.orderly horderly) line.conference
    (hgrows.fresh hfresh)
  have hbooked : server.countLine.Booked firstPhone :=
    ⟨h.balance, h.nextPhone, h.phones, h.recorded, h.published⟩
  rw [hentered] at hadmits hgrows
  obtain ⟨hroom, hlines, hevents, hactions, hfaulty⟩ :=
    booked_enterRoom hbooked (hsame.orderly horderly) hentered (hgrows.fresh hfresh)
  have hdoor : (room.name, room.id) ∈ entered.doors := hadmits.called ▸ hadmits.door
  obtain ⟨happlied, hafter⟩ := booked_apply hroom hadmits.orderly (hgrows.fresh hfresh)
    hentered hdoor
  have hhears := hears_apply hadmits.orderly hentered hadmits.door hadmits.called
  have hrefused : Line.isRefused text = false := by simp [Line.isRefused, hline]
  refine ⟨happlied.purge hhears.tidy, hcounted.concat ?_ ?_ ?_ ?_⟩
  all_goals simp only [purge, write, hafter]
  · exact hlines
  · rw [hevents]
    simp [hline, countLine]
  · rw [hactions]
    simp [hline, countLine]
  · rw [hfaulty]
    simp [hrefused, countLine]

theorem booked_take {texts : List String} {text : String} (h : server.Booked firstPhone)
    (hcounted : Counted texts server.statistics) (horderly : server.Orderly)
    (hfresh : (server.take text).Fresh) :
    (server.take text).Booked firstPhone ∧
      Counted (texts ++ [text]) (server.take text).statistics := by
  cases hline : Line.ofText? text with
  | none => exact booked_take_of_none h hcounted hline
  | some line => exact booked_take_of_some h hcounted horderly hfresh hline

variable {config : ConferenceConfig} {ids : Nat → ConferenceId} {start : Server}

theorem booked_of_open? (h : open? config firstPhone ids = .ok start) :
    start.Booked firstPhone ∧ Counted [] start.statistics := by
  unfold open? Registry.open? at h
  split at h
  · cases h
  · cases h
    refine ⟨⟨rfl, rfl, ?_, ?_, rfl⟩, rfl, rfl, rfl, rfl⟩
    · intro number scene hscene
      cases hscene
    · intro scene hscene
      cases hscene

theorem booked_takeTexts (hopen : open? config firstPhone ids = .ok start) (texts : List String)
    (hfresh : (start.takeTexts texts).Fresh) :
    (start.takeTexts texts).Booked firstPhone ∧
      Counted texts (start.takeTexts texts).statistics := by
  induction texts using List.reverseRecOn with
  | nil => exact booked_of_open? hopen
  | append_singleton texts text ih =>
      rw [takeTexts_concat] at hfresh ⊢
      have hbefore := (grows_take text (start.takeTexts texts)).fresh hfresh
      obtain ⟨hbooked, hcounted⟩ := ih hbefore
      have horderly := (renders_takeTexts hopen .nil { label := "", phone := firstPhone } texts
        hbefore).1
      exact booked_take hbooked hcounted horderly hfresh

/-- No line is counted twice, and none is left out. -/
theorem Counted.lines_eq {texts : List String} {statistics : Statistics}
    (h : Counted texts statistics) :
    statistics.lines =
      texts.countP Line.isSilent + statistics.events + statistics.actions + statistics.faulty := by
  rw [h.lines, h.events, h.actions, h.faulty]
  clear h
  induction texts with
  | nil => rfl
  | cons text texts ih =>
      cases hline : Line.ofText? text with
      | none =>
          cases hsilent : Line.isSilent text <;>
            simp [hline, hsilent, Line.isRefused, ih] <;> omega
      | some line =>
          have hsilent : Line.isSilent text = false := by
            rw [← Bool.not_eq_true, ← Line.parse_eq_ok_none_iff]
            intro hparse
            simp [Line.ofText?, hparse] at hline
          cases hkind : line.event? <;>
            simp [hline, hsilent, Line.isRefused, Line.isEvent, Line.isAction, hkind, ih] <;> omega

end Server

theorem PhoneId.number_next_iterate {first : PhoneId} {count : Nat}
    (h : first.number.toNat + count < UInt32.size) :
    (next^[count] first).number.toNat = first.number.toNat + count := by
  induction count with
  | zero => rfl
  | succ count ih =>
      rw [Function.iterate_succ_apply', next, UInt32.toNat_add, ih (by omega)]
      exact Nat.mod_eq_of_lt h

namespace Server

variable {config : ConferenceConfig} {firstPhone : PhoneId} {ids : Nat → ConferenceId}
  {start : Server}

/-- What a server has in its books after some lines. -/
structure KeepsBooks (firstPhone : PhoneId) (ids : Nat → ConferenceId) (texts : List String)
    (server : Server) : Prop where
  listed : ∀ scene, (∃ name, server.conference? name = some scene) ↔
    ∃ id, server.registry.lookup? id = some scene
  distinct : ∀ name other scene found, server.conference? name = some scene →
    server.conference? other = some found → scene.conference.id = found.conference.id →
      name = other
  stillOpen : ∀ name scene, server.conference? name = some scene →
    scene.conference.tornDown = false
  rooms : (server.rooms.map Room.name).Nodup ∧
    ∀ name, name ∈ server.rooms.map Room.name ↔ (server.conference? name).isSome
  balance : server.statistics.created = server.statistics.dismantled + server.rooms.length ∧
    server.registry.size = server.rooms.length
  /-- Ids and telephones are given out in the order in which the conferences are created. -/
  created : server.registry.scenes.length = server.statistics.created ∧
    ∀ (number : Nat) (scene : Scene), server.registry.scenes[number]? = some scene →
      scene.conference.id = ids number ∧
      scene.conference.host.phone.number.toNat = firstPhone.number.toNat + number
  phones : (server.registry.scenes.map fun scene => scene.conference.host.phone).Nodup
  faulty : server.statistics.faulty = texts.countP Line.isRefused
  events : server.statistics.events = (texts.filterMap Line.ofText?).countP Line.isEvent
  actions : server.statistics.actions = (texts.filterMap Line.ofText?).countP Line.isAction
  lines : server.statistics.lines = texts.length ∧
    server.statistics.lines = texts.countP Line.isSilent + server.statistics.events +
      server.statistics.actions + server.statistics.faulty
  published : server.published =
    (server.registry.scenes.map fun scene => scene.conference.participants.length).sum

/-- Nothing fails when a line is applied: its conference can be opened, is open, and gets the
event. -/
def Applies (line : Line) (server : Server) : Prop :=
  let (room, entered) := server.countLine.enterRoom line.conference
  (∃ scene, Scene.openOver? room.id entered.registry.config room.host.handle = .ok scene) ∧
    (∃ scene, entered.conference? line.conference = some scene ∧
      scene.conference.tornDown = false) ∧
    ∀ event, line.event? = some event →
      ∃ next, entered.countEvent.applyEvent room event = .ok next

theorem Tidy.mem_doors_of_conference? {server : Server} (h : server.Tidy) {name : String}
    {scene : Scene} (hscene : server.conference? name = some scene) :
    (name, scene.conference.id) ∈ server.doors ∧
      server.registry.scene? scene.conference.id = some scene := by
  by_cases hdoor : ∃ id, (name, id) ∈ server.doors
  · obtain ⟨id, hmem⟩ := hdoor
    rw [h.conference?_of_mem hmem] at hscene
    obtain rfl := Registry.id_of_scene? hscene
    exact ⟨hmem, hscene⟩
  · rw [conference?_of_not_mem fun id hmem => hdoor ⟨id, hmem⟩] at hscene
    cases hscene

theorem Orderly.conference?_iff_lookup? {server : Server} (h : server.Orderly) (scene : Scene) :
    (∃ name, server.conference? name = some scene) ↔
      ∃ id, server.registry.lookup? id = some scene := by
  constructor
  · rintro ⟨name, hscene⟩
    obtain ⟨hmem, hfound⟩ := h.mem_doors_of_conference? hscene
    refine ⟨scene.conference.id, ?_⟩
    rw [Registry.lookup?, if_pos, hfound]
    rw [h.listed]
    exact List.mem_map_of_mem (f := Prod.snd) hmem
  · rintro ⟨id, hscene⟩
    rw [Registry.lookup?] at hscene
    split at hscene
    · rename_i hlisted
      rw [h.listed] at hlisted
      obtain ⟨⟨name, same⟩, hmem, rfl⟩ := List.mem_map.mp hlisted
      exact ⟨name, (h.conference?_of_mem hmem).trans hscene⟩
    · cases hscene

theorem Orderly.id_eq {server : Server} (h : server.Orderly) {number : Nat} {scene : Scene}
    (hlength : server.registry.scenes.length = server.statistics.created)
    (hscene : server.registry.scenes[number]? = some scene) :
    scene.conference.id = server.ids number := by
  have hid := congrArg (·[number]?) h.created
  have hnumber := (List.getElem?_eq_some_iff.mp hscene).1
  simp only [List.getElem?_map, hscene, Option.map_some] at hid
  rw [List.getElem?_range (by omega)] at hid
  exact Option.some.inj hid

theorem Orderly.keepsBooks {server : Server} {texts : List String} (h : server.Orderly)
    (hbooked : server.Booked firstPhone) (hcounted : Counted texts server.statistics)
    (hphones : firstPhone.number.toNat + server.statistics.created < UInt32.size) :
    server.KeepsBooks firstPhone server.ids texts := by
  have hlength : server.registry.scenes.length = server.statistics.created := by
    have hcreated := congrArg List.length h.created
    rwa [List.length_map, List.length_map, List.length_range] at hcreated
  have hrooms : server.doors.length = server.rooms.length := List.length_map _
  have hphone : ∀ (number : Nat) (scene : Scene), server.registry.scenes[number]? = some scene →
      scene.conference.host.phone.number.toNat = firstPhone.number.toNat + number := by
    intro number scene hscene
    have hnumber := (List.getElem?_eq_some_iff.mp hscene).1
    rw [hbooked.phones number scene hscene, PhoneId.number_next_iterate (by omega)]
  refine {
    listed := h.conference?_iff_lookup?
    distinct := fun name other scene found hscene hfound hid => ?_
    stillOpen := fun name scene hscene => ?_
    rooms := ⟨?_, fun name => ?_⟩
    balance := ⟨by rw [hbooked.balance, hrooms], ?_⟩
    created := ⟨hlength, fun number scene hscene =>
      ⟨h.id_eq hlength hscene, hphone number scene hscene⟩⟩
    phones := ?_
    faulty := hcounted.faulty
    events := hcounted.events
    actions := hcounted.actions
    lines := ⟨hcounted.lines, hcounted.lines_eq⟩
    published := hbooked.published }
  · obtain ⟨hmem, -⟩ := h.mem_doors_of_conference? hscene
    obtain ⟨hother, -⟩ := h.mem_doors_of_conference? hfound
    exact h.name_unique hmem (hid ▸ hother)
  · obtain ⟨hmem, hfound⟩ := h.mem_doors_of_conference? hscene
    exact h.stillOpen name _ scene hmem hfound
  · have hnames := h.names
    rwa [doors, List.map_map] at hnames
  · rw [← Option.ne_none_iff_isSome, ne_eq, h.conference?_eq_none_iff, room?_eq_none_iff]
    simp [doors]
  · rw [Registry.size, h.listed, List.length_map, hrooms]
  · rw [List.Nodup, List.pairwise_iff_getElem]
    intro first second hfirst hsecond hlt heq
    rw [List.length_map] at hfirst hsecond
    have hearlier := hphone first _ (List.getElem?_eq_getElem hfirst)
    have hlater := hphone second _ (List.getElem?_eq_getElem hsecond)
    rw [List.getElem_map, List.getElem_map] at heq
    rw [heq] at hearlier
    omega

theorem Orderly.applies {server : Server} {line : Line} (h : server.Orderly)
    (hfresh : (server.countLine.apply line).Fresh) : server.Applies line := by
  have hsame := same_countLine server
  have hentered := (grows_apply line server.countLine).fresh hfresh
  have hadmits := admits_enterRoom (hsame.orderly h) line.conference hentered
  unfold Applies
  generalize server.countLine.enterRoom line.conference = entered at hadmits
  obtain ⟨room, entered⟩ := entered
  obtain ⟨scene, hscene, -⟩ := hadmits.orderly.calm _ _ hadmits.door
  refine ⟨⟨_, Scene.openOver?_of_valid entered.registry.valid _ _⟩, ⟨scene, ?_, ?_⟩, ?_⟩
  · rw [hadmits.orderly.conference?_of_mem hadmits.door, hscene]
  · exact hadmits.orderly.stillOpen _ _ scene hadmits.door hscene
  · intro event _
    have hcounted := same_countEvent entered
    have hdoor : (room.name, room.id) ∈ entered.doors := by
      rw [hadmits.called]
      exact hadmits.door
    obtain ⟨next, happlied, -⟩ :=
      turns_applyEvent (hcounted.orderly hadmits.orderly) (hcounted.doors ▸ hdoor) event
    exact ⟨next, happlied⟩

/-- The books of a replay are right after each line. What is open under a name is what the registry
lists, and none of it is torn down; as many conferences are open as were created and not closed
again. The telephones are given out one after the other. No line that can be read fails, so the
faulty lines are those that are neither blank nor comments and cannot be read, and each line counts
once. The call list was handed everyone who ever took part. -/
theorem replay_keeps_books (hopen : open? config firstPhone ids = .ok start) (texts : List String)
    (hfresh : (start.takeTexts texts).Fresh)
    (hphones : firstPhone.number.toNat + (start.takeTexts texts).statistics.created <
      UInt32.size) :
    (∀ done rest, texts = done ++ rest → (start.takeTexts done).KeepsBooks firstPhone ids done) ∧
      ∀ done text rest line, texts = done ++ text :: rest → Line.ofText? text = some line →
        (start.takeTexts done).Applies line := by
  have hlater : ∀ done rest, texts = done ++ rest →
      (start.takeTexts done).Grows (start.takeTexts texts) := by
    rintro done rest rfl
    have hrest := grows_takeTexts rest (start.takeTexts done)
    rwa [takeTexts, takeTexts, ← List.foldl_append] at hrest
  have horderly : ∀ done rest, texts = done ++ rest → (start.takeTexts done).Orderly :=
    fun done rest heq => (renders_takeTexts hopen .nil { label := "", phone := firstPhone } done
      ((hlater done rest heq).fresh hfresh)).1
  constructor
  · intro done rest heq
    have hgrows := hlater done rest heq
    obtain ⟨hbooked, hcounted⟩ := booked_takeTexts hopen done (hgrows.fresh hfresh)
    have hids : (start.takeTexts done).ids = ids := by
      rw [(grows_takeTexts done start).ids]
      unfold open? Registry.open? at hopen
      split at hopen
      · cases hopen
      · cases hopen
        rfl
    have hcreated := hgrows.created
    rw [← hids]
    exact (horderly done rest heq).keepsBooks hbooked hcounted (by omega)
  · intro done text rest line heq hline
    have hnext := hlater (done ++ [text]) rest (by simpa using heq)
    have htaken := hnext.fresh hfresh
    rw [takeTexts_concat, take_of_some hline] at htaken
    exact (horderly done _ heq).applies ((grows_purge _).fresh htaken)

theorem replay_keeps_books_twoRooms :
    (idle.takeTexts twoRooms).Fresh ∧ (idle.takeTexts twoRooms).statistics.created = 2 ∧
      (idle.takeTexts twoRooms).KeepsBooks ⟨1⟩ numbered twoRooms ∧
      ∃ line, Line.ofText? twoRooms[2] = some line ∧
        (idle.takeTexts (twoRooms.take 2)).Applies line := by
  have hcreated : (idle.takeTexts twoRooms).statistics.created = 2 := by cbv
  obtain ⟨hbooks, happlies⟩ := replay_keeps_books open?_idle twoRooms fresh_twoRooms (by
    rw [hcreated]
    decide)
  obtain ⟨line, hline⟩ : ∃ line, Line.ofText? twoRooms[2] = some line := by
    rw [← Option.isSome_iff_exists]
    cbv
  exact ⟨fresh_twoRooms, hcreated, hbooks twoRooms [] (List.append_nil _).symm, line, hline,
    happlies (twoRooms.take 2) twoRooms[2] (twoRooms.drop 3) line rfl hline⟩

end Server

end ConferenceBridge
