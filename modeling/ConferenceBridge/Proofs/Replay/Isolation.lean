import ConferenceBridge.Proofs.Replay.Bookkeeping
import ConferenceBridge.Replay.Stream
import Mathlib

namespace ConferenceBridge

/-! A replay keeps its conferences apart: each is as if it alone had been told what its own lines
say, and nothing else. -/

namespace Line

def ofText? (text : String) : Option Line :=
  match parse text with
  | .ok line => line
  | .error _ => none

def event? (line : Line) : Option HostEvent :=
  match line.content with
  | .event event => some event
  | .action _ => none

def isEnding (line : Line) : Bool :=
  line.event?.any HostEvent.isEnding

/-- The lines of a conference after the last of them that ends it. -/
def current (name : String) (texts : List String) : List Line :=
  ((texts.filterMap ofText?).filter fun line => line.conference = name).rtakeWhile
    fun line => !line.isEnding

variable {name text : String} {texts : List String} {line : Line}

theorem current_concat_of_none (h : ofText? text = none) :
    current name (texts ++ [text]) = current name texts := by
  simp [current, h]

theorem current_concat_of_ne (h : ofText? text = some line) (hne : line.conference ≠ name) :
    current name (texts ++ [text]) = current name texts := by
  simp [current, h, hne]

theorem current_concat_self (h : ofText? text = some line) :
    current line.conference (texts ++ [text]) =
      if line.isEnding then [] else current line.conference texts ++ [line] := by
  have hlines : ((texts ++ [text]).filterMap ofText?).filter
      (fun other => other.conference = line.conference) =
        (texts.filterMap ofText?).filter (fun other => other.conference = line.conference) ++
          [line] := by
    simp [h]
  rw [current, hlines, List.rtakeWhile_concat]
  cases line.isEnding <;> rfl

end Line

namespace Scene

def hear (line : Line) (scene : Scene) : Scene :=
  match line.event? with
  | some event => scene.process event
  | none => scene

theorem foldl_hear (lines : List Line) (scene : Scene) :
    lines.foldl (fun scene line => scene.hear line) scene =
      scene.run ((lines.filterMap Line.event?).map .event) := by
  induction lines generalizing scene with
  | nil => rfl
  | cons line lines ih =>
      rw [List.foldl_cons, ih, hear, List.filterMap_cons]
      cases line.event? <;> rfl

theorem openOver?_of_valid {config : ConferenceConfig} (h : config.validate = .ok ())
    (id : ConferenceId) (handle : Handle) :
    openOver? id config handle = .ok (openOver id config handle) := by
  rw [openOver?, h]

theorem lockstep_openOver (first second : ConferenceId) (config : ConferenceConfig)
    (handle copy : Handle) :
    (openOver first config handle).Lockstep (openOver second config copy) where
  alike := ⟨rfl, rfl, rfl, rfl, rfl, rfl, rfl, rfl, rfl⟩
  stillOpen := rfl
  calm := calm_openOver _ _ _
  otherCalm := calm_openOver _ _ _

end Scene

namespace Server

variable {server next : Server} {room : Room} {name other : String} {line : Line}

def takeTexts (texts : List String) (server : Server) : Server :=
  texts.foldl (fun server text => server.take text) server

theorem takeTexts_concat (texts : List String) (text : String) (server : Server) :
    server.takeTexts (texts ++ [text]) = (server.takeTexts texts).take text := by
  simp [takeTexts]

theorem takeAll_eq {lines : List (List UInt8)} {texts : List String}
    (h : lines.mapM Text.ofUtf8? = some texts) (server : Server) :
    server.takeAll lines = (server.takeTexts texts, true) := by
  induction lines generalizing texts server with
  | nil =>
      cases h
      rfl
  | cons line lines ih =>
      rw [List.mapM_cons, Option.bind_eq_bind, Option.bind_eq_some_iff] at h
      obtain ⟨text, htext, hrest⟩ := h
      rw [Option.bind_eq_bind, Option.bind_eq_some_iff] at hrest
      obtain ⟨rest, hlines, hconcat⟩ := hrest
      cases hconcat
      rw [takeAll, htext]
      exact ih hlines (server.take text)

/-! Ids are given out one after the other, and none is taken back. -/

structure Grows (server next : Server) : Prop where
  ids : next.ids = server.ids
  created : server.statistics.created ≤ next.statistics.created
  config : next.registry.config = server.registry.config

namespace Grows

theorem trans {middle : Server} (hfirst : server.Grows middle) (hsecond : middle.Grows next) :
    server.Grows next where
  ids := hsecond.ids.trans hfirst.ids
  created := hfirst.created.trans hsecond.created
  config := hsecond.config.trans hfirst.config

theorem fresh (h : server.Grows next) (hfresh : next.Fresh) : server.Fresh := by
  rw [Fresh, h.ids] at hfresh
  exact hfresh.mono fun number hnumber =>
    Set.mem_Iio.mpr (lt_of_lt_of_le (Set.mem_Iio.mp hnumber) h.created)

end Grows

theorem grows_observe (room : Room) (count : Nat) (server : Server) :
    server.Grows (server.observe room count) := by
  unfold observe
  split <;> exact ⟨rfl, le_rfl, rfl⟩

theorem grows_enterRoom (name : String) (server : Server) :
    server.Grows (server.enterRoom name).2 := by
  unfold enterRoom
  cases hroom : server.room? name with
  | some room => exact ⟨rfl, le_rfl, rfl⟩
  | none =>
      obtain ⟨-, hopens⟩ := opens_openRoom hroom
      exact ⟨hopens.ids, hopens.created ▸ Nat.le_succ _, by rw [hopens.registry]; rfl⟩

theorem grows_applyEvent {event : HostEvent} (h : server.applyEvent room event = .ok next) :
    server.Grows next := by
  rw [applyEvent_eq_map] at h
  cases hdeliver : (server.registry.update room.id (room.hear event).handOver).deliver room.id
      event with
  | error error =>
      rw [hdeliver] at h
      cases h
  | ok registry =>
      rw [hdeliver] at h
      cases h
      have hconfig : registry.config = server.registry.config := by
        unfold Registry.deliver at hdeliver
        split at hdeliver
        · cases hdeliver
        · split at hdeliver
          · cases hdeliver
          · cases hdeliver
            rfl
      have hchanged : server.Grows { server.setRoom (room.hear event) with registry } :=
        ⟨rfl, le_rfl, hconfig⟩
      exact hchanged.trans (grows_observe _ _ _)

theorem grows_applyAction (action : LineAction) (room : Room) (server : Server) :
    server.Grows (server.applyAction room action) := by
  unfold applyAction
  split
  · exact ⟨rfl, le_rfl, rfl⟩
  · obtain ⟨hids, hcreated, hconfig⟩ := grows_observe room (server.effectCount room)
      { server with registry := server.registry.update room.id fun _ => _ }
    exact ⟨hids, hcreated, hconfig⟩

theorem grows_apply (line : Line) (server : Server) :
    (server.enterRoom line.conference).2.Grows (server.apply line) := by
  generalize hentered : server.enterRoom line.conference = entered
  obtain ⟨room, entered⟩ := entered
  unfold apply
  rw [hentered]
  cases line.content with
  | event event =>
      have hcounted : entered.Grows entered.countEvent := ⟨rfl, le_rfl, rfl⟩
      cases happlied : entered.countEvent.applyEvent room event with
      | ok next =>
          simp only [happlied]
          exact hcounted.trans (grows_applyEvent happlied)
      | error error =>
          simp only [happlied]
          exact ⟨rfl, le_rfl, rfl⟩
  | action action =>
      have hcounted : entered.Grows entered.countAction := ⟨rfl, le_rfl, rfl⟩
      exact hcounted.trans (grows_applyAction action room _)

theorem grows_purge (server : Server) : server.Grows server.purge :=
  ⟨rfl, le_rfl, rfl⟩

theorem grows_take (text : String) (server : Server) : server.Grows (server.take text) := by
  have hcounted : server.Grows server.countLine := ⟨rfl, le_rfl, rfl⟩
  unfold take
  cases Line.parse text with
  | error fault => exact ⟨rfl, le_rfl, rfl⟩
  | ok line =>
      cases line with
      | none => exact hcounted
      | some line =>
          exact hcounted.trans <| (grows_enterRoom line.conference _).trans <|
            (grows_apply line _).trans (grows_purge _)

/-- What a server makes of a name before the line itself is heard. -/
structure Admits (name : String) (server : Server) (room : Room) (next : Server) : Prop where
  orderly : next.Orderly
  called : room.name = name
  door : (name, room.id) ∈ next.doors
  others : ∀ other, other ≠ name → next.conference? other = server.conference? other
  kept : ∀ scene, server.conference? name = some scene → next.conference? name = some scene
  opened : server.conference? name = none → ∃ id handle,
    next.conference? name = some (.openOver id server.registry.config handle)

theorem admits_enterRoom (h : server.Orderly) (name : String)
    (hfresh : (server.enterRoom name).2.Fresh) :
    Admits name server (server.enterRoom name).1 (server.enterRoom name).2 := by
  unfold enterRoom at hfresh ⊢
  cases hroom : server.room? name with
  | some room =>
      have hname : room.name = name := by simpa using List.find?_some hroom
      have hdoor : (name, room.id) ∈ server.doors :=
        List.mem_map.mpr ⟨room, List.mem_of_find?_eq_some hroom, by rw [hname]⟩
      refine ⟨h, hname, hdoor, fun _ _ => rfl, fun _ hscene => hscene, fun hnone => ?_⟩
      rw [h.conference?_eq_none_iff, hroom] at hnone
      cases hnone
  | none =>
      simp only [hroom] at hfresh
      obtain ⟨hname, hopens⟩ := opens_openRoom hroom
      generalize server.openRoom name = opened at hname hopens hfresh
      subst hname
      refine ⟨hopens.orderly h hfresh, rfl, by simp [hopens.doors],
        fun _ => hopens.conference?_of_ne h hfresh, ?_, ?_⟩
      · intro scene hscene
        rw [h.conference?_eq_none_iff.mpr hroom] at hscene
        cases hscene
      · intro _
        exact ⟨_, _, hopens.conference?_self h hfresh⟩

structure Hears (line : Line) (server next : Server) : Prop where
  tidy : next.Tidy
  others : ∀ other, other ≠ line.conference → next.conference? other = server.conference? other
  own : ∀ scene direct, server.conference? line.conference = some scene → scene.Lockstep direct →
    ∃ later, next.conference? line.conference = some later ∧
      later.conference.tornDown = line.isEnding ∧
        (line.isEnding = false → later.Lockstep (direct.hear line))

theorem hears_applyEvent (h : server.Orderly) (hdoor : (room.name, room.id) ∈ server.doors)
    (hcalled : room.name = line.conference) {event : HostEvent} (hline : line.event? = some event) :
    ∃ next, server.applyEvent room event = .ok next ∧ Hears line server next := by
  obtain ⟨next, happlied, hturns⟩ := turns_applyEvent h hdoor event
  have hid : ∀ scene, scene.conference.id = room.id →
      (((room.hear event).handOver scene).process event).conference.id = room.id := by
    intro scene hscene
    rw [Scene.id_process]
    exact hscene
  have htidy : next.Tidy := by
    refine hturns.tidy h.toTidy hid fun scene hscene hcalm => ?_
    have hhanded : ((room.hear event).handOver scene).Calm := ⟨hcalm.silent, hcalm.held⟩
    exact (hhanded.process (h.stillOpen _ _ scene hdoor hscene) event).1
  refine ⟨next, happlied, htidy, ?_, ?_⟩
  · intro other hne
    exact hturns.conference?_of_ne h.toTidy htidy hdoor hid (hcalled ▸ hne)
  · intro scene direct hscene hlockstep
    have hhanded : ((room.hear event).handOver scene).Lockstep direct :=
      ⟨hlockstep.alike, hlockstep.stillOpen, ⟨hlockstep.calm.silent, hlockstep.calm.held⟩,
        hlockstep.otherCalm⟩
    rw [← hcalled] at hscene ⊢
    rw [hturns.conference?_self h.toTidy htidy hdoor hid, hscene]
    refine ⟨_, rfl, ?_, ?_⟩
    · rw [(hhanded.calm.process hhanded.stillOpen event).2, Line.isEnding, hline, Option.any_some]
    · intro hgoes
      rw [Line.isEnding, hline, Option.any_some] at hgoes
      rw [Scene.hear, hline]
      exact hhanded.process hgoes

theorem hears_applyAction (h : server.Orderly) (hdoor : (room.name, room.id) ∈ server.doors)
    (hcalled : room.name = line.conference) (hline : line.event? = none) (action : LineAction) :
    Hears line server (server.applyAction room action) := by
  obtain ⟨scene, later, hscene, hsame, hcalm, hturns⟩ := turns_applyAction h hdoor action
  have hid : ∀ other : Scene, other.conference.id = room.id → later.conference.id = room.id := by
    intro _ _
    rw [hsame]
    exact Registry.id_of_scene? hscene
  have htidy : (server.applyAction room action).Tidy := by
    refine hturns.tidy h.toTidy hid fun other hother hothercalm => ?_
    rw [hscene] at hother
    cases hother
    exact hcalm hothercalm
  refine ⟨htidy, ?_, ?_⟩
  · intro other hne
    exact hturns.conference?_of_ne h.toTidy htidy hdoor hid (hcalled ▸ hne)
  · intro before direct hbefore hlockstep
    rw [← hcalled] at hbefore ⊢
    rw [hturns.conference?_self h.toTidy htidy hdoor hid, hbefore]
    rw [h.conference?_of_mem hdoor, hscene] at hbefore
    cases hbefore
    refine ⟨later, rfl, ?_, ?_⟩
    · rw [hsame, hlockstep.stillOpen, Line.isEnding, hline]
      rfl
    · intro _
      rw [Scene.hear, hline]
      exact ⟨hsame ▸ hlockstep.alike, hsame ▸ hlockstep.stillOpen, hcalm hlockstep.calm,
        hlockstep.otherCalm⟩

theorem Hears.of_same {counted : Server} (h : Hears line counted next)
    (hsame : server.Same counted) (htidy : server.Tidy) : Hears line server next where
  tidy := h.tidy
  others other hne := (h.others other hne).trans (hsame.conference? htidy other)
  own scene direct hscene :=
    h.own scene direct ((hsame.conference? htidy line.conference).trans hscene)

theorem hears_apply {entered : Server} (h : entered.Orderly)
    (hentered : server.enterRoom line.conference = (room, entered))
    (hdoor : (line.conference, room.id) ∈ entered.doors) (hcalled : room.name = line.conference) :
    Hears line entered (server.apply line) := by
  rw [← hcalled] at hdoor
  unfold apply
  rw [hentered]
  cases hcontent : line.content with
  | event event =>
      have hline : line.event? = some event := by rw [Line.event?, hcontent]
      have hcounted := same_countEvent entered
      obtain ⟨next, happlied, hhears⟩ :=
        hears_applyEvent (hcounted.orderly h) (hcounted.doors ▸ hdoor) hcalled hline
      simp only [happlied]
      exact hhears.of_same hcounted h.toTidy
  | action action =>
      have hline : line.event? = none := by rw [Line.event?, hcontent]
      have hcounted := same_countAction entered
      exact (hears_applyAction (hcounted.orderly h) (hcounted.doors ▸ hdoor) hcalled hline
        action).of_same hcounted h.toTidy

theorem same_take_of_none {text : String} (h : Line.ofText? text = none) (server : Server) :
    server.Same (server.take text) := by
  unfold take
  unfold Line.ofText? at h
  cases hparse : Line.parse text with
  | error fault => exact ⟨rfl, rfl, rfl, rfl⟩
  | ok found =>
      rw [hparse] at h
      cases h
      exact ⟨rfl, rfl, rfl, rfl⟩

theorem take_of_some {text : String} (h : Line.ofText? text = some line) (server : Server) :
    server.take text = (server.countLine.apply line).purge := by
  unfold take
  unfold Line.ofText? at h
  cases hparse : Line.parse text with
  | error fault =>
      rw [hparse] at h
      cases h
  | ok found =>
      rw [hparse] at h
      cases h
      rfl

/-- What was found under a name is as after these lines, taken one after the other; without lines
there is nothing. -/
def Renders (start : Scene) (lines : List Line) : Option Scene → Prop
  | none => lines = []
  | some scene => lines ≠ [] ∧ scene.Lockstep (lines.foldl (fun scene line => scene.hear line) start)

theorem Renders.filter {start : Scene} {lines : List Line} {found : Option Scene}
    (h : Renders start lines found) :
    found.filter (fun scene => !scene.conference.tornDown) = found := by
  cases found with
  | none => rfl
  | some scene =>
      rw [Option.filter_some, h.2.stillOpen]
      rfl

theorem Admits.lockstep {entered : Server} {lines : List Line} {id : ConferenceId}
    {config : ConferenceConfig} {handle : Handle} (h : Admits name server room entered)
    (hconfig : server.registry.config = config)
    (hrenders : Renders (.openOver id config handle) lines (server.conference? name)) :
    ∃ scene, entered.conference? name = some scene ∧
      scene.Lockstep (lines.foldl (fun scene line => scene.hear line)
        (.openOver id config handle)) := by
  cases hfound : server.conference? name with
  | some scene =>
      rw [hfound] at hrenders
      exact ⟨scene, h.kept scene hfound, hrenders.2⟩
  | none =>
      rw [hfound] at hrenders
      obtain ⟨other, copy, hopened⟩ := h.opened hfound
      rw [hconfig] at hopened
      obtain rfl : lines = [] := hrenders
      exact ⟨_, hopened, Scene.lockstep_openOver other id config copy handle⟩

/-- One line more: the conference that it names hears it, and no other. -/
theorem renders_take {texts : List String} {text : String} {id : ConferenceId}
    {config : ConferenceConfig} {handle : Handle} (h : server.Orderly)
    (hconfig : server.registry.config = config) (hfresh : (server.take text).Fresh)
    (hrenders : ∀ name, Renders (.openOver id config handle) (Line.current name texts)
      (server.conference? name)) :
    (server.take text).Orderly ∧ ∀ name, Renders (.openOver id config handle)
      (Line.current name (texts ++ [text])) ((server.take text).conference? name) := by
  cases hline : Line.ofText? text with
  | none =>
      have hsame := same_take_of_none hline server
      refine ⟨hsame.orderly h, fun name => ?_⟩
      rw [Line.current_concat_of_none hline, hsame.conference? h.toTidy]
      exact hrenders name
  | some line =>
      have hcounted := same_countLine server
      rw [take_of_some hline] at hfresh ⊢
      obtain ⟨⟨room, entered⟩, hentered⟩ :
          ∃ entered, server.countLine.enterRoom line.conference = entered := ⟨_, rfl⟩
      have hgrows := (grows_apply line server.countLine).trans (grows_purge _)
      have hadmits := admits_enterRoom (hcounted.orderly h) line.conference (hgrows.fresh hfresh)
      rw [hentered] at hadmits
      have hhears := hears_apply hadmits.orderly hentered hadmits.door hadmits.called
      refine ⟨orderly_purge hhears.tidy, fun name => ?_⟩
      rw [conference?_purge hhears.tidy]
      by_cases hname : name = line.conference
      · subst hname
        obtain ⟨scene, hscene, hlockstep⟩ := hadmits.lockstep hconfig <|
          (hcounted.conference? h.toTidy line.conference).symm ▸ hrenders line.conference
        obtain ⟨later, hlater, htorn, hgoes⟩ := hhears.own scene _ hscene hlockstep
        rw [Line.current_concat_self hline, hlater, Option.filter_some, htorn]
        cases hending : line.isEnding with
        | true => rfl
        | false =>
            refine ⟨by simp, ?_⟩
            rw [if_neg Bool.false_ne_true, List.foldl_concat]
            exact hgoes hending
      · have hsame : (server.countLine.apply line).conference? name = server.conference? name :=
          (hhears.others name hname).trans <| (hadmits.others name hname).trans <|
            hcounted.conference? h.toTidy name
        rw [Line.current_concat_of_ne hline (Ne.symm hname), hsame, (hrenders name).filter]
        exact hrenders name

variable {config : ConferenceConfig} {firstPhone : PhoneId} {ids : Nat → ConferenceId}
  {start : Server}

theorem orderly_of_open? (h : open? config firstPhone ids = .ok start) :
    start.Orderly ∧ start.doors = [] ∧ start.registry.config = config ∧
      config.validate = .ok () := by
  unfold open? Registry.open? at h
  split at h
  · cases h
  · rename_i hvalid
    cases h
    exact ⟨⟨⟨rfl, rfl, List.nodup_nil, List.nodup_nil, fun _ _ hmem => by cases hmem⟩,
      fun _ _ _ hmem => by cases hmem⟩, rfl, rfl, hvalid⟩

theorem grows_takeTexts (texts : List String) (server : Server) :
    server.Grows (server.takeTexts texts) := by
  induction texts generalizing server with
  | nil => exact ⟨rfl, le_rfl, rfl⟩
  | cons text texts ih => exact (grows_take text server).trans (ih _)

theorem renders_takeTexts (hopen : open? config firstPhone ids = .ok start) (id : ConferenceId)
    (handle : Handle) (texts : List String) (hfresh : (start.takeTexts texts).Fresh) :
    (start.takeTexts texts).Orderly ∧ ∀ name, Renders (.openOver id config handle)
      (Line.current name texts) ((start.takeTexts texts).conference? name) := by
  obtain ⟨horderly, hdoors, hconfig, -⟩ := orderly_of_open? hopen
  induction texts using List.reverseRecOn with
  | nil =>
      refine ⟨horderly, fun name => ?_⟩
      have hnobody : start.conference? name = none :=
        conference?_of_not_mem fun id => hdoors ▸ List.not_mem_nil
      rw [takeTexts, List.foldl_nil, hnobody]
      rfl
  | append_singleton texts text ih =>
      rw [takeTexts_concat] at hfresh ⊢
      obtain ⟨hbefore, hrenders⟩ := ih ((grows_take text _).fresh hfresh)
      exact renders_take hbefore ((grows_takeTexts texts start).config.trans hconfig) hfresh hrenders

/-- A replay keeps the conferences apart, and each is as a conference of its own would be. If no
line named it since it last ended, there is none of that name. Otherwise it is open and in all but
its id and its host's name and telephone like a new conference that is told the events of those
lines directly. Whatever else the replay took, blank lines, comments, lines that cannot be read,
actions and lines of other names in any order, makes no difference. -/
theorem replay_isolates (hopen : open? config firstPhone ids = .ok start) (texts : List String)
    (hfresh : (start.takeTexts texts).Fresh) (name : String) (id : ConferenceId)
    (handle : Handle) :
    let lines := Line.current name texts
    ∃ direct, Scene.openOver? id config handle = .ok direct ∧
      (lines = [] → (start.takeTexts texts).conference? name = none) ∧
      (lines ≠ [] → ∃ scene, (start.takeTexts texts).conference? name = some scene ∧
        scene.conference.tornDown = false ∧
        scene.conference.Alike
          (direct.run ((lines.filterMap Line.event?).map .event)).conference) := by
  intro lines
  obtain ⟨-, -, -, hvalid⟩ := orderly_of_open? hopen
  have hrenders := (renders_takeTexts hopen id handle texts hfresh).2 name
  refine ⟨_, Scene.openOver?_of_valid hvalid id handle, ?_, ?_⟩
  · intro hnone
    cases hfound : (start.takeTexts texts).conference? name with
    | none => rfl
    | some scene =>
        rw [hfound] at hrenders
        exact absurd hnone hrenders.1
  · intro hsome
    cases hfound : (start.takeTexts texts).conference? name with
    | none =>
        rw [hfound] at hrenders
        exact absurd hrenders hsome
    | some scene =>
        rw [hfound] at hrenders
        obtain ⟨-, hlockstep⟩ := hrenders
        rw [Scene.foldl_hear] at hlockstep
        exact ⟨scene, rfl, hlockstep.stillOpen, hlockstep.alike⟩

def twoRooms : List String :=
  ["# zwei Konferenzen",
    "\x7b\"konferenz\":\"k1\",\"aktion\":\x7b\"typ\":\"halten\"\x7d\x7d",
    "\x7b\"konferenz\":\"k2\",\"ereignis\":\x7b\"typ\":\"zerstoert\"\x7d\x7d",
    "\x7b\"konferenz\":\"k1\",\"ereignis\":\x7b\"typ\":\"getrennt\",\"grund\":\"besetzt\"\x7d\x7d"]

def numbered (number : Nat) : ConferenceId :=
  ⟨ConferenceId.digitOf number :: ConferenceId.nil.digits.tail, rfl⟩

def idle : Server where
  registry := { config := {}, valid := rfl }
  ids := numbered
  nextPhone := ⟨1⟩

theorem open?_idle : open? {} ⟨1⟩ numbered = .ok idle := rfl

theorem fresh_twoRooms : (idle.takeTexts twoRooms).Fresh := by
  have hcreated : (idle.takeTexts twoRooms).statistics.created = 2 := by cbv
  rw [Fresh, (grows_takeTexts twoRooms idle).ids, hcreated]
  have hdistinct : ∀ first < 2, ∀ second < 2, numbered first = numbered second → first = second := by
    decide
  intro first hfirst second hsecond heq
  exact hdistinct first (Set.mem_Iio.mp hfirst) second (Set.mem_Iio.mp hsecond) heq

theorem replay_isolates_twoRooms :
    (idle.takeTexts twoRooms).Fresh ∧
      (idle.takeTexts twoRooms).conference? "k2" = none ∧
      ∃ scene, (idle.takeTexts twoRooms).conference? "k1" = some scene ∧
        scene.conference.Alike (Scene.fresh.run
          [.event (.disconnected .busy)]).conference := by
  have hended : Line.current "k2" twoRooms = [] := by cbv
  have hcurrent : (Line.current "k1" twoRooms).filterMap Line.event? =
      [.disconnected .busy] := by cbv
  have hlines : Line.current "k1" twoRooms ≠ [] := by
    intro hnone
    rw [hnone] at hcurrent
    cases hcurrent
  obtain ⟨-, -, hnone, -⟩ := replay_isolates open?_idle twoRooms fresh_twoRooms "k2" .nil
    { label := "host", phone := ⟨1⟩ }
  obtain ⟨direct, hdirect, -, hsome⟩ := replay_isolates open?_idle twoRooms fresh_twoRooms "k1" .nil
    { label := "host", phone := ⟨1⟩ }
  obtain ⟨scene, hscene, -, halike⟩ := hsome hlines
  rw [Scene.openOver?_fresh] at hdirect
  cases hdirect
  rw [hcurrent] at halike
  exact ⟨fresh_twoRooms, hnone hended, scene, hscene, halike⟩

end Server

end ConferenceBridge
