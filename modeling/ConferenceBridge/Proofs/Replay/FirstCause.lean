import ConferenceBridge.Proofs.Conference.FirstCause
import ConferenceBridge.Proofs.Conference.HostReport
import ConferenceBridge.Proofs.Replay.Isolation
import ConferenceBridge.Proofs.Replay.LineFormat
import Mathlib

namespace ConferenceBridge

/-! In a replay the simulated host of a conference remembers why it was last disconnected, while the
conference keeps the cause that it was told first. -/

def HostEvent.cause? : HostEvent → Option SignallingCause
  | .disconnected cause => some cause
  | _ => none

namespace SimulatedHost

theorem cause_hear (event : HostEvent) (host : SimulatedHost) :
    (host.hear event).cause = event.cause?.getD host.cause := by
  cases event <;> rfl

theorem cause_foldl_perform (commands : List HostCommand) (host : SimulatedHost) :
    (commands.foldl (fun host command => host.perform command) host).cause = host.cause := by
  induction commands generalizing host with
  | nil => rfl
  | cons command commands ih =>
      rw [List.foldl_cons, ih, perform]
      split <;> rfl

end SimulatedHost

namespace Line

def cause? (line : Line) : Option SignallingCause :=
  line.event?.bind HostEvent.cause?

def causes (lines : List Line) : List SignallingCause :=
  lines.filterMap cause?

/-- The last of them; a host that was told none does not know any. -/
def lastCause (lines : List Line) : SignallingCause :=
  (causes lines).getLast?.getD .unknown

def print (line : Line) : String :=
  line.toJson.print

theorem ofText?_print (line : Line) : ofText? line.print = some line := by
  have hparse : parse ("" ++ line.toJson.print ++ "") = .ok (some line) :=
    line.parse_print rfl rfl
  rw [String.empty_append, String.append_empty] at hparse
  simp only [ofText?, print, hparse]

theorem filterMap_print (lines : List Line) : (lines.map print).filterMap ofText? = lines := by
  induction lines with
  | nil => rfl
  | cons line lines ih => rw [List.map_cons, List.filterMap_cons_some (ofText?_print line), ih]

theorem causes_cons (line : Line) (lines : List Line) :
    causes (line :: lines) = line.cause?.toList ++ causes lines := by
  rw [causes, List.filterMap_cons]
  cases line.cause? <;> rfl

theorem lastCause_concat (lines : List Line) (line : Line) :
    lastCause (lines ++ [line]) = line.cause?.getD (lastCause lines) := by
  cases hcause : line.cause? <;> simp [lastCause, causes, hcause]

end Line

namespace Scene

variable {scene : Scene}

/-- As long as nobody calls back, only the report of a cause gives one before the end. -/
theorem Calm.cause_process (h : scene.Calm) (hopen : scene.conference.tornDown = false)
    {event : HostEvent} (hgoes : event.isEnding = false) :
    (scene.process event).conference.cause =
      scene.conference.cause.or (event.cause?.map SignallingCause.disconnectCause) := by
  have hheeds := heeds_process event scene
  cases event with
  | stateChanged code =>
      have hcode : ConnectionState.ofCode? code ≠ some .disconnected := by
        intro hsix
        rw [HostEvent.isEnding_of_ofCode? hsix] at hgoes
        cases hgoes
      simpa [Heeds, processDisconnects, eventDisconnects, hopen, hcode, HostEvent.cause?] using hheeds
  | disconnected cause =>
      simpa [Heeds, processDisconnects, eventDisconnects, hopen, HostEvent.cause?] using hheeds
  | destroyed => cases hgoes
  | participantsChanged entries =>
      rw [(sparesHost_process_listing h entries).1.cause]
      exact Option.or_none.symm

theorem cause_process_six (hopen : scene.conference.tornDown = false) :
    (scene.process (.stateChanged 6)).conference.cause =
      some (scene.conference.cause.getD scene.hostCause) := by
  have hcode : ConnectionState.ofCode? 6 = some .disconnected := rfl
  have hheeds := heeds_process (.stateChanged 6) scene
  simpa [Heeds, processDisconnects, eventDisconnects, hopen, hcode] using hheeds

theorem cause_foldl_hear (h : scene.Calm) (hopen : scene.conference.tornDown = false)
    {lines : List Line} (hgoOn : ∀ line ∈ lines, line.isEnding = false) :
    (lines.foldl (fun scene line => scene.hear line) scene).conference.cause =
      scene.conference.cause.or
        ((Line.causes lines).head?.map SignallingCause.disconnectCause) := by
  induction lines generalizing scene with
  | nil => exact Option.or_none.symm
  | cons line lines ih =>
      have hgoes := hgoOn line List.mem_cons_self
      have hrest : ∀ other ∈ lines, other.isEnding = false :=
        fun other hother => hgoOn other (.tail _ hother)
      rw [List.foldl_cons, hear, Line.causes_cons, Line.cause?]
      cases hevent : line.event? with
      | none => exact ih h hopen hrest
      | some event =>
          rw [Line.isEnding, hevent, Option.any_some] at hgoes
          obtain ⟨hcalm, htorn⟩ := h.process hopen event
          rw [ih hcalm (htorn.trans hgoes) hrest, h.cause_process hopen hgoes, Option.bind_some,
            Option.or_assoc, List.head?_append]
          cases event.cause? <;> rfl

end Scene

namespace Server

variable {server next : Server} {room : Room} {name : String} {line : Line}
  {memory : String → SignallingCause}

/-- The hosts remember the causes that are given for their names. -/
def Remembers (memory : String → SignallingCause) (server : Server) : Prop :=
  ∀ room ∈ server.rooms, room.host.cause = memory room.name

theorem remembers_setRoom
    (h : ∀ other ∈ server.rooms, other.name ≠ room.name → other.host.cause = memory other.name)
    (hroom : room.host.cause = memory room.name) : (server.setRoom room).Remembers memory := by
  intro other hother
  obtain ⟨before, hbefore, rfl⟩ := List.mem_map.mp hother
  split
  · exact hroom
  · rename_i hne
    exact h before hbefore hne

namespace Remembers

theorem write (h : server.Remembers memory) (records : List Log.Record) :
    (server.write records).Remembers memory :=
  h

theorem withRegistry (h : server.Remembers memory) (registry : Registry) :
    ({ server with registry } : Server).Remembers memory :=
  h

theorem observe (h : server.Remembers memory) (hroom : room.host.cause = memory room.name)
    (count : Nat) : (server.observe room count).Remembers memory := by
  unfold Server.observe
  split
  · exact h
  · refine remembers_setRoom (fun other hother _ => h other hother) ?_
    exact (SimulatedHost.cause_foldl_perform _ room.host).trans hroom

theorem purge (h : server.Remembers memory) : server.purge.Remembers memory :=
  fun room hroom => h room (List.mem_of_mem_filter hroom)

theorem enterRoom (h : server.Remembers memory) (name : String)
    (hunknown : server.room? name = none → memory name = .unknown) :
    (server.enterRoom name).2.Remembers memory ∧
      (server.enterRoom name).1.host.cause = memory name := by
  unfold Server.enterRoom
  cases hroom : server.room? name with
  | some room =>
      have hname : room.name = name := by simpa using List.find?_some hroom
      exact ⟨h, (h room (List.mem_of_find?_eq_some hroom)).trans (congrArg memory hname)⟩
  | none =>
      have hnew : (server.openRoom name).1.host.cause = memory name := (hunknown hroom).symm
      have hseated : (server.seat name).Remembers memory := by
        intro room hmem
        rcases List.mem_append.mp hmem with hold | hadded
        · exact h room hold
        · obtain rfl := List.mem_singleton.mp hadded
          exact hnew
      obtain ⟨records, heq⟩ := openRoom_eq_observe name server
      refine ⟨?_, hnew⟩
      simp only [heq]
      exact (hseated.observe hnew 0).write records

theorem applyAction (h : server.Remembers memory) (hroom : room.host.cause = memory room.name)
    (action : LineAction) : (server.applyAction room action).Remembers memory := by
  unfold Server.applyAction
  split
  · exact h
  · exact ((h.withRegistry _).observe hroom _).write _

end Remembers

theorem remembers_hear (h : server.Remembers memory) (hroom : room.host.cause = memory room.name)
    (event : HostEvent) :
    (server.setRoom (room.hear event)).Remembers
      (Function.update memory room.name (event.cause?.getD (memory room.name))) := by
  refine remembers_setRoom (fun other hother hne => ?_) ?_
  · have hname : other.name ≠ room.name := hne
    rw [Function.update_of_ne hname]
    exact h other hother
  · rw [Room.hear, SimulatedHost.cause_hear, hroom, Function.update_self]

section Apply

variable {entered : Server} (h : entered.Orderly)
  (hentered : server.enterRoom line.conference = (room, entered))
  (hdoor : (line.conference, room.id) ∈ entered.doors) (hcalled : room.name = line.conference)

include h hentered hdoor hcalled

theorem apply_event {event : HostEvent} (hline : line.event? = some event) :
    entered.countEvent.applyEvent room event = .ok (server.apply line) := by
  have hcontent : line.content = .event event := by
    cases hcontent : line.content with
    | event other => simpa [Line.event?, hcontent] using hline
    | action action => simp [Line.event?, hcontent] at hline
  have hcounted := same_countEvent entered
  have hmem : (room.name, room.id) ∈ entered.countEvent.doors := hcalled ▸ hdoor
  have happlied := applyEvent_eq_ok (hcounted.orderly h) hmem event
  simp only [apply, hentered, hcontent, happlied]

theorem remembers_apply (hmemory : entered.Remembers memory)
    (hroom : room.host.cause = memory line.conference) :
    (server.apply line).Remembers
      (Function.update memory line.conference (line.cause?.getD (memory line.conference))) := by
  cases hevent : line.event? with
  | some event =>
      have happlied := apply_event h hentered hdoor hcalled hevent
      have hcounted := same_countEvent entered
      have hmem : (room.name, room.id) ∈ entered.countEvent.doors := hcalled ▸ hdoor
      rw [applyEvent_eq_ok (hcounted.orderly h) hmem event] at happlied
      rw [← Except.ok.inj happlied, Line.cause?, hevent, Option.bind_some, ← hcalled]
      rw [← hcalled] at hroom
      have hcountedMemory : entered.countEvent.Remembers memory := hmemory
      refine ((remembers_hear hcountedMemory hroom event).withRegistry _).observe ?_ _
      rw [Room.hear, SimulatedHost.cause_hear, hroom, Function.update_self]
  | none =>
      obtain ⟨action, hcontent⟩ : ∃ action, line.content = .action action := by
        cases hcontent : line.content with
        | event other => simp [Line.event?, hcontent] at hevent
        | action action => exact ⟨action, rfl⟩
      rw [Line.cause?, hevent, Option.bind_none, Option.getD_none, Function.update_eq_self]
      rw [← hcalled] at hroom
      simp only [apply, hentered, hcontent]
      have hcountedMemory : entered.countAction.Remembers memory := hmemory
      exact hcountedMemory.applyAction hroom action

theorem conference?_apply {event : HostEvent} (hline : line.event? = some event) {scene : Scene}
    (hscene : entered.conference? line.conference = some scene) :
    (server.apply line).Tidy ∧ (server.apply line).conference? line.conference =
      some (((room.hear event).handOver scene).process event) := by
  have happlied := apply_event h hentered hdoor hcalled hline
  have hcounted := same_countEvent entered
  have hmem : (room.name, room.id) ∈ entered.countEvent.doors := hcalled ▸ hdoor
  obtain ⟨next, hnext, hturns⟩ := turns_applyEvent (hcounted.orderly h) hmem event
  rw [happlied] at hnext
  cases hnext
  have hid : ∀ other : Scene, other.conference.id = room.id →
      (((room.hear event).handOver other).process event).conference.id = room.id := by
    intro other hother
    rw [Scene.id_process]
    exact hother
  have htidy : (server.apply line).Tidy := (hears_apply h hentered hdoor hcalled).tidy
  refine ⟨htidy, ?_⟩
  rw [← hcalled] at hscene ⊢
  rw [hturns.conference?_self (hcounted.tidy h.toTidy) htidy hmem hid,
    hcounted.conference? h.toTidy, hscene]
  rfl

end Apply

variable {config : ConferenceConfig} {firstPhone : PhoneId} {ids : Nat → ConferenceId}
  {start : Server} {texts : List String} {text : String}

def memoryOf (texts : List String) (name : String) : SignallingCause :=
  Line.lastCause (Line.current name texts)

/-- What is found when a line is applied: the host remembers the last cause, and the conference is
as the lines so far make it. -/
structure Meets (texts : List String) (line : Line) (server entered : Server) (room : Room) :
    Prop where
  enters : server.enterRoom line.conference = (room, entered)
  admits : Admits line.conference server room entered
  memory : entered.Remembers (memoryOf texts)
  host : room.host.cause = memoryOf texts line.conference

theorem exists_meets (hopen : open? config firstPhone ids = .ok start)
    (hline : Line.ofText? text = some line) (hfresh : (start.takeTexts (texts ++ [text])).Fresh)
    (hmemory : (start.takeTexts texts).Remembers (memoryOf texts)) :
    ∃ room entered, Meets texts line (start.takeTexts texts).countLine entered room := by
  rw [takeTexts_concat] at hfresh
  obtain ⟨horderly, hrenders⟩ := renders_takeTexts hopen .nil { label := "", phone := firstPhone }
    texts ((grows_take text _).fresh hfresh)
  rw [take_of_some hline] at hfresh
  have hcounted := same_countLine (start.takeTexts texts)
  have hgrows := (grows_apply line (start.takeTexts texts).countLine).trans (grows_purge _)
  have hadmits := admits_enterRoom (hcounted.orderly horderly) line.conference (hgrows.fresh hfresh)
  have hcountedMemory : (start.takeTexts texts).countLine.Remembers (memoryOf texts) := hmemory
  obtain ⟨hentered, hhost⟩ := hcountedMemory.enterRoom line.conference <| by
    intro hroom
    have hnone := (hcounted.tidy horderly.toTidy).conference?_eq_none_iff.mpr hroom
    rw [hcounted.conference? horderly.toTidy] at hnone
    have hlines := hrenders line.conference
    rw [hnone] at hlines
    rw [memoryOf, show Line.current line.conference texts = [] from hlines]
    rfl
  exact ⟨_, _, rfl, hadmits, hentered, hhost⟩

theorem rooms_take_of_none (h : Line.ofText? text = none) (server : Server) :
    (server.take text).rooms = server.rooms := by
  unfold take
  unfold Line.ofText? at h
  cases hparse : Line.parse text with
  | error fault => rfl
  | ok found =>
      rw [hparse] at h
      cases h
      rfl

theorem current_ne_nil (hopen : open? config firstPhone ids = .ok start)
    (hfresh : (start.takeTexts texts).Fresh) (hroom : room ∈ (start.takeTexts texts).rooms) :
    Line.current room.name texts ≠ [] := by
  obtain ⟨horderly, hrenders⟩ :=
    renders_takeTexts hopen .nil { label := "", phone := firstPhone } texts hfresh
  have hdoor : (room.name, room.id) ∈ (start.takeTexts texts).doors :=
    List.mem_map.mpr ⟨room, hroom, rfl⟩
  obtain ⟨scene, hscene, -⟩ := horderly.calm _ _ hdoor
  have hfound := hrenders room.name
  rw [horderly.conference?_of_mem hdoor, hscene] at hfound
  exact hfound.1

theorem remembers_takeTexts (hopen : open? config firstPhone ids = .ok start)
    (hfresh : (start.takeTexts texts).Fresh) :
    (start.takeTexts texts).Remembers (memoryOf texts) := by
  induction texts using List.reverseRecOn with
  | nil =>
      intro room hroom
      exact absurd rfl (current_ne_nil hopen hfresh hroom)
  | append_singleton texts text ih =>
      have hbefore : (start.takeTexts texts).Fresh := by
        rw [takeTexts_concat] at hfresh
        exact (grows_take text _).fresh hfresh
      have hmemory := ih hbefore
      intro room hroom
      have hlines := current_ne_nil hopen hfresh hroom
      rw [takeTexts_concat] at hroom
      cases hline : Line.ofText? text with
      | none =>
          rw [rooms_take_of_none hline] at hroom
          rw [memoryOf, Line.current_concat_of_none hline]
          exact hmemory room hroom
      | some line =>
          obtain ⟨host, entered, hmeets⟩ := exists_meets hopen hline hfresh hmemory
          have happlied := remembers_apply hmeets.admits.orderly hmeets.enters hmeets.admits.door
            hmeets.admits.called hmeets.memory hmeets.host
          rw [take_of_some hline] at hroom
          rw [happlied.purge room hroom]
          by_cases hname : room.name = line.conference
          · rw [hname, Line.current_concat_self hline] at hlines
            rw [hname, Function.update_self, memoryOf, memoryOf, Line.current_concat_self hline]
            cases hending : line.isEnding with
            | true => exact absurd (if_pos hending) hlines
            | false => exact (Line.lastCause_concat _ line).symm
          · rw [Function.update_of_ne hname, memoryOf, memoryOf,
              Line.current_concat_of_ne hline (Ne.symm hname)]

/-- Who is found when the next line comes is open, and has the first cause of the lines so far. -/
theorem Meets.scene {room : Room} {entered : Server} (hopen : open? config firstPhone ids = .ok start)
    (hfresh : (start.takeTexts texts).Fresh)
    (h : Meets texts line (start.takeTexts texts).countLine entered room) :
    ∃ scene, entered.conference? line.conference = some scene ∧ scene.Calm ∧
      scene.conference.tornDown = false ∧ scene.conference.cause =
        (Line.causes (Line.current line.conference texts)).head?.map
          SignallingCause.disconnectCause := by
  let copy : Handle := { label := "", phone := firstPhone }
  obtain ⟨horderly, hrenders⟩ := renders_takeTexts hopen .nil copy texts hfresh
  have hcounted := same_countLine (start.takeTexts texts)
  obtain ⟨-, -, hconfig, -⟩ := orderly_of_open? hopen
  obtain ⟨scene, hscene, hlockstep⟩ := h.admits.lockstep
    ((grows_takeTexts texts start).config.trans hconfig) <|
      (hcounted.conference? horderly.toTidy line.conference).symm ▸ hrenders line.conference
  have hgoOn : ∀ other ∈ Line.current line.conference texts, other.isEnding = false := by
    intro other hother
    simpa using List.mem_rtakeWhile_imp hother
  have hcause := Scene.cause_foldl_hear (Scene.calm_openOver .nil config copy) rfl hgoOn
  exact ⟨scene, hscene, hlockstep.calm, hlockstep.stillOpen, hlockstep.alike.cause.trans hcause⟩

theorem ends_with_first_cause (hopen : open? config firstPhone ids = .ok start)
    (hline : Line.ofText? text = some line) (hsix : line.event? = some (.stateChanged 6))
    (hfresh : (start.takeTexts (texts ++ [text])).Fresh) :
    let closing := (start.takeTexts texts).countLine.apply line
    let causes := Line.causes (Line.current line.conference texts)
    ∃ room ended, closing.room? line.conference = some room ∧
      closing.conference? line.conference = some ended ∧
      ended.conference.tornDown = true ∧
      room.host.cause = causes.getLast?.getD .unknown ∧
      ended.conference.cause = some (causes.head?.getD .unknown).disconnectCause := by
  have hbefore : (start.takeTexts texts).Fresh := by
    rw [takeTexts_concat] at hfresh
    exact (grows_take text _).fresh hfresh
  obtain ⟨host, entered, hmeets⟩ :=
    exists_meets hopen hline hfresh (remembers_takeTexts hopen hbefore)
  obtain ⟨scene, hscene, hcalm, hstill, hcause⟩ := hmeets.scene hopen hbefore
  obtain ⟨htidy, hended⟩ := conference?_apply hmeets.admits.orderly hmeets.enters hmeets.admits.door
    hmeets.admits.called hsix hscene
  have hmemory := remembers_apply hmeets.admits.orderly hmeets.enters hmeets.admits.door
    hmeets.admits.called hmeets.memory hmeets.host
  cases hroom : ((start.takeTexts texts).countLine.apply line).room? line.conference with
  | none =>
      rw [htidy.conference?_eq_none_iff.mpr hroom] at hended
      cases hended
  | some room =>
      have hname : room.name = line.conference := by simpa using List.find?_some hroom
      let handed : Scene := host.handOver scene
      have hhanded : handed.Calm := ⟨hcalm.silent, hcalm.held⟩
      have hhandedOpen : handed.conference.tornDown = false := hstill
      refine ⟨room, _, hroom, hended, (hhanded.process hhandedOpen _).2, ?_, ?_⟩
      · rw [hmemory room (List.mem_of_find?_eq_some hroom), hname, Function.update_self, Line.cause?,
          hsix]
        rfl
      · refine (Scene.cause_process_six hhandedOpen).trans ?_
        have hkept : handed.conference.cause =
            (Line.causes (Line.current line.conference texts)).head?.map
              SignallingCause.disconnectCause := hcause
        have hsaid : handed.handle.cause = memoryOf texts line.conference := hmeets.host
        rw [hkept]
        cases hcauses : Line.causes (Line.current line.conference texts) with
        | nil =>
            rw [memoryOf, Line.lastCause, hcauses] at hsaid
            rw [Scene.hostCause, hsaid]
            split <;> rfl
        | cons first others => rfl

/-- The first disconnect that is reported to a conference, whoever reports it and however deep in
other calls, gives its cause for good; if its host is disconnected, that is what the handle says at
that moment, and a handle that was given back says nothing. So a conference of a replay that ends
with its host keeps the first cause of its lines, though its host remembers the last one. -/
theorem first_cause_wins {id : ConferenceId} {settings : ConferenceConfig} {handle : Handle}
    {direct : Scene} (hdirect : Scene.openOver? id settings handle = .ok direct)
    (requests more : List Request) (hopen : open? config firstPhone ids = .ok start)
    (hline : Line.ofText? text = some line) (hsix : line.event? = some (.stateChanged 6))
    (hfresh : (start.takeTexts (texts ++ [text])).Fresh) :
    let scene := direct.run requests
    let closing := (start.takeTexts texts).countLine.apply line
    let causes := Line.causes (Line.current line.conference texts)
    scene.conference.cause = (gather Scene.serve Scene.disconnects requests direct).head? ∧
      (∀ cause, scene.conference.cause = some cause →
        (scene.run more).conference.cause = some cause) ∧
      start.takeTexts (texts ++ [text]) = closing.purge ∧
      ∃ room ended, closing.room? line.conference = some room ∧
        closing.conference? line.conference = some ended ∧
        ended.conference.tornDown = true ∧
        room.host.cause = causes.getLast?.getD .unknown ∧
        ended.conference.cause = some (causes.head?.getD .unknown).disconnectCause := by
  obtain ⟨rfl, -⟩ := Scene.eq_openOver_of_openOver? hdirect
  refine ⟨Scene.heeds_run requests _, ?_, ?_, ends_with_first_cause hopen hline hsix hfresh⟩
  · intro cause hcause
    rw [Scene.heeds_run more _, hcause]
    rfl
  · rw [takeTexts_concat, take_of_some hline]

theorem takeTexts_print (lines : List Line) (server : Server) :
    server.takeTexts (lines.map Line.print) =
      lines.foldl (fun server line => (server.countLine.apply line).purge) server := by
  induction lines generalizing server with
  | nil => rfl
  | cons line lines ih =>
      have hfirst := take_of_some (Line.ofText?_print line) server
      simp only [takeTexts] at ih
      rw [List.map_cons, takeTexts, List.foldl_cons, hfirst, List.foldl_cons, ih]

def calledBack : List Request :=
  [.registerChanged [[.event (.disconnected .busy)]],
    .reconcile [⟨⟨"callsBack", by decide⟩, .active, none, none⟩],
    .handleChanged (.answering .aborted), .event (.ofState .disconnected)]

def twoCauses : List Line :=
  [⟨"k1", .event (.disconnected .busy)⟩, ⟨"k1", .event (.disconnected .aborted)⟩]

def hostEnds : Line :=
  ⟨"k1", .event (.ofState .disconnected)⟩

theorem fresh_twoCauses :
    (idle.takeTexts (twoCauses.map Line.print ++ [hostEnds.print])).Fresh := by
  have hcreated :
      (idle.takeTexts (twoCauses.map Line.print ++ [hostEnds.print])).statistics.created = 1 := by
    rw [takeTexts_concat, takeTexts_print, take_of_some (Line.ofText?_print hostEnds)]
    cbv
  rw [Fresh, (grows_takeTexts _ idle).ids, hcreated]
  intro first hfirst second hsecond _
  rw [Set.mem_Iio] at hfirst hsecond
  omega

theorem first_cause_wins_twoCauses :
    let closing := (idle.takeTexts (twoCauses.map Line.print)).countLine.apply hostEnds
    (Scene.fresh.run calledBack).conference.cause = some .busy ∧
      ((Scene.fresh.run calledBack).run [.hostState .disconnected]).conference.cause = some .busy ∧
      ∃ room ended, closing.room? "k1" = some room ∧ closing.conference? "k1" = some ended ∧
        ended.conference.tornDown = true ∧ room.host.cause = .aborted ∧
        ended.conference.cause = some .busy := by
  have hcurrent : Line.current hostEnds.conference (twoCauses.map Line.print) = twoCauses := by
    rw [Line.current, Line.filterMap_print]
    rfl
  obtain ⟨hcause, hstays, -, room, ended, hroom, hended, htorn, hhost, hfirst⟩ :=
    first_cause_wins Scene.openOver?_fresh calledBack [.hostState .disconnected] open?_idle
      (Line.ofText?_print hostEnds) rfl fresh_twoCauses
  rw [hcurrent] at hhost hfirst
  exact ⟨hcause, hstays _ hcause, room, ended, hroom, hended, htorn, hhost, hfirst⟩

end Server

end ConferenceBridge
