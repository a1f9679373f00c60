import ConferenceBridge.Proofs.Conference.Provenance
import ConferenceBridge.Proofs.Replay.Isolation
import ConferenceBridge.Proofs.Replay.Screening

namespace ConferenceBridge

/-! Where the endpoints in a replay come from: every one that a conference of the server met was
written in a line, and none of those is blank. -/

namespace Line

def endpoints (line : Line) : List Endpoint :=
  line.event?.elim [] HostEvent.endpoints

theorem text_mem_addresses {line : Line} {endpoint : Endpoint} (h : endpoint ∈ line.endpoints) :
    endpoint.text ∈ line.written.addresses := by
  obtain ⟨conference, event | action⟩ := line
  · cases event with
    | participantsChanged entries =>
        obtain ⟨entry, hentry, rfl⟩ := List.mem_map.mp h
        exact List.mem_flatMap.mpr
          ⟨entry.written, List.mem_map_of_mem hentry, List.mem_singleton_self _⟩
    | _ => cases h
  · cases h

end Line

namespace Scene

variable {scene : Scene} {listed : List Endpoint}

/-- A new conference that nobody calls back, and that was told of nobody else. -/
def Sourced (listed : List Endpoint) (scene : Scene) : Prop :=
  ∃ id config handle start requests, openOver? id config handle = .ok start ∧ handle.Idle ∧
    (∀ request ∈ requests, request.Quiet) ∧ requests.flatMap Request.endpoints ⊆ listed ∧
      scene = start.run requests

namespace Sourced

theorem listed_of_mem_met (h : scene.Sourced listed) {endpoint : Endpoint}
    (hmet : endpoint ∈ scene.met) : endpoint ∈ listed := by
  obtain ⟨id, config, handle, start, requests, hopen, hidle, hquiet, hlisted, rfl⟩ := h
  exact hlisted (Scene.listed_of_mem_met hopen hidle hquiet hmet)

theorem serve (h : scene.Sourced listed) {request : Request} (hquiet : request.Quiet)
    (hlisted : request.endpoints ⊆ listed) : (scene.serve request).Sourced listed := by
  obtain ⟨id, config, handle, start, requests, hopen, hidle, hearlier, hbefore, rfl⟩ := h
  refine ⟨id, config, handle, start, requests ++ [request], hopen, hidle, ?_, ?_, ?_⟩
  · intro other hother
    rw [List.mem_append, List.mem_singleton] at hother
    rcases hother with hbefore | rfl
    · exact hearlier other hbefore
    · exact hquiet
  · rw [List.flatMap_append, List.flatMap_singleton]
    exact List.append_subset.mpr ⟨hbefore, hlisted⟩
  · rw [run_append]
    rfl

end Sourced

theorem sourced_openOver {config : ConferenceConfig} (hvalid : config.validate = .ok ())
    (id : ConferenceId) {handle : Handle} (hidle : handle.Idle) :
    (openOver id config handle).Sourced listed :=
  ⟨id, config, handle, _, [], openOver?_of_valid hvalid id handle, hidle, nofun, nofun, rfl⟩

end Scene

theorem SimulatedHost.idle_handle (host : SimulatedHost) : host.handle.Idle :=
  fun _ => rfl

namespace Room

theorem sourced_handOver {scene : Scene} {listed : List Endpoint} (h : scene.Sourced listed)
    (room : Room) : (room.handOver scene).Sourced listed := by
  have hidle : (Request.handleChanged room.host.handle).Quiet := room.host.idle_handle
  exact h.serve hidle (List.nil_subset _)

end Room

namespace Registry

variable {registry next : Registry} {listed : List Endpoint}

def Sourced (listed : List Endpoint) (registry : Registry) : Prop :=
  ∀ scene ∈ registry.scenes, scene.Sourced listed

theorem Sourced.update (h : registry.Sourced listed) (id : ConferenceId) {change : Scene → Scene}
    (hchange : ∀ scene : Scene, scene.Sourced listed → (change scene).Sourced listed) :
    (registry.update id change).Sourced listed := by
  intro scene hscene
  obtain ⟨before, hbefore, rfl⟩ := List.mem_map.mp hscene
  split
  · exact hchange before (h before hbefore)
  · exact h before hbefore

theorem Sourced.promote (h : registry.Sourced listed) (id : ConferenceId) {handle : Handle}
    (hidle : handle.Idle) : (registry.promote id handle).1.Sourced listed := by
  intro scene hscene
  rcases List.mem_append.mp hscene with hbefore | hnew
  · exact h scene hbefore
  · rw [List.mem_singleton.mp hnew]
    exact Scene.sourced_openOver registry.valid id hidle

theorem Sourced.deliver (h : registry.Sourced listed) {id : ConferenceId} {event : HostEvent}
    (hlisted : event.endpoints ⊆ listed) (hdeliver : registry.deliver id event = .ok next) :
    next.Sourced listed := by
  unfold Registry.deliver at hdeliver
  split at hdeliver
  · cases hdeliver
  · split at hdeliver
    · cases hdeliver
    · cases hdeliver
      have hquiet : (Request.event event).Quiet := trivial
      exact h.update id fun scene hscene => hscene.serve hquiet hlisted

end Registry

namespace Server

variable {server next : Server} {listed : List Endpoint}

theorem registry_observe (room : Room) (count : Nat) (server : Server) :
    (server.observe room count).registry = server.registry := by
  unfold observe
  split <;> rfl

theorem sourced_enterRoom (h : server.registry.Sourced listed) (name : String) :
    (server.enterRoom name).2.registry.Sourced listed := by
  unfold enterRoom
  split
  · exact h
  · obtain ⟨records, hopened⟩ := openRoom_eq_observe name server
    rw [hopened]
    simp only [write, registry_observe]
    exact h.promote _ (SimulatedHost.idle_handle _)

theorem sourced_applyEvent (h : server.registry.Sourced listed) {room : Room} {event : HostEvent}
    (hlisted : event.endpoints ⊆ listed) (happlied : server.applyEvent room event = .ok next) :
    next.registry.Sourced listed := by
  rw [applyEvent_eq_map] at happlied
  cases hdeliver : (server.registry.update room.id (room.hear event).handOver).deliver room.id
      event with
  | error error =>
      rw [hdeliver] at happlied
      cases happlied
  | ok registry =>
      rw [hdeliver] at happlied
      cases happlied
      rw [registry_observe]
      have hhanded := h.update room.id fun scene hscene =>
        Room.sourced_handOver hscene (room.hear event)
      exact hhanded.deliver hlisted hdeliver

theorem sourced_applyAction (h : server.registry.Sourced listed) (room : Room)
    (action : LineAction) : (server.applyAction room action).registry.Sourced listed := by
  cases hscene : server.registry.scene? room.id with
  | none =>
      simp only [applyAction, hscene]
      exact h
  | some scene =>
      have hsourced := Room.sourced_handOver (h scene (List.mem_of_find?_eq_some hscene)) room
      have hquiet : (Request.action action.wanted).Quiet := trivial
      rw [applyAction_eq hscene]
      simp only [write, registry_observe]
      exact h.update room.id fun _ _ => hsourced.serve hquiet (List.nil_subset _)

theorem sourced_apply (h : server.registry.Sourced listed) {line : Line}
    (hlisted : line.endpoints ⊆ listed) : (server.apply line).registry.Sourced listed := by
  have hentered := sourced_enterRoom h line.conference
  unfold apply
  dsimp only
  cases hcontent : line.content with
  | event event =>
      have hevent : event.endpoints ⊆ listed := by
        rwa [Line.endpoints, Line.event?, hcontent] at hlisted
      have hcounted : (server.enterRoom line.conference).2.countEvent.registry.Sourced listed :=
        hentered
      dsimp only
      split
      · rename_i happlied
        exact sourced_applyEvent hcounted hevent happlied
      · exact hcounted
  | action action =>
      have hcounted : (server.enterRoom line.conference).2.countAction.registry.Sourced listed :=
        hentered
      exact sourced_applyAction hcounted _ action

theorem sourced_take (h : server.registry.Sourced listed) {text : String}
    (hlisted : ∀ line, Line.parse text = .ok (some line) → line.endpoints ⊆ listed) :
    (server.take text).registry.Sourced listed := by
  unfold take
  dsimp only
  split
  · exact h
  · rename_i line hline
    have hcounted : server.countLine.registry.Sourced listed := h
    exact sourced_apply hcounted (hlisted line hline)
  · exact h

theorem sourced_takeTexts (h : server.registry.Sourced listed) {texts : List String}
    (hlisted : ∀ text ∈ texts, ∀ line, Line.parse text = .ok (some line) →
      line.endpoints ⊆ listed) :
    (server.takeTexts texts).registry.Sourced listed := by
  induction texts generalizing server with
  | nil => exact h
  | cons text texts ih =>
      exact ih (sourced_take h (hlisted text List.mem_cons_self))
        fun other hother => hlisted other (.tail _ hother)

/-- Whoever a conference of the server met was written in one of the lines. -/
theorem exists_line_of_mem_met (h : server.registry.scenes = []) {texts : List String}
    {scene : Scene} (hscene : scene ∈ (server.takeTexts texts).registry.scenes)
    {endpoint : Endpoint} (hmet : endpoint ∈ scene.met) :
    ∃ text ∈ texts, ∃ line, Line.parse text = .ok (some line) ∧
      endpoint.text ∈ line.written.addresses := by
  let listed := (texts.filterMap Line.ofText?).flatMap Line.endpoints
  have hstart : server.registry.Sourced listed := by
    intro scene hscene
    rw [h] at hscene
    cases hscene
  have hlisted : ∀ text ∈ texts, ∀ line, Line.parse text = .ok (some line) →
      line.endpoints ⊆ listed := by
    intro text htext line hline endpoint hendpoint
    have hfound : line ∈ texts.filterMap Line.ofText? :=
      List.mem_filterMap.mpr ⟨text, htext, by rw [Line.ofText?, hline]⟩
    exact List.mem_flatMap.mpr ⟨line, hfound, hendpoint⟩
  have hsourced := sourced_takeTexts hstart hlisted scene hscene
  obtain ⟨line, hline, hendpoint⟩ := List.mem_flatMap.mp (hsourced.listed_of_mem_met hmet)
  obtain ⟨text, htext, hfound⟩ := List.mem_filterMap.mp hline
  refine ⟨text, htext, line, ?_, Line.text_mem_addresses hendpoint⟩
  unfold Line.ofText? at hfound
  split at hfound
  · rename_i hparse
    rw [hparse, hfound]
  · cases hfound

theorem take_of_refused {text : String} {fault : Json.Fault} (h : Line.parse text = .error fault)
    (server : Server) :
    server.take text = server.countLine.countFaulty.write
      [(ReplayNotice.lineRefused (server.statistics.lines + 1) fault).record] := by
  unfold take
  rw [h]
  rfl

variable {config : ConferenceConfig} {firstPhone : PhoneId} {ids : Nat → ConferenceId}
  {start : Server}

theorem scenes_of_open? (h : open? config firstPhone ids = .ok start) :
    start.registry.scenes = [] := by
  unfold open? Registry.open? at h
  split at h
  · cases h
  · cases h
    rfl

/-- No text with a blank address in it is taken for a line of a replay, an event of a host, an entry
of a list or an event of a conference; one without is taken with every address as written. A line
with a blank address is counted as faulty, and nothing else is done with it. So whoever a conference
of a replay meets, on its roster or in the call list, has an address that is not blank and is
written so in a line. -/
theorem no_blank_address_enters (hopen : open? config firstPhone ids = .ok start) :
    Guards (Option.map Line.written) (fun line => line.elim [] WrittenLine.addresses)
      Line.parse WrittenLine.parse ∧
    Guards HostEvent.written WrittenEvent.addresses
      (Json.decodeWhole (HostEvent.ofJson .direct))
      (Json.decodeWhole (WrittenEvent.ofJson .direct)) ∧
    Guards Snapshot.written WrittenSnapshot.addresses
      (Json.decodeText (Snapshot.ofJson .direct))
      (Json.decodeText (WrittenSnapshot.ofJson .direct)) ∧
    Guards ConferenceEvent.written WrittenTelling.addresses
      (Json.decodeText ConferenceEvent.ofJson) (Json.decodeText WrittenTelling.ofJson) ∧
    ∀ texts : List String,
      let server := start.takeTexts texts
      (∀ text line, WrittenLine.parse text = .ok (some line) →
        (∃ address ∈ line.addresses, ∀ c ∈ address.toList, Text.isBlank c = true) →
          ∃ address ∈ line.addresses, (∀ c ∈ address.toList, Text.isBlank c = true) ∧
            server.take text = server.countLine.countFaulty.write
              [(ReplayNotice.lineRefused (server.statistics.lines + 1)
                (.blankEndpoint address)).record]) ∧
      ∀ scene ∈ server.registry.scenes, ∀ endpoint ∈ scene.met,
        (∃ c ∈ endpoint.text.toList, Text.isBlank c = false) ∧
          ∃ text ∈ texts, ∃ line, Line.parse text = .ok (some line) ∧
            endpoint.text ∈ line.written.addresses := by
  refine ⟨Line.guards_parse, HostEvent.guards_decode, Snapshot.guards_decode,
    ConferenceEvent.guards_decode, fun texts => ⟨?_, ?_⟩⟩
  · intro text line hline hblank
    obtain ⟨address, hmem, hall, hrefused⟩ :=
      Line.guards_parse.refused text (some line) hline hblank
    exact ⟨address, hmem, hall, take_of_refused hrefused _⟩
  · intro scene hscene endpoint hmet
    obtain ⟨text, htext, line, hline, hwritten⟩ :=
      exists_line_of_mem_met (scenes_of_open? hopen) hscene hmet
    have hvisible := (Line.guards_parse.kept text (some line) hline).2 endpoint.text hwritten
    exact ⟨hvisible, text, htext, line, hline, hwritten⟩

def halfBlank : String :=
  "\x7b\"konferenz\":\"k1\",\"ereignis\":" ++
    "\x7b\"typ\":\"teilnehmer_geaendert\",\"teilnehmer\":[" ++
      "\x7b\"endpoint\":\" a\",\"zustand\":\"aktiv\"\x7d," ++
        "\x7b\"endpoint\":\" \",\"zustand\":\"aktiv\"\x7d]\x7d\x7d"

theorem no_blank_address_enters_halfBlank :
    WrittenLine.parse halfBlank =
        .ok (some ⟨"k1", .event (.listing
          [⟨" a", .active, none, none⟩, ⟨" ", .active, none, none⟩])⟩) ∧
      idle.take halfBlank =
        idle.countLine.countFaulty.write
          [(ReplayNotice.lineRefused 1 (.blankEndpoint " ")).record] := by
  have hwritten : WrittenLine.parse halfBlank =
      .ok (some ⟨"k1", .event (.listing
        [⟨" a", .active, none, none⟩, ⟨" ", .active, none, none⟩])⟩) := by cbv
  have hblank : Text.allBlank " " = true := by cbv
  have hvisible : Text.allBlank " a" = false := by cbv
  refine ⟨hwritten, ?_⟩
  obtain ⟨-, -, -, -, hreplay⟩ := no_blank_address_enters open?_idle
  obtain ⟨address, hmem, hall, htaken⟩ := (hreplay []).1 halfBlank _ hwritten
    ⟨" ", .tail _ (.head _), Text.allBlank_eq_true_iff.mp hblank⟩
  have hlisted : address ∈ [" a", " "] := hmem
  obtain rfl | rfl := List.mem_pair.mp hlisted
  · rw [Text.allBlank_eq_true_iff.mpr hall] at hvisible
    cases hvisible
  · exact htaken

end Server

end ConferenceBridge
