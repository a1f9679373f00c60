import ConferenceBridge.Proofs.Replay.Accounting

namespace ConferenceBridge

/-! What a faulty line costs a replay. A line of text that cannot be read is counted, and all others
are taken as if it were not there. A line that is no text at all ends the replay. -/

namespace Text

def isUtf8 (bytes : List UInt8) : Bool :=
  (ofUtf8? bytes).isSome

end Text

namespace Line

def isFaulty (line : List UInt8) : Bool :=
  (Text.ofUtf8? line).all isRefused

end Line

namespace Server

variable {server next : Server} {lines faulty : Nat}

def recount (lines faulty : Nat) (journal : List Log.Record) (server : Server) : Server :=
  { server with
    statistics := { server.statistics with
      lines := lines + server.statistics.lines
      faulty := faulty + server.statistics.faulty }
    journal }

/-- Apart from the log, the second one only counted so many more lines, and so many of them as
faulty. -/
def Outnumbers (lines faulty : Nat) (server next : Server) : Prop :=
  ∃ journal, next = server.recount lines faulty journal

theorem takeTexts_append (first second : List String) (server : Server) :
    server.takeTexts (first ++ second) = (server.takeTexts first).takeTexts second :=
  List.foldl_append

/-! Neither these counts nor the log are read when a line is taken. -/

namespace Outnumbers

theorem map (h : server.Outnumbers lines faulty next) (act : Server → Server)
    (hact : ∀ journal, (act server).Outnumbers lines faulty
      (act (server.recount lines faulty journal))) :
    (act server).Outnumbers lines faulty (act next) := by
  obtain ⟨journal, rfl⟩ := h
  exact hact journal

theorem write (h : server.Outnumbers lines faulty next) (records others : List Log.Record) :
    (server.write records).Outnumbers lines faulty (next.write others) := by
  obtain ⟨journal, rfl⟩ := h
  exact ⟨_, rfl⟩

theorem observe (h : server.Outnumbers lines faulty next) (room : Room) (count : Nat) :
    (server.observe room count).Outnumbers lines faulty (next.observe room count) := by
  obtain ⟨journal, rfl⟩ := h
  have hsame : (server.recount lines faulty journal).registry = server.registry := rfl
  unfold Server.observe
  rw [hsame]
  cases server.registry.scene? room.id with
  | none => exact ⟨_, rfl⟩
  | some scene => exact ⟨_, rfl⟩

theorem openRoom (h : server.Outnumbers lines faulty next) (name : String) :
    (next.openRoom name).1 = (server.openRoom name).1 ∧
      (server.openRoom name).2.Outnumbers lines faulty (next.openRoom name).2 := by
  obtain ⟨records, hserver⟩ := openRoom_eq_observe name server
  obtain ⟨others, hnext⟩ := openRoom_eq_observe name next
  have hroom : (next.openRoom name).1 = (server.openRoom name).1 := by
    obtain ⟨journal, rfl⟩ := h
    rfl
  have hseated : (server.seat name).Outnumbers lines faulty (next.seat name) :=
    h.map (seat name) fun _ => ⟨_, rfl⟩
  rw [hserver, hnext, hroom]
  exact ⟨rfl, (hseated.observe _ 0).write records others⟩

theorem enterRoom (h : server.Outnumbers lines faulty next) (name : String) :
    (next.enterRoom name).1 = (server.enterRoom name).1 ∧
      (server.enterRoom name).2.Outnumbers lines faulty (next.enterRoom name).2 := by
  have hroom : next.room? name = server.room? name := by
    obtain ⟨journal, rfl⟩ := h
    rfl
  unfold Server.enterRoom
  rw [hroom]
  cases server.room? name with
  | none => exact h.openRoom name
  | some room => exact ⟨rfl, h⟩

theorem applyEvent (h : server.Outnumbers lines faulty next) (room : Room) (event : HostEvent) :
    (∃ error, server.applyEvent room event = .error error ∧
        next.applyEvent room event = .error error) ∨
      ∃ told other, server.applyEvent room event = .ok told ∧
        next.applyEvent room event = .ok other ∧ told.Outnumbers lines faulty other := by
  obtain ⟨journal, rfl⟩ := h
  have hsame : (server.recount lines faulty journal).registry = server.registry := rfl
  rw [applyEvent_eq_map, applyEvent_eq_map, hsame]
  cases (server.registry.update room.id (room.hear event).handOver).deliver room.id event with
  | error error => exact .inl ⟨error, rfl, rfl⟩
  | ok registry =>
      have htold : Outnumbers lines faulty { server.setRoom (room.hear event) with registry }
          { (server.recount lines faulty journal).setRoom (room.hear event) with registry } :=
        ⟨_, rfl⟩
      exact .inr ⟨_, _, rfl, rfl, htold.observe _ _⟩

theorem applyAction (h : server.Outnumbers lines faulty next) (room : Room)
    (action : LineAction) :
    (server.applyAction room action).Outnumbers lines faulty (next.applyAction room action) := by
  cases hscene : server.registry.scene? room.id with
  | none =>
      have hunknown : next.registry.scene? room.id = none := by
        obtain ⟨journal, rfl⟩ := h
        exact hscene
      simp only [Server.applyAction, hscene, hunknown]
      exact h
  | some scene =>
      have hknown : next.registry.scene? room.id = some scene := by
        obtain ⟨journal, rfl⟩ := h
        exact hscene
      have hcount : next.effectCount room = server.effectCount room := by
        rw [effectCount, effectCount, hscene, hknown]
      let acted (server : Server) : Server :=
        { server with registry := server.registry.update room.id fun _ =>
            ((room.handOver scene).act action.wanted).1 }
      have hacted : (acted server).Outnumbers lines faulty (acted next) :=
        h.map acted fun _ => ⟨_, rfl⟩
      rw [applyAction_eq hscene, applyAction_eq hknown, hcount]
      exact (hacted.observe _ _).write _ _

theorem apply (h : server.Outnumbers lines faulty next) (line : Line) :
    (server.apply line).Outnumbers lines faulty (next.apply line) := by
  obtain ⟨hroom, hentered⟩ := h.enterRoom line.conference
  unfold Server.apply
  dsimp only
  rw [hroom]
  cases line.content with
  | action action =>
      have hcounted := hentered.map countAction fun _ => ⟨_, rfl⟩
      exact hcounted.applyAction _ action
  | event event =>
      have hcounted := hentered.map countEvent fun _ => ⟨_, rfl⟩
      dsimp only
      rcases hcounted.applyEvent (server.enterRoom line.conference).1 event with
        ⟨error, hserver, hnext⟩ | ⟨told, other, hserver, hnext, htold⟩
      · rw [hserver, hnext]
        exact (hcounted.map countFaulty fun _ => ⟨_, rfl⟩).write _ _
      · rw [hserver, hnext]
        exact htold

theorem purge (h : server.Outnumbers lines faulty next) :
    server.purge.Outnumbers lines faulty next.purge :=
  h.map Server.purge fun _ => ⟨_, rfl⟩

theorem take (h : server.Outnumbers lines faulty next) (text : String) :
    (server.take text).Outnumbers lines faulty (next.take text) := by
  have hcounted : server.countLine.Outnumbers lines faulty next.countLine :=
    h.map countLine fun _ => ⟨_, rfl⟩
  unfold Server.take
  dsimp only
  cases Line.parse text with
  | error fault =>
      have hfaulty : server.countLine.countFaulty.Outnumbers lines faulty
          next.countLine.countFaulty := hcounted.map countFaulty fun _ => ⟨_, rfl⟩
      exact hfaulty.write _ _
  | ok line =>
      cases line with
      | none => exact hcounted
      | some line => exact (hcounted.apply line).purge

theorem takeTexts (h : server.Outnumbers lines faulty next) (texts : List String) :
    (server.takeTexts texts).Outnumbers lines faulty (next.takeTexts texts) := by
  induction texts generalizing server next with
  | nil => exact h
  | cons text texts ih => exact ih (h.take text)

end Outnumbers

theorem outnumbers_refused (records : List Log.Record) (server : Server) :
    server.Outnumbers 1 1 (server.countLine.countFaulty.write records) := by
  refine ⟨records.reverse ++ server.journal, ?_⟩
  rw [recount, Nat.add_comm 1, Nat.add_comm 1]
  rfl

theorem outnumbers_take_of_isRefused {text : String} (h : Line.isRefused text = true)
    (server : Server) : server.Outnumbers 1 1 (server.take text) := by
  rw [Line.isRefused, Bool.and_eq_true, Bool.not_eq_true', Option.isNone_iff_eq_none] at h
  obtain ⟨hwritten, hunread⟩ := h
  unfold take
  cases hparse : Line.parse text with
  | error fault =>
      exact outnumbers_refused _ server
  | ok line =>
      cases line with
      | none =>
          rw [Line.parse_eq_ok_none_iff.mp hparse] at hwritten
          cases hwritten
      | some line =>
          rw [Line.ofText?, hparse] at hunread
          cases hunread

theorem lines_enterRoom (name : String) (server : Server) :
    (server.enterRoom name).2.statistics.lines = server.statistics.lines := by
  unfold enterRoom
  split
  · rfl
  · rw [statistics_openRoom]

theorem statistics_applyEvent {room : Room} {event : HostEvent}
    (h : server.applyEvent room event = .ok next) : next.statistics = server.statistics := by
  rw [applyEvent_eq_map] at h
  cases hdeliver : (server.registry.update room.id (room.hear event).handOver).deliver room.id
      event with
  | error error =>
      rw [hdeliver] at h
      cases h
  | ok registry =>
      rw [hdeliver] at h
      cases h
      exact statistics_observe _ _ _

theorem statistics_applyAction (room : Room) (action : LineAction) (server : Server) :
    (server.applyAction room action).statistics = server.statistics := by
  cases hscene : server.registry.scene? room.id with
  | none => simp only [applyAction, hscene]
  | some scene =>
      rw [applyAction_eq hscene]
      exact statistics_observe _ _ _

theorem lines_apply (line : Line) (server : Server) :
    (server.apply line).statistics.lines = server.statistics.lines := by
  unfold apply
  dsimp only
  split
  · split
    · rename_i happlied
      rw [statistics_applyEvent happlied]
      exact lines_enterRoom _ _
    · exact lines_enterRoom _ _
  · rw [statistics_applyAction]
    exact lines_enterRoom _ _

theorem lines_take (text : String) (server : Server) :
    (server.take text).statistics.lines = server.statistics.lines + 1 := by
  unfold take
  dsimp only
  split
  · rfl
  · exact lines_apply _ _
  · rfl

theorem lines_takeTexts (texts : List String) (server : Server) :
    (server.takeTexts texts).statistics.lines = server.statistics.lines + texts.length := by
  induction texts generalizing server with
  | nil => rfl
  | cons text texts ih =>
      have hrest := ih (server.take text)
      rw [lines_take, Nat.add_right_comm] at hrest
      exact hrest

theorem takeAll_eq_takeTexts (lines : List (List UInt8)) (server : Server) :
    server.takeAll lines =
      (server.takeTexts ((lines.takeWhile Text.isUtf8).filterMap Text.ofUtf8?),
        lines.all Text.isUtf8) := by
  induction lines generalizing server with
  | nil => rfl
  | cons line lines ih =>
      cases htext : Text.ofUtf8? line with
      | none => simp [takeAll, htext, Text.isUtf8, takeTexts]
      | some text =>
          simp [takeAll, htext, ih, Text.isUtf8, takeTexts]

/-- To take every line to the end, so that one that is faulty changes nothing but the counts. -/
structure Tolerates (lines : List (List UInt8)) (server : Server) : Prop where
  completes : (server.takeAll lines).2 = true
  counted : (server.takeAll lines).1.statistics.lines = server.statistics.lines + lines.length
  costs : ∀ before line after, lines = before ++ line :: after → Line.isFaulty line = true →
    (server.takeAll (before ++ after)).1.Outnumbers 1 1 (server.takeAll lines).1

theorem takeAll_of_isUtf8 {lines : List (List UInt8)} (h : lines.all Text.isUtf8 = true)
    (server : Server) :
    server.takeAll lines = (server.takeTexts (lines.filterMap Text.ofUtf8?), true) := by
  rw [takeAll_eq_takeTexts, h, List.takeWhile_eq_self_iff.mpr (List.all_eq_true.mp h)]

theorem length_filterMap_ofUtf8? {lines : List (List UInt8)} (h : lines.all Text.isUtf8 = true) :
    (lines.filterMap Text.ofUtf8?).length = lines.length := by
  rw [List.all_eq_true] at h
  induction lines with
  | nil => rfl
  | cons line lines ih =>
      obtain ⟨text, htext⟩ := Option.isSome_iff_exists.mp (h line List.mem_cons_self)
      rw [List.filterMap_cons, htext, List.length_cons, List.length_cons,
        ih fun other hother => h other (.tail _ hother)]

theorem tolerates_of_isUtf8 {lines : List (List UInt8)} (h : lines.all Text.isUtf8 = true)
    (server : Server) : server.Tolerates lines where
  completes := by rw [takeAll_of_isUtf8 h]
  counted := by rw [takeAll_of_isUtf8 h, lines_takeTexts, length_filterMap_ofUtf8? h]
  costs := by
    rintro before line after rfl hfaulty
    rw [List.all_append, List.all_cons, Bool.and_eq_true, Bool.and_eq_true] at h
    obtain ⟨hbefore, hline, hafter⟩ := h
    obtain ⟨text, htext⟩ := Option.isSome_iff_exists.mp hline
    have hrefused : Line.isRefused text = true := by
      rwa [Line.isFaulty, htext] at hfaulty
    have hwithout : (before ++ after).all Text.isUtf8 = true := by
      rw [List.all_append, hbefore, hafter]
      rfl
    have hwith : (before ++ line :: after).all Text.isUtf8 = true := by
      rw [List.all_append, List.all_cons, hbefore, hline, hafter]
      rfl
    rw [takeAll_of_isUtf8 hwithout, takeAll_of_isUtf8 hwith, List.filterMap_append,
      List.filterMap_append, List.filterMap_cons, htext, takeTexts_append, takeTexts_append]
    exact (outnumbers_take_of_isRefused hrefused _).takeTexts _

/-- A replay takes the lines up to the first that is no text, and says whether that were all. Among
these, every faulty line costs only itself. So it is with the whole stream exactly if all of it is
text. -/
theorem replay_tolerates_iff (server : Server) (bytes : List UInt8) :
    let lines := Text.lines bytes
    let read := lines.takeWhile Text.isUtf8
    server.replay bytes = ((server.takeAll read).1, lines.all Text.isUtf8) ∧
      server.Tolerates read ∧
      (server.Tolerates lines ↔ lines.all Text.isUtf8 = true) := by
  intro lines read
  have hread : read.all Text.isUtf8 = true := List.all_takeWhile
  have htaken : server.takeAll lines = ((server.takeAll read).1, lines.all Text.isUtf8) := by
    rw [takeAll_of_isUtf8 hread, takeAll_eq_takeTexts]
  refine ⟨htaken, tolerates_of_isUtf8 hread server, ?_, fun hall => tolerates_of_isUtf8 hall server⟩
  intro htolerates
  have hcompletes := htolerates.completes
  rwa [htaken] at hcompletes

theorem replay_tolerates_iff_letter :
    idle.Tolerates [[0x78], [0x23]] ∧
      (idle.takeAll [[0x23]]).1.Outnumbers 1 1 (idle.replay [0x78, 0x0a, 0x23, 0x0a]).1 := by
  have hlines : Text.lines [0x78, 0x0a, 0x23, 0x0a] = [[0x78], [0x23]] := by decide
  have hfaulty : Line.isFaulty [0x78] = true := by cbv
  obtain ⟨-, -, htolerates⟩ := replay_tolerates_iff idle [0x78, 0x0a, 0x23, 0x0a]
  rw [hlines] at htolerates
  have hall := htolerates.mpr (by decide)
  rw [replay, hlines]
  exact ⟨hall, hall.costs [] [0x78] [[0x23]] rfl hfaulty⟩

/-- The line that is no text is lost, and so is the comment behind it; neither is counted. -/
theorem text_ends_replay :
    idle.replay [0xff, 0x0a, 0x23, 0x0a] = (idle, false) ∧
      ¬ idle.Tolerates (Text.lines [0xff, 0x0a, 0x23, 0x0a]) := by
  have hlines : Text.lines [0xff, 0x0a, 0x23, 0x0a] = [[0xff], [0x23]] := by decide
  have hended : idle.takeAll [[0xff], [0x23]] = (idle, false) := rfl
  rw [replay, hlines]
  refine ⟨hended, fun htolerates => ?_⟩
  have hcompletes := htolerates.completes
  rw [hended] at hcompletes
  cases hcompletes

end Server

end ConferenceBridge
