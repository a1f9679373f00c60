import ConferenceBridge.Conference.Scene

namespace ConferenceBridge

/-! What a list of participants says about an endpoint, and what a conference should make of it. -/

namespace ConnectionState

def hear (state next : ConnectionState) : ConnectionState :=
  if state.isFinal then state else next

def after (state : ConnectionState) (reports : List ConnectionState) : ConnectionState :=
  reports.foldl hear state

theorem after_concat (state next : ConnectionState) (reports : List ConnectionState) :
    state.after (reports ++ [next]) = (state.after reports).hear next := by
  simp [after]

theorem after_disconnected (reports : List ConnectionState) :
    disconnected.after reports = disconnected := by
  induction reports with
  | nil => rfl
  | cons next reports ih => exact ih

theorem after_ne_disconnected {state : ConnectionState} (hstate : state ≠ disconnected)
    {reports : List ConnectionState} (hreports : disconnected ∉ reports) :
    state.after reports ≠ disconnected := by
  induction reports generalizing state with
  | nil => exact hstate
  | cons next reports ih =>
      rw [List.mem_cons, not_or] at hreports
      apply ih _ hreports.2
      unfold hear
      split
      · exact hstate
      · exact Ne.symm hreports.1

theorem after_eq_last {state last : ConnectionState} (hstate : state ≠ disconnected)
    {earlier : List ConnectionState} (hearlier : disconnected ∉ earlier) :
    state.after (earlier ++ [last]) = last := by
  have hopen : (state.after earlier).isFinal = false := by
    simpa [isFinal] using after_ne_disconnected hstate hearlier
  rw [after_concat, hear, hopen]
  rfl

theorem hear_self (state : ConnectionState) : state.hear state = state := by
  unfold hear
  split <;> rfl

theorem hear_hear (state next : ConnectionState) :
    (state.hear next).hear next = state.hear next := by
  by_cases hfinal : state.isFinal = true
  · simp [hear, hfinal]
  · simp [hear, hfinal]

theorem hear_after_last {reports : List ConnectionState} {last : ConnectionState}
    (hlast : reports.getLast? = some last) (state : ConnectionState) :
    (state.after reports).hear last = state.after reports := by
  obtain ⟨earlier, rfl⟩ := List.getLast?_eq_some_iff.mp hlast
  rw [after_concat, hear_hear]

theorem after_of_heard {state : ConnectionState} {reports : List ConnectionState}
    (h : ∀ next ∈ reports, state.hear next = state) : state.after reports = state := by
  induction reports with
  | nil => rfl
  | cons next reports ih =>
      rw [List.forall_mem_cons] at h
      rw [after, List.foldl_cons, h.1]
      exact ih h.2

/-- The final state counts wherever it is reported, and otherwise the last report. -/
theorem after_eq (state : ConnectionState) (reports : List ConnectionState) :
    state.after reports =
      if disconnected ∈ state :: reports then disconnected else reports.getLast?.getD state := by
  induction reports generalizing state with
  | nil =>
      by_cases hstate : disconnected = state
      · simp [← hstate, after]
      · simp [hstate, after]
  | cons next reports ih =>
      by_cases hstate : disconnected = state
      · rw [← hstate, after_disconnected, if_pos List.mem_cons_self]
      · have hopen : state.isFinal = false := by simpa [isFinal] using Ne.symm hstate
        have hstep : state.after (next :: reports) = next.after reports := by
          simp [after, hear, hopen]
        have hmem : disconnected ∈ state :: next :: reports ↔ disconnected ∈ next :: reports := by
          rw [List.mem_cons, or_iff_right hstate]
        simp only [hstep, ih, hmem, List.getLast?_cons, Option.getD_some]

end ConnectionState

namespace Participant

def heard (participant : Participant) (reports : List ConnectionState) : Participant :=
  { participant with state := participant.state.after reports }

theorem update_heard {participant : Participant} (h : participant.destroyed = false)
    (reports : List ConnectionState) (next : ConnectionState) :
    ((participant.heard reports).update next).participant =
      participant.heard (reports ++ [next]) := by
  unfold update heard
  rw [ConnectionState.after_concat, ConnectionState.hear]
  split
  · rename_i hunchanged
    have hsame : participant.state.after reports = next := by simpa [h] using hunchanged
    simp [unchanged, hsame]
  · split <;> rfl

theorem accepted_update_heard {participant : Participant} (h : participant.destroyed = false)
    (reports : List ConnectionState) (next : ConnectionState) :
    ((participant.heard reports).update next).accepted =
      (!(participant.state.after reports).isFinal && participant.state.after reports != next) := by
  unfold update heard
  split
  · rename_i hunchanged
    have hsame : participant.state.after reports = next := by simpa [h] using hunchanged
    simp [unchanged, hsame]
  · rename_i hchanges
    have hother : participant.state.after reports ≠ next := fun heq => hchanges (.inr heq)
    split
    · simp [unchanged, *]
    · simp [*]

theorem update_ofSnapshot {initial : ConnectionState} (h : initial ≠ .disconnected)
    (snapshot : Snapshot) (next : ConnectionState) :
    ((ofSnapshot snapshot initial).update next).participant =
      { ofSnapshot snapshot initial with state := next } := by
  have hopen : initial.isFinal = false := by simpa [ConnectionState.isFinal] using h
  have hheard := @update_heard (ofSnapshot snapshot initial) rfl [] next
  rw [List.nil_append] at hheard
  refine Eq.trans hheard ?_
  simp [heard, ConnectionState.after, ConnectionState.hear, ofSnapshot, hopen]

end Participant

namespace Snapshot

def reports (endpoint : Endpoint) (entries : List Snapshot) : List ConnectionState :=
  (entries.filter fun entry => entry.endpoint = endpoint).map (·.state)

theorem reports_concat_self (entry : Snapshot) (entries : List Snapshot) :
    reports entry.endpoint (entries ++ [entry]) =
      reports entry.endpoint entries ++ [entry.state] := by
  simp [reports]

theorem reports_concat_of_ne {endpoint : Endpoint} {entry : Snapshot}
    (h : entry.endpoint ≠ endpoint) (entries : List Snapshot) :
    reports endpoint (entries ++ [entry]) = reports endpoint entries := by
  simp [reports, h]

end Snapshot

namespace Conference

/-- The listed endpoints where nobody took part before, each once and in the order of the list. -/
def newEndpoints (conference : Conference) (entries : List Snapshot) : List Endpoint :=
  ((entries.map (·.endpoint)).filter fun endpoint =>
    endpoint ∉ conference.roster.endpoints).eraseDups

def vanished (conference : Conference) (entries : List Snapshot) : List (Endpoint × Nat) :=
  conference.roster.entries.filter fun entry => entry.1 ∉ entries.map (·.endpoint)

def stateAt? (conference : Conference) (endpoint : Endpoint) : Option ConnectionState :=
  (conference.roster.get? endpoint).bind fun number =>
    conference.participants[number]?.map (·.state)

def changedBy (conference : Conference) (earlier : List Snapshot) (entry : Snapshot) : Bool :=
  (conference.stateAt? entry.endpoint).any fun state =>
    let state := state.after (Snapshot.reports entry.endpoint earlier)
    !state.isFinal && state != entry.state

def updates (conference : Conference) (entries : List Snapshot) : Nat :=
  (List.range entries.length).countP fun place =>
    entries[place]?.any (conference.changedBy (entries.take place))

theorem stateAt?_eq_none {conference : Conference} {endpoint : Endpoint}
    (h : endpoint ∉ conference.roster.endpoints) : conference.stateAt? endpoint = none := by
  rw [stateAt?, Roster.get?_eq_none_iff.mpr h, Option.bind_none]

theorem stateAt?_eq_some {conference : Conference} {endpoint : Endpoint} {number : Nat}
    {participant : Participant} (hmem : (endpoint, number) ∈ conference.roster.entries)
    (hparticipant : conference.participants[number]? = some participant) :
    conference.stateAt? endpoint = some participant.state := by
  rw [stateAt?, Roster.get?_eq_some_iff.mpr hmem, Option.bind_some, hparticipant, Option.map_some]

theorem mem_newEndpoints {conference : Conference} {entries : List Snapshot}
    {endpoint : Endpoint} :
    endpoint ∈ conference.newEndpoints entries ↔
      endpoint ∈ entries.map (·.endpoint) ∧ endpoint ∉ conference.roster.endpoints := by
  simp [newEndpoints]

theorem nodup_newEndpoints {conference : Conference} (entries : List Snapshot) :
    (conference.newEndpoints entries).Nodup :=
  Endpoint.nodup_eraseDups _

theorem newEndpoints_concat_of_known {conference : Conference} {entries : List Snapshot}
    {entry : Snapshot} (h : entry.endpoint ∈ conference.roster.endpoints) :
    conference.newEndpoints (entries ++ [entry]) = conference.newEndpoints entries := by
  simp [newEndpoints, List.filter_append, h]

theorem newEndpoints_concat_of_mem {conference : Conference} {entries : List Snapshot}
    {entry : Snapshot} (h : entry.endpoint ∈ conference.newEndpoints entries) :
    conference.newEndpoints (entries ++ [entry]) = conference.newEndpoints entries := by
  obtain ⟨hmem, habsent⟩ := mem_newEndpoints.mp h
  obtain ⟨earlier, hearlier, heq⟩ := List.mem_map.mp hmem
  have hagain : ∃ before ∈ entries, before.endpoint = entry.endpoint := ⟨earlier, hearlier, heq⟩
  simp [newEndpoints, List.filter_append, List.eraseDups_append, List.removeAll, habsent, hagain]

theorem newEndpoints_concat_of_new {conference : Conference} {entries : List Snapshot}
    {entry : Snapshot} (hlisted : entry.endpoint ∉ conference.roster.endpoints)
    (hnew : entry.endpoint ∉ conference.newEndpoints entries) :
    conference.newEndpoints (entries ++ [entry]) =
      conference.newEndpoints entries ++ [entry.endpoint] := by
  have hfirst : ¬ ∃ before ∈ entries, before.endpoint = entry.endpoint := by
    rintro ⟨before, hbefore, heq⟩
    exact hnew (mem_newEndpoints.mpr ⟨List.mem_map.mpr ⟨before, hbefore, heq⟩, hlisted⟩)
  simp [newEndpoints, List.filter_append, List.eraseDups_append, List.removeAll,
    List.eraseDups_cons, hlisted, hfirst]

theorem updates_concat (conference : Conference) (entries : List Snapshot) (entry : Snapshot) :
    conference.updates (entries ++ [entry]) =
      conference.updates entries + (conference.changedBy entries entry).toNat := by
  have hbefore : ∀ place ∈ List.range entries.length,
      ((entries ++ [entry])[place]?.any
        (conference.changedBy ((entries ++ [entry]).take place)) = true ↔
      entries[place]?.any (conference.changedBy (entries.take place)) = true) := by
    intro place hplace
    have hlt := List.mem_range.mp hplace
    rw [List.getElem?_append_left hlt, List.take_append_of_le_length (Nat.le_of_lt hlt)]
  unfold updates
  rw [List.length_append, List.length_singleton, List.range_succ, List.countP_append,
    List.countP_congr hbefore]
  cases hchanges : conference.changedBy entries entry <;> simp [hchanges]

theorem updates_concat_of_absent {conference : Conference} {entry : Snapshot}
    (h : entry.endpoint ∉ conference.roster.endpoints) (entries : List Snapshot) :
    conference.updates (entries ++ [entry]) = conference.updates entries := by
  have hnobody : conference.changedBy entries entry = false := by
    rw [changedBy, stateAt?_eq_none h]
    rfl
  rw [updates_concat, hnobody]
  rfl

end Conference

end ConferenceBridge
