import ConferenceBridge.Proofs.Conference.Transcript

namespace ConferenceBridge

/-! The same list once more. Whoever takes part follows a list report by report, and from the final
state no report leads back; whoever is new only hears the last one. So a list that takes an end back
does not say the same to both, nor the same again to those whom it brought. Otherwise nothing comes
of a second time. -/

namespace ConnectionState

def TakesBack (reports : List ConnectionState) : Prop :=
  disconnected ∈ reports ∧ reports.getLast? ≠ some disconnected

instance : DecidablePred TakesBack :=
  fun reports => inferInstanceAs (Decidable (disconnected ∈ reports ∧ reports.getLast? ≠ _))

variable {state last : ConnectionState} {reports : List ConnectionState}

theorem after_eq_last_iff (hlast : reports.getLast? = some last)
    (hstate : state = disconnected → last = disconnected) :
    state.after reports = last ↔ ¬ TakesBack reports := by
  have htakes : TakesBack reports ↔ disconnected ∈ reports ∧ last ≠ disconnected := by
    rw [TakesBack, hlast, ne_eq, Option.some.injEq]
  rw [htakes, not_and_not_right]
  by_cases hend : disconnected ∈ state :: reports
  · rw [after_eq, if_pos hend]
    rcases List.mem_cons.mp hend with hfinal | hreported
    · exact iff_of_true (hstate hfinal.symm).symm fun _ => hstate hfinal.symm
    · exact ⟨fun heq _ => heq.symm, fun h => (h hreported).symm⟩
  · rw [after_eq, if_neg hend, hlast, Option.getD_some]
    exact iff_of_true rfl fun hreported => absurd (List.mem_cons_of_mem _ hreported) hend

theorem after_after (state : ConnectionState) (reports : List ConnectionState) :
    (state.after reports).after reports = state.after reports := by
  by_cases hend : disconnected ∈ state :: reports
  · rw [after_eq state, if_pos hend, after_disconnected]
  · cases hlast : reports.getLast? with
    | none =>
        rw [List.getLast?_eq_none_iff.mp hlast]
        rfl
    | some last =>
        have hsame : state.after reports = last := by
          rw [after_eq, if_neg hend, hlast, Option.getD_some]
        rw [hsame, after_eq_last_iff hlast id]
        exact fun htakes => hend (List.mem_cons_of_mem _ htakes.1)

end ConnectionState

open ConnectionState (TakesBack)

theorem Conference.Coherent.exists_stateAt? {conference : Conference} (h : conference.Coherent)
    {endpoint : Endpoint} (hknown : endpoint ∈ conference.roster.endpoints) :
    ∃ state, conference.stateAt? endpoint = some state := by
  obtain ⟨_, participant, -, -, hmember⟩ := h.exists_member hknown
  exact ⟨participant.state, by rw [stateAt?_eq_map, hmember, Option.map_some]⟩

namespace Scene

namespace Receptive

variable {scene : Scene} {entries : List Snapshot} {endpoint : Endpoint} {last : ConnectionState}
  (h : scene.Receptive) (hlast : (Snapshot.reports endpoint entries).getLast? = some last)

include h hlast

theorem stateAt?_of_absent (habsent : endpoint ∉ scene.conference.roster.endpoints) :
    (scene.reconcile entries).1.conference.stateAt? endpoint = some last := by
  rw [h.stateAt?_reconcile hlast, Conference.stateAt?_eq_none habsent]
  rfl

/-- The last entry for someone who took part before counts, unless an end was taken back. -/
theorem stateAt?_of_known (hknown : endpoint ∈ scene.conference.roster.endpoints)
    (hgoes : scene.conference.stateAt? endpoint ≠ some .disconnected) :
    (scene.reconcile entries).1.conference.stateAt? endpoint = some last ↔
      ¬ TakesBack (Snapshot.reports endpoint entries) := by
  obtain ⟨state, hstate⟩ := h.coherent.exists_stateAt? hknown
  rw [h.stateAt?_reconcile hlast, hstate, Option.elim_some, Option.some.injEq]
  apply ConnectionState.after_eq_last_iff hlast
  rintro rfl
  exact absurd hstate hgoes

theorem stateAt?_again_of_known (hknown : endpoint ∈ scene.conference.roster.endpoints) :
    ((scene.reconcile entries).1.reconcile entries).1.conference.stateAt? endpoint =
      (scene.reconcile entries).1.conference.stateAt? endpoint := by
  obtain ⟨state, hstate⟩ := h.coherent.exists_stateAt? hknown
  rw [(h.reconcile entries).stateAt?_reconcile hlast, h.stateAt?_reconcile hlast, hstate,
    Option.elim_some, Option.elim_some, ConnectionState.after_after]

theorem stateAt?_again_of_absent (habsent : endpoint ∉ scene.conference.roster.endpoints) :
    ((scene.reconcile entries).1.reconcile entries).1.conference.stateAt? endpoint =
        (scene.reconcile entries).1.conference.stateAt? endpoint ↔
      ¬ TakesBack (Snapshot.reports endpoint entries) := by
  rw [(h.reconcile entries).stateAt?_reconcile hlast, h.stateAt?_of_absent hlast habsent,
    Option.elim_some, Option.some.injEq]
  exact ConnectionState.after_eq_last_iff hlast id

end Receptive

variable {id : ConferenceId} {config : ConferenceConfig} {handle : Handle} {start : Scene}

/-- Whatever happened before, a listed participant that had not gone is in the state listed last,
unless it took part before and the list takes an end back. So whether someone took part before makes
no difference exactly if the list does not do that; and neither does the same list once more. -/
theorem last_entry_wins_iff (hopen : openOver? id config handle = .ok start)
    (requests : List Request) (entries : List Snapshot) {endpoint : Endpoint}
    {last : ConnectionState} (hlast : (Snapshot.reports endpoint entries).getLast? = some last) :
    let scene := start.run requests
    let before := scene.conference
    let after := (scene.reconcile entries).1
    let again := (after.reconcile entries).1
    Silent scene.register → before.stateAt? endpoint ≠ some .disconnected →
      (before.tornDown = true → after.conference = before) ∧
      (before.tornDown = false →
        (after.conference.stateAt? endpoint = some last ↔
          (endpoint ∈ before.roster.endpoints → ¬ TakesBack (Snapshot.reports endpoint entries))) ∧
        (again.conference.stateAt? endpoint = after.conference.stateAt? endpoint ↔
          (endpoint ∉ before.roster.endpoints → ¬ TakesBack (Snapshot.reports endpoint entries))) ∧
        ∀ others : List Request, (start.run others).conference.tornDown = false →
          Silent (start.run others).register →
          endpoint ∉ (start.run others).conference.roster.endpoints →
          endpoint ∈ before.roster.endpoints →
            (((start.run others).reconcile entries).1.conference.stateAt? endpoint =
                after.conference.stateAt? endpoint ↔
              ¬ TakesBack (Snapshot.reports endpoint entries))) := by
  intro scene before after again hsilent hgoes
  refine ⟨fun htorn => ?_, fun hstill => ?_⟩
  · change (scene.reconcile entries).1.conference = _
    rw [reconcile_of_tornDown htorn]
    rfl
  have hreceptive : scene.Receptive := receptive_run hopen requests hstill hsilent
  refine ⟨?_, ?_, ?_⟩
  · by_cases hknown : endpoint ∈ before.roster.endpoints
    · rw [imp_iff_right hknown]
      exact hreceptive.stateAt?_of_known hlast hknown hgoes
    · exact iff_of_true (hreceptive.stateAt?_of_absent hlast hknown) fun habsurd =>
        absurd habsurd hknown
  · by_cases hknown : endpoint ∈ before.roster.endpoints
    · exact iff_of_true (hreceptive.stateAt?_again_of_known hlast hknown) fun habsurd =>
        absurd hknown habsurd
    · rw [imp_iff_right hknown]
      exact hreceptive.stateAt?_again_of_absent hlast hknown
  · intro others hotherOpen hotherSilent habsent hknown
    have hother := receptive_run hopen others hotherOpen hotherSilent
    rw [hother.stateAt?_of_absent hlast habsent, eq_comm]
    exact hreceptive.stateAt?_of_known hlast hknown hgoes

def takingBack : List Snapshot :=
  secondList.map (fun entry => { entry with state := .disconnected }) ++
    secondList.map fun entry => { entry with state := .active }

theorem last_entry_wins_iff_takingBack :
    Silent (fresh.run [.reconcile firstList]).register ∧
      (((fresh.run [.reconcile firstList]).reconcile takingBack).1.conference.stateAt?
        ⟨"comes", by decide⟩ = some .active) ∧
      (((fresh.run [.reconcile firstList]).reconcile takingBack).1.conference.stateAt?
        ⟨"stays", by decide⟩ ≠ some .active) := by
  obtain ⟨-, hcomes⟩ := last_entry_wins_iff openOver?_fresh [.reconcile firstList] takingBack
    (rfl : (Snapshot.reports ⟨"comes", by decide⟩ takingBack).getLast? = some .active)
      silent_firstList (by decide)
  obtain ⟨-, hstays⟩ := last_entry_wins_iff openOver?_fresh [.reconcile firstList] takingBack
    (rfl : (Snapshot.reports ⟨"stays", by decide⟩ takingBack).getLast? = some .active)
      silent_firstList (by decide)
  refine ⟨silent_firstList, (hcomes rfl).1.mpr (fun habsurd => absurd habsurd (by decide)), ?_⟩
  exact fun hwins => (hstays rfl).1.mp hwins (by decide) (by decide)

/-- Whoever took part before stays disconnected, whoever is new becomes active, and the same list
once more disconnects that one too. -/
theorem end_not_taken_back :
    let before := fresh.run [.reconcile firstList]
    let after := (before.reconcile takingBack).1
    let again := (after.reconcile takingBack).1
    before.conference.stateAt? ⟨"stays", by decide⟩ = some .active ∧
      (Snapshot.reports ⟨"stays", by decide⟩ takingBack).getLast? = some .active ∧
      after.conference.stateAt? ⟨"stays", by decide⟩ = some .disconnected ∧
      after.conference.stateAt? ⟨"comes", by decide⟩ = some .active ∧
      again.conference.stateAt? ⟨"comes", by decide⟩ = some .disconnected := by
  decide

end Scene

/-! A list that names exactly those who take part. -/

namespace Conference

/-- All who are listed take part, and hear nothing new. -/
def Agrees (conference : Conference) (entries : List Snapshot) : Prop :=
  ∀ entry ∈ entries, ∃ state, conference.stateAt? entry.endpoint = some state ∧
    state.hear entry.state = state

namespace Agrees

variable {conference : Conference} {entries : List Snapshot}

theorem after_eq (h : conference.Agrees entries) {earlier : List Snapshot}
    (hearlier : ∀ entry ∈ earlier, entry ∈ entries) {endpoint : Endpoint} {state : ConnectionState}
    (hstate : conference.stateAt? endpoint = some state) :
    state.after (Snapshot.reports endpoint earlier) = state := by
  apply ConnectionState.after_of_heard
  intro next hnext
  obtain ⟨entry, hentry, rfl⟩ := List.mem_map.mp hnext
  obtain ⟨hmem, heq⟩ := List.mem_filter.mp hentry
  obtain ⟨same, hsame, hhears⟩ := h entry (hearlier entry hmem)
  rw [of_decide_eq_true heq, hstate] at hsame
  cases hsame
  exact hhears

theorem walkTranscript_eq (h : conference.Agrees entries) {earlier rest : List Snapshot}
    (hearlier : ∀ entry ∈ earlier, entry ∈ entries) (hrest : ∀ entry ∈ rest, entry ∈ entries) :
    conference.walkTranscript earlier rest = [] := by
  induction rest generalizing earlier with
  | nil => rfl
  | cons entry rest ih =>
      rw [List.forall_mem_cons] at hrest
      obtain ⟨state, hstate, hhears⟩ := h entry hrest.1
      have hnext : ∀ other ∈ earlier ++ [entry], other ∈ entries := by
        intro other hother
        rcases List.mem_append.mp hother with hmem | hmem
        · exact hearlier other hmem
        · exact List.mem_singleton.mp hmem ▸ hrest.1
      rw [walkTranscript, ih hnext hrest.2, entryTranscript_of_known hstate,
        h.after_eq hearlier hstate, hhears, Effect.ofStates, if_pos rfl, List.append_nil]

theorem changedBy_eq_false (h : conference.Agrees entries) {earlier : List Snapshot}
    (hearlier : ∀ entry ∈ earlier, entry ∈ entries) {entry : Snapshot} (hentry : entry ∈ entries) :
    conference.changedBy earlier entry = false := by
  obtain ⟨state, hstate, hhears⟩ := h entry hentry
  rw [changedBy, hstate, Option.any_some]
  dsimp only
  rw [h.after_eq hearlier hstate]
  unfold ConnectionState.hear at hhears
  split at hhears
  · rename_i hfinal
    rw [hfinal]
    rfl
  · rw [hhears]
    simp

theorem updates_eq (h : conference.Agrees entries) : conference.updates entries = 0 := by
  rw [updates, List.countP_eq_zero]
  intro place hplace
  have hlt := List.mem_range.mp hplace
  rw [List.getElem?_eq_getElem hlt, Option.any_some,
    h.changedBy_eq_false (fun entry => List.mem_of_mem_take) (List.getElem_mem hlt)]
  exact Bool.false_ne_true

end Agrees

theorem eq_of_mem_walkTranscript {conference : Conference} {earlier entries : List Snapshot}
    (hcoherent : conference.Coherent)
    (hknown : ∀ entry ∈ entries, entry.endpoint ∈ conference.roster.endpoints) {effect : Effect}
    (h : effect ∈ conference.walkTranscript earlier entries) :
    ∃ endpoint old next, effect = .changed (.participantState endpoint old next) := by
  induction entries generalizing earlier with
  | nil => cases h
  | cons entry entries ih =>
      rw [List.forall_mem_cons] at hknown
      rw [walkTranscript, List.mem_append] at h
      rcases h with hfirst | hlater
      · obtain ⟨state, hstate⟩ := hcoherent.exists_stateAt? hknown.1
        rw [entryTranscript_of_known hstate] at hfirst
        exact ⟨_, _, _, Effect.eq_of_mem_ofStates hfirst⟩
      · exact ih hknown.2 hlater

end Conference

theorem Reconciliation.eq_empty {result : Reconciliation} (hadded : result.added = [])
    (hremoved : result.removed = []) (hupdated : result.updated = 0) : result = {} := by
  obtain ⟨added, removed, updated⟩ := result
  subst hadded hremoved hupdated
  rfl

namespace Scene

/-- Nobody came or left, nobody got a cause or was destroyed, and all are who they were. At most,
they are in other states. -/
structure StatesOnly (scene next : Scene) (result : Reconciliation) : Prop where
  added : result.added = []
  removed : result.removed = []
  conference : next.conference =
    { scene.conference with participants := next.conference.participants }
  count : next.conference.participants.length = scene.conference.participants.length
  participants : ∀ number participant, scene.participant? number = some participant →
    ∃ state, next.participant? number = some { participant with state }
  told : ∃ told, next.outward = scene.outward ++ told ∧
    ∀ effect ∈ told, ∃ endpoint old next, effect = .changed (.participantState endpoint old next)

theorem Rests.outward_eq {scene next : Scene} (h : scene.Rests next) :
    next.outward = scene.outward := by
  obtain ⟨notices, hnext⟩ := h.told
  rw [outward, hnext, List.filter_append, Effect.filter_isOutward_eq_nil_iff.mpr ⟨notices, rfl⟩,
    List.append_nil, outward]

theorem Rests.of_outward_eq {scene next : Scene} (hreach : Reaches scene next)
    (hconference : next.conference = scene.conference) (houtward : next.outward = scene.outward) :
    scene.Rests next := by
  obtain ⟨told, htold⟩ := hreach.effects_grow
  rw [outward, ← htold, List.filter_append, outward] at houtward
  obtain ⟨notices, rfl⟩ :=
    Effect.filter_isOutward_eq_nil_iff.mp (List.append_right_eq_self.mp houtward)
  exact ⟨hconference, notices, htold.symm⟩

theorem Rests.statesOnly {scene next : Scene} (h : scene.Rests next) :
    StatesOnly scene next {} where
  added := rfl
  removed := rfl
  conference := by rw [h.conference]
  count := by rw [h.conference]
  participants number participant hparticipant :=
    ⟨participant.state, by rw [participant?, h.conference]; exact hparticipant⟩
  told := ⟨[], by rw [h.outward_eq, List.append_nil], by simp⟩

namespace Receptive

variable {scene : Scene} {entries : List Snapshot} (h : scene.Receptive)
  (hsame : ∀ endpoint, endpoint ∈ scene.conference.roster.endpoints ↔
    endpoint ∈ entries.map (·.endpoint))

include h hsame

theorem capabilities_of_same :
    (scene.reconcile entries).1.conference.capabilities = scene.conference.capabilities := by
  rw [h.capabilities_reconcile, if_pos (Roster.isEmpty_eq hsame)]

theorem added_of_same : (scene.reconcile entries).2.added = [] := by
  rw [(h.reconciles entries).added, Conference.newEndpoints_eq_nil hsame]

theorem removed_of_same : (scene.reconcile entries).2.removed = [] := by
  rw [List.eq_nil_iff_forall_not_mem]
  intro endpoint hremoved
  obtain ⟨hknown, hmissing⟩ := ((h.reconciles entries).removed.2 endpoint).mp hremoved
  exact hmissing ((hsame endpoint).mp hknown)

theorem outward_of_same : (scene.reconcile entries).1.outward =
    scene.outward ++ scene.conference.walkTranscript [] entries := by
  rw [h.outward_reconcile, Conference.transcript, Conference.bringUpTranscript,
    Conference.leaveTranscript, Conference.manageTranscript, Conference.newEndpoints_eq_nil hsame,
    Conference.vanished_eq_nil hsame, if_pos (Roster.isEmpty_eq hsame)]
  simp

theorem conference_of_same : (scene.reconcile entries).1.conference =
    { scene.conference with
      participants := (scene.reconcile entries).1.conference.participants } := by
  rw [h.regroups_reconcile, h.roster_reconcile hsame, h.capabilities_of_same hsame]

theorem statesOnly_of_same :
    StatesOnly scene (scene.reconcile entries).1 (scene.reconcile entries).2 where
  added := h.added_of_same hsame
  removed := h.removed_of_same hsame
  conference := h.conference_of_same hsame
  count := by
    rw [(h.reconciles entries).count, h.added_of_same hsame, List.length_nil, Nat.add_zero]
  participants number participant hparticipant := by
    rw [h.participant?_reconcile hparticipant]
    split
    · rename_i hmem
      rw [if_pos ((hsame _).mp (List.mem_map_of_mem (f := Prod.fst) hmem))]
      exact ⟨_, rfl⟩
    · exact ⟨participant.state, rfl⟩
  told := by
    refine ⟨_, h.outward_of_same hsame, fun effect heffect => ?_⟩
    refine Conference.eq_of_mem_walkTranscript h.coherent (fun entry hentry => ?_) heffect
    exact (hsame _).mpr (List.mem_map_of_mem hentry)

/-- Nothing comes of a list that says nothing new. -/
theorem rests_of_agrees (hagrees : scene.conference.Agrees entries) :
    scene.Rests (scene.reconcile entries).1 ∧ (scene.reconcile entries).2 = {} := by
  have hstates := h.statesOnly_of_same hsame
  have hparticipants : (scene.reconcile entries).1.conference.participants =
      scene.conference.participants := by
    apply List.ext_getElem?
    intro number
    cases hparticipant : scene.conference.participants[number]? with
    | none =>
        rw [List.getElem?_eq_none_iff] at hparticipant ⊢
        rwa [hstates.count]
    | some participant =>
        have hlater := @participant?_reconcile _ h entries number participant hparticipant
        refine hlater.trans (congrArg some ?_)
        split
        · rename_i hmem
          rw [if_pos ((hsame _).mp (List.mem_map_of_mem (f := Prod.fst) hmem)), Participant.heard,
            hagrees.after_eq (fun _ => id) (Conference.stateAt?_eq_some hmem hparticipant)]
        · rfl
  constructor
  · apply Rests.of_outward_eq (reaches_run [.reconcile entries] scene)
    · exact (h.conference_of_same hsame).trans (by rw [hparticipants])
    · exact (h.outward_of_same hsame).trans <| by
        rw [hagrees.walkTranscript_eq (by simp) fun _ => id, List.append_nil]
  · exact Reconciliation.eq_empty hstates.added hstates.removed
      ((h.reconciles entries).updated.trans hagrees.updates_eq)

omit hsame in
/-- After a list in which nobody has two states, it says nothing new. -/
theorem agrees_reconcile (hconstant : ∀ first ∈ entries, ∀ second ∈ entries,
    first.endpoint = second.endpoint → first.state = second.state) :
    (scene.reconcile entries).1.conference.Agrees entries := by
  intro entry hentry
  obtain ⟨last, hlast⟩ := Snapshot.exists_last (List.mem_map_of_mem hentry)
  have hreported : last ∈ Snapshot.reports entry.endpoint entries := List.mem_of_getLast? hlast
  obtain ⟨other, hother, rfl⟩ := List.mem_map.mp hreported
  obtain ⟨hmem, heq⟩ := List.mem_filter.mp hother
  refine ⟨_, h.stateAt?_reconcile hlast, ?_⟩
  rw [hconstant entry hentry other hmem (of_decide_eq_true heq).symm]
  cases scene.conference.stateAt? entry.endpoint with
  | none => exact ConnectionState.hear_self _
  | some state => exact ConnectionState.hear_after_last hlast state

end Receptive

variable {id : ConferenceId} {config : ConferenceConfig} {handle : Handle} {start : Scene}

/-- Whatever happened before, the same list once more, while nobody calls back, adds and removes
nobody, takes nobody down and leaves the right to manage as it is; and if it lists nobody in two
states, nothing at all comes of it. -/
theorem reconcile_twice (hopen : openOver? id config handle = .ok start) (requests : List Request)
    (entries : List Snapshot) :
    let scene := start.run requests
    let after := (scene.reconcile entries).1
    let again := after.reconcile entries
    Silent scene.register →
      StatesOnly after again.1 again.2 ∧
      ((∀ first ∈ entries, ∀ second ∈ entries,
          first.endpoint = second.endpoint → first.state = second.state) →
        after.Rests again.1 ∧ again.2 = {}) := by
  intro scene after again hsilent
  cases htorn : scene.conference.tornDown with
  | true =>
      have hignored : after = scene.note .reconcileIgnored :=
        congrArg Prod.fst (reconcile_of_tornDown htorn entries)
      have hagain : again = (after.note .reconcileIgnored, {}) := by
        apply reconcile_of_tornDown
        rw [hignored]
        exact htorn
      rw [hagain]
      exact ⟨(Rests.note after _).statesOnly, fun _ => ⟨.note after _, rfl⟩⟩
  | false =>
      have hreceptive : scene.Receptive := receptive_run hopen requests htorn hsilent
      have hsame := (hreceptive.reconciles entries).endpoints
      refine ⟨(hreceptive.reconcile entries).statesOnly_of_same hsame, fun hconstant => ?_⟩
      exact (hreceptive.reconcile entries).rests_of_agrees hsame
        (hreceptive.agrees_reconcile hconstant)

theorem reconcile_twice_takingBack :
    Silent (fresh.run [.reconcile firstList]).register ∧
      (((fresh.run [.reconcile firstList]).reconcile takingBack).1.reconcile takingBack).2.updated =
        1 ∧
      (((fresh.run [.reconcile firstList]).reconcile takingBack).1.reconcile takingBack).2.added =
        [] ∧
      (((fresh.run [.reconcile firstList]).reconcile firstList).1.reconcile firstList).2 = {} := by
  obtain ⟨hstates, -⟩ :=
    reconcile_twice openOver?_fresh [.reconcile firstList] takingBack silent_firstList
  obtain ⟨-, hrests⟩ :=
    reconcile_twice openOver?_fresh [.reconcile firstList] firstList silent_firstList
  exact ⟨silent_firstList, rfl, hstates.added, (hrests (by decide)).2⟩

end Scene

end ConferenceBridge
