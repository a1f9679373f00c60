import ConferenceBridge.Proofs.Conference.Permanence
import Mathlib.Data.List.TFAE

namespace ConferenceBridge

/-! Who is in the roster: exactly the participants that were never destroyed, and they alone are
attached and observed. -/

namespace Participant

structure IsLive (participant : Participant) : Prop where
  destroyed : participant.destroyed = false
  attached : participant.attached = true
  observed : participant.observed = true

structure IsGone (participant : Participant) : Prop where
  destroyed : participant.destroyed = true
  attached : participant.attached = false
  observed : participant.observed = false

theorem isGone_dismantled (participant : Participant) : participant.dismantled.IsGone :=
  ⟨rfl, rfl, rfl⟩

theorem isLive_ofSnapshot (snapshot : Snapshot) (initial : ConnectionState) :
    (ofSnapshot snapshot initial).IsLive :=
  ⟨rfl, rfl, rfl⟩

theorem perform_call_of_ne_destroy {call : ParticipantCall} (h : call ≠ .destroy)
    (participant : Participant) :
    let outcome := participant.perform (.call call)
    outcome.notifies = false ∧
      outcome.participant.destroyed = participant.destroyed ∧
      outcome.participant.attached = participant.attached ∧
      outcome.participant.observed = participant.observed := by
  cases call with
  | update next =>
      unfold perform update unchanged
      dsimp only
      repeat' split
      all_goals exact ⟨rfl, rfl, rfl, rfl⟩
  | disconnect cause =>
      unfold perform disconnect unchanged
      dsimp only
      split <;> exact ⟨rfl, rfl, rfl, rfl⟩
  | destroy => exact absurd rfl h

theorem perform_destroy_of_isGone {participant : Participant} (h : participant.IsGone) :
    participant.perform (.call .destroy) = participant.unchanged := by
  simp [perform, destroy, h.destroyed]

end Participant

namespace Conference

/-- The entries of the roster are live participants under their own endpoints; all others are
gone. -/
structure Coherent (conference : Conference) : Prop where
  listed : ∀ endpoint number, (endpoint, number) ∈ conference.roster.entries →
    ∃ participant, conference.participants[number]? = some participant ∧
      participant.endpoint = endpoint ∧ participant.IsLive
  unlisted : ∀ number participant, conference.participants[number]? = some participant →
    (participant.endpoint, number) ∉ conference.roster.entries → participant.IsGone

namespace Coherent

variable {conference next : Conference}

theorem congr (h : conference.Coherent) (hroster : next.roster = conference.roster)
    (hparticipants : next.participants = conference.participants) : next.Coherent := by
  constructor
  · rw [hroster, hparticipants]
    exact h.listed
  · rw [hroster, hparticipants]
    exact h.unlisted

theorem isLive_of_mem (h : conference.Coherent) {number : Nat} {participant : Participant}
    (hparticipant : conference.participants[number]? = some participant)
    (hmem : (participant.endpoint, number) ∈ conference.roster.entries) :
    participant.IsLive := by
  obtain ⟨other, hother, -, hlive⟩ := h.listed _ _ hmem
  rw [hparticipant] at hother
  cases hother
  exact hlive

theorem endpoint_of_mem (h : conference.Coherent) {endpoint : Endpoint} {number : Nat}
    {participant : Participant}
    (hparticipant : conference.participants[number]? = some participant)
    (hmem : (endpoint, number) ∈ conference.roster.entries) :
    participant.endpoint = endpoint := by
  obtain ⟨other, hother, hendpoint, -⟩ := h.listed _ _ hmem
  rw [hparticipant] at hother
  cases hother
  exact hendpoint

theorem modify (h : conference.Coherent) (number : Nat) {change : Participant → Participant}
    (hchange : ∀ participant, (change participant).endpoint = participant.endpoint ∧
      (change participant).destroyed = participant.destroyed ∧
      (change participant).attached = participant.attached ∧
      (change participant).observed = participant.observed) :
    (conference.modify number change).Coherent := by
  constructor
  · intro endpoint other hmem
    obtain ⟨participant, hparticipant, hendpoint, hlive⟩ := h.listed endpoint other hmem
    refine ⟨if other = number then change participant else participant, ?_, ?_, ?_⟩
    · rw [getElem?_modify, hparticipant]
      rfl
    · split
      · rw [(hchange participant).1, hendpoint]
      · exact hendpoint
    · split
      · obtain ⟨-, hdestroyed, hattached, hobserved⟩ := hchange participant
        exact ⟨hdestroyed.trans hlive.destroyed, hattached.trans hlive.attached,
          hobserved.trans hlive.observed⟩
      · exact hlive
  · intro other participant hparticipant hmem
    rw [getElem?_modify, Option.map_eq_some_iff] at hparticipant
    obtain ⟨before, hbefore, rfl⟩ := hparticipant
    split at hmem
    · obtain ⟨hendpoint, hdestroyed, hattached, hobserved⟩ := hchange before
      rw [hendpoint] at hmem
      have hgone := h.unlisted other before hbefore hmem
      rw [if_pos ‹other = number›]
      exact ⟨hdestroyed.trans hgone.destroyed, hattached.trans hgone.attached,
        hobserved.trans hgone.observed⟩
    · rw [if_neg ‹¬other = number›]
      exact h.unlisted other before hbefore hmem

theorem of_leaving (h : conference.Coherent)
    (hstay : ∀ endpoint number, (endpoint, number) ∈ next.roster.entries →
      (endpoint, number) ∈ conference.roster.entries ∧
        next.participants[number]? = conference.participants[number]?)
    (hleave : ∀ number participant, next.participants[number]? = some participant →
      (participant.endpoint, number) ∉ next.roster.entries →
      participant.IsGone ∨ conference.participants[number]? = some participant ∧
        (participant.endpoint, number) ∉ conference.roster.entries) :
    next.Coherent := by
  constructor
  · intro endpoint number hmem
    obtain ⟨hbefore, hsame⟩ := hstay endpoint number hmem
    rw [hsame]
    exact h.listed endpoint number hbefore
  · intro number participant hparticipant hmem
    rcases hleave number participant hparticipant hmem with hgone | ⟨hbefore, habsent⟩
    · exact hgone
    · exact h.unlisted number participant hbefore habsent

theorem dismantle_filter (h : conference.Coherent) {roster : Roster Nat}
    {leaving : List (Endpoint × Nat)}
    (hstay : ∀ entry, entry ∈ roster.entries → entry ∈ conference.roster.entries ∧
      entry ∉ leaving)
    (hleave : ∀ entry, entry ∈ conference.roster.entries → entry ∉ roster.entries →
      entry ∈ leaving)
    (hleaving : ∀ entry, entry ∈ leaving → entry ∈ conference.roster.entries) :
    ({ conference with roster }.dismantle (leaving.map Prod.snd)).Coherent := by
  have hroster : ({ conference with roster }.dismantle (leaving.map Prod.snd)).roster = roster := by
    rw [dismantle_eq]
  have hnumber : ∀ number participant, conference.participants[number]? = some participant →
      (number ∈ leaving.map Prod.snd ↔ (participant.endpoint, number) ∈ leaving) := by
    intro number participant hparticipant
    constructor
    · intro hmem
      obtain ⟨⟨endpoint, other⟩, hentry, rfl⟩ := List.mem_map.mp hmem
      rw [h.endpoint_of_mem hparticipant (hleaving _ hentry)]
      exact hentry
    · exact fun hmem => List.mem_map.mpr ⟨_, hmem, rfl⟩
  apply h.of_leaving
  · intro endpoint number hmem
    rw [hroster] at hmem
    obtain ⟨hbefore, hnot⟩ := hstay _ hmem
    refine ⟨hbefore, ?_⟩
    obtain ⟨participant, hparticipant, hendpoint, -⟩ := h.listed _ _ hbefore
    have hother : number ∉ leaving.map Prod.snd := by
      rw [hnumber number participant hparticipant, hendpoint]
      exact hnot
    rw [getElem?_dismantle]
    simp [hparticipant, hother]
  · intro number participant hparticipant hmem
    rw [hroster] at hmem
    rw [getElem?_dismantle, Option.map_eq_some_iff] at hparticipant
    obtain ⟨before, hbefore, rfl⟩ := hparticipant
    split at hmem
    · rw [if_pos ‹_›]
      exact .inl before.isGone_dismantled
    · rename_i hother
      rw [if_neg hother]
      rw [hnumber number before hbefore] at hother
      exact .inr ⟨hbefore, fun hlisted => hother (hleave _ hlisted hmem)⟩

theorem refreshManage (h : conference.Coherent) : conference.refreshManage.Coherent := by
  apply h.congr
  all_goals
    unfold Conference.refreshManage
    split <;> rfl

theorem dismissAll (h : conference.Coherent) : conference.dismissAll.Coherent := by
  apply refreshManage
  apply h.dismantle_filter
  · intro entry hentry
    simp [Roster.empty] at hentry
  · exact fun _ hentry _ => hentry
  · exact fun _ hentry => hentry

theorem tearDown (h : conference.Coherent) : conference.tearDown.Coherent := by
  unfold Conference.tearDown
  split
  · exact h
  · have htorn : { conference with tornDown := true }.Coherent := h.congr rfl rfl
    exact htorn.dismissAll.congr rfl rfl

theorem enroll (h : conference.Coherent) {entry : Snapshot} {roster : Roster Nat}
    (habsent : conference.roster.insertIfAbsent entry.endpoint
      conference.participants.length = .stored roster) :
    (conference.enroll entry roster).Coherent := by
  have hentries : roster.entries =
      conference.roster.entries ++ [(entry.endpoint, conference.participants.length)] :=
    (Roster.stored_of_insertIfAbsent habsent).2
  have hold : ∀ {number : Nat} {participant : Participant},
      conference.participants[number]? = some participant →
        (conference.enroll entry roster).participants[number]? = some participant := by
    intro number participant hparticipant
    obtain ⟨hlt, -⟩ := List.getElem?_eq_some_iff.mp hparticipant
    rw [Conference.enroll, List.getElem?_append_left hlt, hparticipant]
  have hnew : (conference.enroll entry roster).participants[conference.participants.length]? =
      some (.ofSnapshot entry conference.config.initialState) := by
    simp [Conference.enroll]
  constructor
  · intro endpoint number hmem
    change (endpoint, number) ∈ roster.entries at hmem
    rw [hentries, List.mem_append] at hmem
    rcases hmem with hbefore | hlast
    · obtain ⟨participant, hparticipant, hrest⟩ := h.listed endpoint number hbefore
      exact ⟨participant, hold hparticipant, hrest⟩
    · simp only [List.mem_singleton, Prod.mk.injEq] at hlast
      obtain ⟨rfl, rfl⟩ := hlast
      exact ⟨_, hnew, rfl, Participant.isLive_ofSnapshot _ _⟩
  · intro number participant hparticipant hmem
    change (participant.endpoint, number) ∉ roster.entries at hmem
    rw [hentries, List.mem_append, not_or] at hmem
    rcases Nat.lt_trichotomy number conference.participants.length with hlt | rfl | hgt
    · rw [Conference.enroll, List.getElem?_append_left hlt] at hparticipant
      exact h.unlisted number participant hparticipant hmem.1
    · rw [hnew] at hparticipant
      cases hparticipant
      exact absurd (List.mem_singleton.mpr rfl) hmem.2
    · have hnone : (conference.enroll entry roster).participants[number]? = none := by
        apply List.getElem?_eq_none
        simp only [Conference.enroll, List.length_append, List.length_singleton]
        omega
      rw [hnone] at hparticipant
      cases hparticipant

/-- A listed participant is destroyed from outside: the conference hears of it and lists it no
more. -/
theorem destroy (h : conference.Coherent) {number : Nat} {participant : Participant}
    (hparticipant : conference.participants[number]? = some participant)
    (hmem : (participant.endpoint, number) ∈ conference.roster.entries) :
    (conference.call number .destroy).Coherent := by
  have hlive := h.isLive_of_mem hparticipant hmem
  let destroyed : Participant := { participant with destroyed := true, observed := false }
  have hdestroy : participant.perform (.call .destroy) =
      { participant := destroyed, accepted := true, notifies := true } := by
    simp [Participant.perform, Participant.destroy, hlive.destroyed, hlive.observed, destroyed]
  have hcalled : conference.modify number
        (fun participant => (participant.perform (.call .destroy)).participant) =
      { conference with participants := conference.participants.set number destroyed } := by
    rw [modify_eq_set hparticipant, hdestroy]
  obtain ⟨hlt, -⟩ := List.getElem?_eq_some_iff.mp hparticipant
  have hforget : conference.call number .destroy =
      ({ conference with
          roster := conference.roster.erase participant.endpoint
          participants := conference.participants.set number destroyed }.modify number
            fun participant => (participant.perform .detach).participant).refreshManage := by
    have hlisted := Roster.get?_eq_some_iff.mpr hmem
    simp only [Conference.call, hcalled, hparticipant, hdestroy, Option.any_some, if_true, forget]
    simp [hlt, Roster.eraseIf?, hlisted, destroyed]
  rw [hforget]
  apply refreshManage
  apply h.of_leaving
  · intro endpoint other hstays
    simp only [Conference.modify, Roster.erase, Roster.filter, List.mem_filter, bne_iff_ne,
      ne_eq] at hstays
    refine ⟨hstays.1, ?_⟩
    have hother : number ≠ other := by
      rintro rfl
      exact hstays.2 (h.endpoint_of_mem hparticipant hstays.1).symm
    simp [Conference.modify, hother]
  · intro other leaver hleaver hmissing
    rw [getElem?_modify] at hleaver
    by_cases hother : other = number
    · subst hother
      left
      have hdetach : (destroyed.perform .detach).participant =
          { destroyed with attached := false } := by
        simp [Participant.perform, Participant.detach, destroyed, hlive.attached]
      simp only [List.getElem?_set_self hlt, Option.map_some, if_true, Option.some.injEq,
        hdetach] at hleaver
      rw [← hleaver]
      exact ⟨rfl, rfl, rfl⟩
    · right
      have hbefore : conference.participants[other]? = some leaver := by
        simpa [hother, Ne.symm hother] using hleaver
      refine ⟨hbefore, fun hlisted => hmissing ?_⟩
      simp only [Conference.modify, Roster.erase, Roster.filter, List.mem_filter, bne_iff_ne,
        ne_eq]
      refine ⟨hlisted, ?_⟩
      intro hendpoint
      rw [hendpoint] at hlisted
      exact hother (Roster.unique hlisted hmem)

theorem call (h : conference.Coherent) (number : Nat) (call : ParticipantCall) :
    (conference.call number call).Coherent := by
  by_cases hcall : call = .destroy
  · subst hcall
    cases hparticipant : conference.participants[number]? with
    | none =>
        simp only [Conference.call, hparticipant, Option.any_none, Bool.false_eq_true, if_false,
          modify_of_none]
        exact h
    | some participant =>
        by_cases hmem : (participant.endpoint, number) ∈ conference.roster.entries
        · exact h.destroy hparticipant hmem
        · have hgone := h.unlisted number participant hparticipant hmem
          have hdestroy := Participant.perform_destroy_of_isGone hgone
          have hsame : conference.call number .destroy = conference := by
            simp only [Conference.call, hparticipant, Option.any_some, hdestroy]
            apply modify_of_fixed hparticipant
            rw [hdestroy]
            rfl
          rw [hsame]
          exact h
  · have hquiet := Participant.perform_call_of_ne_destroy hcall
    have hnotified : (conference.participants[number]?.any fun participant =>
        (participant.perform (.call call)).notifies) = false := by
      cases conference.participants[number]? with
      | none => rfl
      | some participant => exact (hquiet participant).1
    simp only [Conference.call, hnotified, Bool.false_eq_true, if_false]
    apply h.modify number
    intro participant
    exact ⟨participant.endpoint_perform _, (hquiet participant).2⟩

theorem keep (h : conference.Coherent) (listed : List Endpoint) :
    (conference.keep listed).Coherent := by
  apply h.dismantle_filter
  · intro entry hentry
    obtain ⟨hlisted, hstays⟩ := List.mem_filter.mp hentry
    refine ⟨hlisted, fun hleaves => ?_⟩
    exact (by simpa using (List.mem_filter.mp hleaves).2 : entry.1 ∉ listed)
      (by simpa using hstays)
  · intro entry hentry hnot
    simpa [Roster.splitBy, Roster.filter, hentry] using hnot
  · intro entry hentry
    exact (List.mem_filter.mp hentry).1

end Coherent

theorem Transition.coherent (htransition : Transition conference next)
    (h : conference.Coherent) : next.Coherent := by
  cases htransition with
  | enroll entry hopen habsent => exact h.enroll habsent
  | call number call => exact h.call number call
  | keep listed hopen => exact h.keep listed
  | dismiss htorn => exact h.dismissAll
  | refreshManage => exact h.refreshManage
  | remember state => exact h.congr rfl rfl
  | setState state hstate => exact h.congr rfl rfl
  | disconnect cause hfirst => exact h.congr rfl rfl
  | tearDown => exact h.tearDown

theorem Evolves.coherent (hevolves : Evolves conference next) (h : conference.Coherent) :
    next.Coherent :=
  hevolves.preserves Transition.coherent h

theorem Coherent.of_no_participants {conference : Conference}
    (hroster : conference.roster.entries = []) (hparticipants : conference.participants = []) :
    conference.Coherent := by
  constructor
  · intro endpoint number hmem
    simp [hroster] at hmem
  · intro number participant hparticipant
    simp [hparticipants] at hparticipant

theorem Coherent.tfae {conference : Conference} (h : conference.Coherent) {number : Nat}
    {participant : Participant}
    (hparticipant : conference.participants[number]? = some participant) :
    [conference.roster.get? participant.endpoint = some number,
      participant.destroyed = false,
      (participant.conference? conference.id).isSome = true,
      participant.observed = true].TFAE := by
  rw [Roster.get?_eq_some_iff]
  have hconference : (participant.conference? conference.id).isSome = participant.attached := by
    cases hattached : participant.attached <;> simp [Participant.conference?, hattached]
  rw [hconference]
  by_cases hmem : (participant.endpoint, number) ∈ conference.roster.entries
  · have hlive := h.isLive_of_mem hparticipant hmem
    simp [hmem, hlive.destroyed, hlive.attached, hlive.observed]
  · have hgone := h.unlisted number participant hparticipant hmem
    simp [hmem, hgone.destroyed, hgone.attached, hgone.observed]

end Conference

namespace Scene

variable {id : ConferenceId} {config : ConferenceConfig} {handle : Handle} {start : Scene}

theorem coherent_run (hopen : openOver? id config handle = .ok start) (requests : List Request) :
    (start.run requests).conference.Coherent :=
  (evolves_run hopen requests).coherent (.of_no_participants rfl rfl)

/-- Between two requests, the participants in the roster are those that are not destroyed, those
that belong to the conference, and those that it observes. Whoever was destroyed never comes
back. -/
theorem live_iff_listed (hopen : openOver? id config handle = .ok start)
    (requests : List Request) :
    let conference := (start.run requests).conference
    (∀ number participant, conference.participants[number]? = some participant →
      [conference.roster.get? participant.endpoint = some number,
        participant.destroyed = false,
        (participant.conference? conference.id).isSome = true,
        participant.observed = true].TFAE) ∧
    conference.roster.endpoints.Nodup ∧
    (∀ endpoint number, (endpoint, number) ∈ conference.roster.entries →
      ∃ participant, conference.participants[number]? = some participant ∧
        participant.endpoint = endpoint) ∧
    ∀ number participant, conference.participants[number]? = some participant →
      participant.destroyed = true → ∀ more : List Request,
        let later := (start.run (requests ++ more)).conference
        ∃ gone, later.participants[number]? = some gone ∧ gone.destroyed = true ∧
          number ∉ later.roster.members := by
  intro conference
  have hcoherent : conference.Coherent := coherent_run hopen requests
  refine ⟨fun number participant => hcoherent.tfae, conference.roster.nodup, ?_, ?_⟩
  · intro endpoint number hmem
    obtain ⟨participant, hparticipant, hendpoint, -⟩ := hcoherent.listed endpoint number hmem
    exact ⟨participant, hparticipant, hendpoint⟩
  · intro number participant hparticipant hdestroyed more later
    have hlater : later.Coherent := coherent_run hopen (requests ++ more)
    have hcontinues : conference.Continues later := continues_run hopen requests more
    obtain ⟨gone, hgone, hthen⟩ := hcontinues.participants number participant hparticipant
    refine ⟨gone, hgone, hthen.destroyed hdestroyed, ?_⟩
    intro hmem
    obtain ⟨⟨endpoint, other⟩, hentry, rfl⟩ := List.mem_map.mp hmem
    obtain ⟨listed, hlisted, -, hlive⟩ := hlater.listed endpoint other hentry
    rw [hgone] at hlisted
    cases hlisted
    have hnever := hlive.destroyed
    rw [hthen.destroyed hdestroyed] at hnever
    cases hnever

/-- While the first participant is handed over, the call list reports a list without it; while the
second one is, it destroys the first. -/
def nestedLists : List Request :=
  [.registerChanged
      [[.event (.participantsChanged [⟨⟨"second", by decide⟩, .active, none, none⟩])],
        [.participant 0 .destroy]],
    .reconcile [⟨⟨"first", by decide⟩, .active, none, none⟩]]

theorem live_iff_listed_nestedLists :
    ∃ first second, (fresh.run nestedLists).conference.participants = [first, second] ∧
      first.destroyed = true ∧
      [(fresh.run nestedLists).conference.roster.get? first.endpoint = some 0,
        first.destroyed = false,
        (first.conference? (fresh.run nestedLists).conference.id).isSome = true,
        first.observed = true].TFAE ∧
      ∃ gone, (fresh.run (nestedLists ++ nestedLists)).conference.participants[0]? = some gone ∧
        gone.destroyed = true ∧
        0 ∉ (fresh.run (nestedLists ++ nestedLists)).conference.roster.members := by
  obtain ⟨hlive, -, -, hgone⟩ := live_iff_listed openOver?_fresh nestedLists
  exact ⟨_, _, rfl, rfl, hlive 0 _ rfl, hgone 0 _ rfl rfl nestedLists⟩

end Scene

end ConferenceBridge
