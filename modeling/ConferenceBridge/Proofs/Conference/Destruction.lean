import ConferenceBridge.Proofs.Conference.Departure

namespace ConferenceBridge

/-! In what state participants are destroyed. The conference disconnects everyone whom it destroys.
Whoever is destroyed from outside stays as they are: a cause that is missing then is never given. -/

namespace Participant

abbrev Undergoes : Participant → Participant → Prop :=
  Relation.ReflTransGen fun before after => ∃ operation, (before.perform operation).participant = after

theorem undergoes_perform (participant : Participant) (operation : Operation) :
    participant.Undergoes (participant.perform operation).participant :=
  .single ⟨operation, rfl⟩

theorem undergoes_dismantled (participant : Participant) :
    participant.Undergoes participant.dismantled := by
  rw [← dismantled_eq]
  exact (participant.undergoes_perform .unobserve).trans <|
    (undergoes_perform _ .detach).trans <|
      (undergoes_perform _ (.call (.disconnect .aborted))).trans <|
        undergoes_perform _ (.call .destroy)

/-- Destroyed, in the state and with the cause from before. -/
structure Settled (before after : Participant) : Prop where
  destroyed : after.destroyed = true
  state : after.state = before.state
  cause : after.cause = before.cause

theorem Settled.trans {before middle after : Participant} (hfirst : before.Settled middle)
    (hsecond : middle.Settled after) : before.Settled after :=
  ⟨hsecond.destroyed, hsecond.state.trans hfirst.state, hsecond.cause.trans hfirst.cause⟩

theorem settled_destroy (participant : Participant) :
    participant.Settled (participant.perform (.call .destroy)).participant := by
  simp only [perform, destroy, unchanged]
  split
  · rename_i h
    exact ⟨h, rfl, rfl⟩
  · exact ⟨rfl, rfl, rfl⟩

theorem settled_perform {participant : Participant} (h : participant.destroyed = true)
    (operation : Operation) : participant.Settled (participant.perform operation).participant := by
  unfold perform update disconnect destroy unobserve detach unchanged
  repeat' split
  all_goals first | exact ⟨h, rfl, rfl⟩ | simp_all

theorem Undergoes.settled {before after : Participant} (h : before.Undergoes after)
    (hdestroyed : before.destroyed = true) : before.Settled after := by
  induction h with
  | refl => exact ⟨hdestroyed, rfl, rfl⟩
  | tail _ hlast ih =>
      obtain ⟨operation, rfl⟩ := hlast
      exact ih.trans (settled_perform ih.destroyed operation)

end Participant

namespace Conference

def Undergoes (before after : Conference) : Prop :=
  ∀ (number : Nat) (participant : Participant), before.participants[number]? = some participant →
    ∃ later, after.participants[number]? = some later ∧ participant.Undergoes later

namespace Undergoes

variable {before middle after : Conference}

theorem of_participants_eq (h : after.participants = before.participants) :
    before.Undergoes after := by
  intro number participant hparticipant
  exact ⟨participant, h ▸ hparticipant, .refl⟩

theorem trans (hfirst : before.Undergoes middle) (hsecond : middle.Undergoes after) :
    before.Undergoes after := by
  intro number participant hparticipant
  obtain ⟨later, hlater, hthen⟩ := hfirst number participant hparticipant
  obtain ⟨last, hlast, hrest⟩ := hsecond number later hlater
  exact ⟨last, hlast, hthen.trans hrest⟩

theorem of_getElem? {change : Nat → Participant → Participant}
    (h : ∀ number, after.participants[number]? = before.participants[number]?.map (change number))
    (hchange : ∀ (number : Nat) (participant : Participant),
      participant.Undergoes (change number participant)) :
    before.Undergoes after := by
  intro number participant hparticipant
  refine ⟨change number participant, ?_, hchange number participant⟩
  rw [h, hparticipant, Option.map_some]

theorem of_dismantled {numbers : List Nat}
    (h : ∀ number, after.participants[number]? = before.participants[number]?.map fun participant =>
      if number ∈ numbers then participant.dismantled else participant) :
    before.Undergoes after := by
  refine of_getElem? h fun number participant => ?_
  split
  · exact participant.undergoes_dismantled
  · exact .refl

end Undergoes

theorem undergoes_modify (number : Nat) (operation : Participant.Operation)
    (conference : Conference) :
    conference.Undergoes (conference.modify number fun participant =>
      (participant.perform operation).participant) := by
  refine .of_getElem? (fun other => getElem?_modify number other _ conference) ?_
  intro other participant
  split
  · exact participant.undergoes_perform operation
  · exact .refl

theorem undergoes_forget (number : Nat) (conference : Conference) :
    conference.Undergoes (conference.forget number) := by
  unfold forget
  split
  · exact .of_participants_eq rfl
  · split
    · exact .of_participants_eq rfl
    · refine .trans (undergoes_modify number .detach { conference with roster := _ }) ?_
      exact .of_participants_eq (participants_refreshManage _)

theorem undergoes_call {number : Nat} (call : ParticipantCall) {participant : Participant}
    {conference : Conference} (h : conference.participants[number]? = some participant) :
    ∃ later, (conference.call number call).participants[number]? = some later ∧
      (participant.perform (.call call)).participant.Undergoes later := by
  have hcalled : (conference.modify number fun participant =>
      (participant.perform (.call call)).participant).participants[number]? =
        some (participant.perform (.call call)).participant := by
    rw [getElem?_modify, h, Option.map_some, if_pos rfl]
  unfold Conference.call
  dsimp only
  split
  · exact undergoes_forget number _ number _ hcalled
  · exact ⟨_, hcalled, .refl⟩

theorem Transition.undergoes (h : Transition conference next) : conference.Undergoes next := by
  cases h with
  | enroll entry hopen habsent =>
      intro number participant hparticipant
      obtain ⟨hlt, -⟩ := List.getElem?_eq_some_iff.mp hparticipant
      refine ⟨participant, ?_, .refl⟩
      rw [getElem?_enroll, if_neg (Nat.ne_of_lt hlt), hparticipant]
  | call number call =>
      have hcalled := undergoes_modify number (.call call) conference
      unfold Conference.call
      dsimp only
      split
      · exact hcalled.trans (undergoes_forget number _)
      · exact hcalled
  | keep listed hopen => exact .of_dismantled fun number => getElem?_dismantle _ number _
  | dismiss htorn => exact .of_dismantled (getElem?_dismissAll conference)
  | refreshManage => exact .of_participants_eq (participants_refreshManage conference)
  | tearDown =>
      cases hflag : conference.tornDown with
      | true => exact .of_participants_eq (by simp [Conference.tearDown, hflag])
      | false => exact .of_dismantled (getElem?_tearDown hflag)
  | _ => exact .of_participants_eq rfl

theorem Evolves.undergoes (h : Evolves conference next) : conference.Undergoes next := by
  induction h with
  | refl => exact .of_participants_eq rfl
  | tail _ hlast ih => exact ih.trans hlast.undergoes

end Conference

namespace Scene

variable {start scene last : Scene} {number : Nat} {participant before : Participant}

theorem Reaches.undergoes (hreach : Reaches scene last) (hheld : scene.dropped = false)
    (hbefore : scene.participant? number = some before)
    (hlast : last.participant? number = some participant) : before.Undergoes participant := by
  obtain ⟨later, hlater, hthen⟩ := (Reaches.evolves hreach hheld).undergoes number before hbefore
  rw [participant?, hlater] at hlast
  cases hlast
  exact hthen

/-- Destruction from outside leaves state and cause as they are, for good. -/
theorem settled_of_destroy (hheld : scene.dropped = false)
    (hbefore : scene.participant? number = some before)
    (hafter : Reaches (scene.callParticipant number .destroy) last)
    (hlast : last.participant? number = some participant) : before.Settled participant := by
  obtain ⟨called, hcalled, hthen⟩ := Conference.undergoes_call .destroy hbefore
  rw [← conference_callParticipant hheld] at hcalled
  have hstill : (scene.callParticipant number .destroy).dropped = false :=
    (Step.call number .destroy).dropped_eq.trans hheld
  have hrest : (before.perform (.call .destroy)).participant.Undergoes participant :=
    hthen.trans (Reaches.undergoes hafter hstill hcalled hlast)
  have hdestroyed := before.settled_destroy
  exact hdestroyed.trans (hrest.settled hdestroyed.destroyed)

end Scene

/-- Someone who has no cause yet is destroyed from outside. -/
def Incident.Abandons (number : Nat) : Incident → Prop
  | called call =>
      call.number = number ∧ call.asked = .destroy ∧
        ∃ participant, call.scene.participant? number = some participant ∧
          participant.destroyed = false ∧ participant.cause = none
  | _ => False

namespace Scene

variable {start last : Scene} {number : Nat} {participant : Participant} {seen : List Incident}

namespace Chronicle

theorem settled (h : Chronicle start seen last) (hstart : start.Orderly)
    (hfound : last.participant? number = some participant) {call : Call}
    (hmem : .called call ∈ seen) (hself : call.number = number) (hasked : call.asked = .destroy)
    {before : Participant} (hbefore : call.scene.participant? number = some before) :
    before.Settled participant := by
  subst hself
  have hheld := (Reaches.orderly (h.way hmem).1 hstart).held
  have hafter : Reaches (call.scene.callParticipant call.number .destroy) last :=
    hasked ▸ (h.way hmem).2
  exact settled_of_destroy hheld hbefore hafter hfound

theorem cause_of_given (h : Chronicle start seen last) (hstart : start.Orderly)
    (hfound : last.participant? number = some participant) {cause : DisconnectCause}
    (hgiven : cause ∈ given number seen) : participant.cause = some cause := by
  obtain ⟨incident, hmem, hgives⟩ := List.mem_filterMap.mp hgiven
  obtain ⟨hbefore, hafter⟩ := h.way hmem
  have hheld := (Reaches.orderly hbefore hstart).held
  have hcall := (Reaches.orderly (hbefore.trans incident.reaches) hstart).held
  cases incident with
  | called call =>
      rw [Incident.given?] at hgives
      split at hgives
      · rename_i hsucceeds
        obtain ⟨rfl, haccepts⟩ := hsucceeds
        obtain ⟨earlier, hearlier, haccepted⟩ := (Option.any_eq_true _ _).mp haccepts
        obtain ⟨called, hcalled, -, hcause⟩ :=
          participant?_callParticipant hheld hearlier call.asked
        have hset : called.cause = some cause := by
          rw [hcause]
          exact Participant.cause_of_accepted haccepted hgives
        rw [(Reaches.continues hafter hcall hcalled hfound).cause (by simp [hset]), hset]
      · cases hgives
  | _ => cases hgives

/-- Whoever is destroyed has a cause, unless it was destroyed from outside before it got one. -/
theorem caused (h : Chronicle start seen last) (hstart : start.Orderly)
    (hnobody : start.conference.participants = [])
    (hfound : last.participant? number = some participant)
    (hdestroyed : participant.destroyed = true)
    (hkept : ∀ incident ∈ seen, ¬ incident.Abandons number) :
    ∃ cause, participant.cause = some cause ∧
      (given number seen = [cause] ∨ given number seen = [] ∧ cause = .aborted) := by
  have hmember : number ∉ last.conference.roster.members := by
    intro hmember
    obtain ⟨listed, hlisted, hlive⟩ := (h.reaches.orderly hstart).live_of_member hmember
    rw [hfound] at hlisted
    cases hlisted
    rw [hlive.destroyed] at hdestroyed
    cases hdestroyed
  obtain ⟨incident, hmem, hleft⟩ := (h.stays_or_left hstart hnobody hfound).resolve_left hmember
  obtain ⟨earlier, later, hsplit⟩ := List.append_of_mem hmem
  have hseen : given number seen = given number earlier ++ given number (incident :: later) := by
    rw [hsplit, given, given, given, List.filterMap_append]
  rcases hleft with hdrops | hdestroys
  · obtain ⟨same, cause, htaken⟩ := h.takenDown hstart hnobody hsplit hdrops
    obtain rfl : same = participant := Option.some.inj (htaken.found.symm.trans hfound)
    rw [htaken.refused, List.append_nil] at hseen
    exact ⟨cause, htaken.caused, hseen ▸ htaken.given⟩
  · cases incident with
    | called call =>
        obtain ⟨rfl, hasked, htells⟩ := hdestroys
        obtain ⟨before, hbefore, halive⟩ := Call.live_of_tells htells
        obtain ⟨hearlier, hlater⟩ := h.split hsplit
        cases hcause : before.cause with
        | none => exact absurd ⟨rfl, hasked, before, hbefore, halive, hcause⟩ (hkept _ hmem)
        | some cause =>
            have hsettled := h.settled hstart hfound hmem rfl hasked hbefore
            have hgiven := (hearlier.given_eq hstart hnobody call.number).1 before hbefore halive
            have hrest : given call.number (.called call :: later) = [] := by
              obtain ⟨called, hcalled, hgone⟩ := Call.destroyed_of_tells htells
              have hcall := Reaches.orderly (hearlier.incident (.called call)).reaches hstart
              have hgives : (Incident.called call).given? call.number = none := by
                simp [Incident.given?, hasked, ParticipantCall.cause?]
              rw [given, List.filterMap_cons_none hgives]
              exact hlater.given_eq_nil hcall.held hcalled hgone
            rw [hrest, List.append_nil, hgiven, hcause] at hseen
            exact ⟨cause, hsettled.cause.trans hcause, .inl hseen⟩
    | _ => cases hdestroys

end Chronicle

variable {id : ConferenceId} {config : ConferenceConfig} {handle : Handle}
  {requests : List Request}

/-- Whoever is destroyed is found disconnected with a cause, unless it was destroyed from outside
before it had one; then it looks for good as it looked at that moment. So whoever the conference
takes down is found disconnected. The cause is the one that somebody gave, and otherwise the one of
the conference. -/
theorem destroyed_disconnected_iff (hopen : openOver? id config handle = .ok start)
    (hmoment : Passes requests start seen last)
    (hfound : last.participant? number = some participant)
    (hdestroyed : participant.destroyed = true) :
    (participant.state = .disconnected ∧ participant.cause.isSome = true ↔
      ∀ incident ∈ seen, ¬ incident.Abandons number) ∧
    (∀ call before, .called call ∈ seen → call.number = number → call.asked = .destroy →
      call.scene.participant? number = some before →
        participant.state = before.state ∧ participant.cause = before.cause) ∧
    ((∃ incident ∈ seen, incident.Drops number) → ∀ incident ∈ seen, ¬ incident.Abandons number) ∧
    (∀ cause ∈ given number seen, participant.cause = some cause) ∧
    ((∀ incident ∈ seen, ¬ incident.Abandons number) → given number seen = [] →
      participant.cause = some .aborted) := by
  obtain ⟨rfl, -⟩ := eq_openOver_of_openOver? hopen
  have hstart := orderly_openOver id config handle
  have hseen := hmoment.chronicle
  have hfinal : participant.cause.isSome = true → participant.state = .disconnected :=
    ((hseen.reaches.orderly hstart).attributed.traced number participant hfound).final
  have hcaused : participant.cause.isSome = true →
      ∀ incident ∈ seen, ¬ incident.Abandons number := by
    intro hcause incident hmem habandons
    cases incident with
    | called call =>
        obtain ⟨hself, hasked, before, hbefore, -, hnone⟩ := habandons
        rw [(hseen.settled hstart hfound hmem hself hasked hbefore).cause, hnone] at hcause
        cases hcause
    | _ => exact habandons
  refine ⟨⟨fun h => hcaused h.2, fun hkept => ?_⟩, ?_, ?_, ?_, ?_⟩
  · obtain ⟨cause, hcause, -⟩ := hseen.caused hstart rfl hfound hdestroyed hkept
    have hsome : participant.cause.isSome = true := by simp [hcause]
    exact ⟨hfinal hsome, hsome⟩
  · intro call before hmem hself hasked hbefore
    have hsettled := hseen.settled hstart hfound hmem hself hasked hbefore
    exact ⟨hsettled.state, hsettled.cause⟩
  · rintro ⟨incident, hmem, hdrops⟩
    obtain ⟨earlier, later, hsplit⟩ := List.append_of_mem hmem
    obtain ⟨same, cause, htaken⟩ := hseen.takenDown hstart rfl hsplit hdrops
    obtain rfl : same = participant := Option.some.inj (htaken.found.symm.trans hfound)
    exact hcaused (by simp [htaken.caused])
  · exact fun cause hgiven => hseen.cause_of_given hstart hfound hgiven
  · intro hkept hnothing
    obtain ⟨cause, hcause, hgiven | ⟨-, rfl⟩⟩ :=
      hseen.caused hstart rfl hfound hdestroyed hkept
    · rw [hnothing] at hgiven
      cases hgiven
    · exact hcause

def destroyedOutside : List Request :=
  [.reconcile
      [⟨⟨"warned", by decide⟩, .active, none, none⟩, ⟨⟨"taken", by decide⟩, .active, none, none⟩],
    .participant 0 (.disconnect .busy), .participant 0 .destroy, .participant 1 .destroy]

theorem destroyed_disconnected_iff_destroyedOutside :
    ∃ warned taken, (fresh.run destroyedOutside).participant? 0 = some warned ∧
      (fresh.run destroyedOutside).participant? 1 = some taken ∧
      warned.cause = some .busy ∧
      (∀ incident ∈ fresh.incidents destroyedOutside, ¬ incident.Abandons 0) ∧
      taken.state = .active ∧ ∃ incident ∈ fresh.incidents destroyedOutside, incident.Abandons 1 := by
  have hending : Passes destroyedOutside fresh (fresh.incidents destroyedOutside)
    (fresh.run destroyedOutside) := .ending
  refine ⟨_, _, rfl, rfl, rfl, ?_, rfl, ?_⟩
  · exact (destroyed_disconnected_iff openOver?_fresh hending rfl rfl).1.mp ⟨rfl, rfl⟩
  · exact ⟨_, .tail _ (.tail _ (.tail _ (.head _))), rfl, rfl, _, rfl, rfl, rfl⟩

/-- Someone who was destroyed looks as if they still took part. -/
theorem active_after_destruction :
    ∃ participant, (fresh.run destroyedOutside).participant? 1 = some participant ∧
      participant.destroyed = true ∧ participant.state = .active ∧ participant.cause = none ∧
      (fresh.run destroyedOutside).conference.roster.isEmpty = true :=
  ⟨_, rfl, rfl, rfl, rfl, rfl⟩

end Scene

end ConferenceBridge
