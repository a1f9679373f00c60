import ConferenceBridge.Proofs.Conference.Omission

namespace ConferenceBridge

/-! How participants leave. Whoever is left out of a list, or takes part when the conference ends,
is taken down by the conference, which says so once and is not told of it itself. Everyone else who
left was destroyed from outside. -/

def ParticipantCall.cause? : ParticipantCall → Option DisconnectCause
  | .disconnect cause => some cause
  | _ => none

theorem Participant.cause_perform_call {participant : Participant}
    (hgoes : participant.destroyed = false) (call : ParticipantCall) :
    let outcome := participant.perform (.call call)
    outcome.participant.cause.toList =
      participant.cause.toList ++ (if outcome.accepted then call.cause? else none).toList := by
  cases call with
  | update next =>
      simp only [perform, update, unchanged]
      repeat' split
      all_goals simp [ParticipantCall.cause?]
  | disconnect cause =>
      simp only [perform, disconnect, unchanged, ParticipantCall.cause?]
      split
      · simp
      · rename_i hfirst
        have hnone : participant.cause = none := by simpa [hgoes] using hfirst
        simp [hnone]
  | destroy =>
      simp only [perform, destroy, unchanged, ParticipantCall.cause?]
      split <;> simp

theorem Participant.cause_of_accepted {participant : Participant} {call : ParticipantCall}
    {cause : DisconnectCause}
    (haccepted : (participant.perform (.call call)).accepted = true)
    (hcause : call.cause? = some cause) :
    (participant.perform (.call call)).participant.cause = some cause := by
  cases call with
  | disconnect given =>
      cases hcause
      simp only [perform, disconnect, unchanged] at haccepted ⊢
      split at haccepted
      · cases haccepted
      · rename_i hfirst
        rw [if_neg hfirst]
  | _ => cases hcause

namespace Incident

/-- The cause that someone outside gives a participant by calling it, with success. -/
def given? (number : Nat) : Incident → Option DisconnectCause
  | called call =>
      if call.number = number ∧ call.succeeds = true then call.asked.cause? else none
  | _ => none

end Incident

def given (number : Nat) (seen : List Incident) : List DisconnectCause :=
  seen.filterMap (Incident.given? number)

namespace Scene

variable {start scene next last : Scene} {number : Nat} {seen : List Incident}

/-- In a lull nobody is disconnected or destroyed, and nobody leaves. -/
structure Shelters (scene next : Scene) : Prop where
  found : ∀ {number participant}, next.participant? number = some participant →
    (∃ earlier, scene.participant? number = some earlier ∧
      participant.destroyed = earlier.destroyed ∧ participant.cause = earlier.cause) ∨
    (scene.participant? number = none ∧ number ∈ next.conference.roster.members ∧
      participant.cause = none)
  stays : ∀ {number}, number ∈ scene.conference.roster.members →
    number ∈ next.conference.roster.members

theorem Shelters.of_eq (hparticipants : next.conference.participants =
    scene.conference.participants) (hroster : next.conference.roster = scene.conference.roster) :
    scene.Shelters next where
  found := by
    intro number participant hparticipant
    rw [participant?, hparticipants] at hparticipant
    exact .inl ⟨participant, hparticipant, rfl, rfl⟩
  stays := by
    intro number hmember
    rw [hroster]
    exact hmember

theorem Lull.shelters (h : Lull scene next) (hheld : scene.dropped = false) :
    scene.Shelters next := by
  cases h with
  | enroll entry hopen habsent =>
      have hentries := (Roster.stored_of_insertIfAbsent habsent).2
      constructor
      · intro number participant hparticipant
        change (scene.conference.enroll entry _).participants[number]? = _ at hparticipant
        rw [Conference.getElem?_enroll] at hparticipant
        split at hparticipant
        · rename_i hnew
          subst hnew
          cases hparticipant
          refine .inr ⟨List.getElem?_eq_none_iff.mpr (Nat.le_refl _), ?_, rfl⟩
          refine List.mem_map.mpr ⟨(entry.endpoint, _), ?_, rfl⟩
          exact hentries ▸ List.mem_append_right _ (List.mem_singleton.mpr rfl)
        · exact .inl ⟨participant, hparticipant, rfl, rfl⟩
      · intro number hmember
        obtain ⟨pair, hentry, rfl⟩ := List.mem_map.mp hmember
        exact List.mem_map.mpr ⟨pair, hentries ▸ List.mem_append_left _ hentry, rfl⟩
  | update called state =>
      constructor
      · intro number participant hparticipant
        rw [participant?, conference_callParticipant hheld] at hparticipant
        obtain ⟨earlier, hearlier, hsame⟩ := Conference.getElem?_call hparticipant
        refine .inl ⟨earlier, hearlier, ?_⟩
        split at hsame
        · have hupdated := earlier.perform_update state
          exact ⟨hsame.1.trans hupdated.1, hsame.2.trans hupdated.2⟩
        · exact hsame
      · intro number hmember
        obtain ⟨⟨endpoint, same⟩, hentry, rfl⟩ := List.mem_map.mp hmember
        rw [conference_callParticipant hheld]
        have hstill : (endpoint, same) ∈
            (scene.conference.call called (.update state)).roster.entries :=
          Conference.mem_roster_call hentry fun _ hcall => by cases hcall
        exact List.mem_map.mpr ⟨_, hstill, rfl⟩
  | follow state hstate =>
      cases state with
      | disconnected => exact absurd rfl hstate
      | active | held =>
          refine .of_eq ?_ ?_ <;> simp only [applyHostState, conference_setState, conference_note]
      | _ => exact .of_eq rfl rfl
  | disconnect cause =>
      obtain ⟨hparticipants, hroster, -⟩ := people_setDisconnected cause scene
      exact .of_eq hparticipants hroster
  | _ => exact .of_eq rfl rfl

namespace Chronicle

theorem reaches (h : Chronicle start seen last) : Reaches start last := by
  induction h with
  | start => exact .refl
  | lull _ hlull ih => exact ih.tail hlull.step
  | incident incident _ ih => exact ih.trans incident.reaches

theorem way (h : Chronicle start seen last) {incident : Incident} (hmem : incident ∈ seen) :
    Reaches start incident.before ∧ Reaches incident.after last := by
  obtain ⟨earlier, later, hsplit⟩ := List.append_of_mem hmem
  exact ⟨(h.split hsplit).1.reaches, (h.split hsplit).2.reaches⟩

end Chronicle

theorem given_concat (number : Nat) (seen : List Incident) (incident : Incident) :
    given number (seen ++ [incident]) = given number seen ++ (incident.given? number).toList := by
  rw [given, given, List.filterMap_append]
  cases h : incident.given? number <;> simp [h]

theorem given?_of_not_called {incident : Incident} (h : ∀ call, incident ≠ .called call)
    (number : Nat) : incident.given? number = none := by
  cases incident with
  | called call => exact absurd rfl (h call)
  | _ => rfl

theorem Reaches.absent (hreach : Reaches scene next) (hheld : scene.dropped = false)
    (hnobody : next.participant? number = none) : scene.participant? number = none := by
  cases hbefore : scene.participant? number with
  | none => rfl
  | some before =>
      obtain ⟨later, hlater, -⟩ :=
        (Reaches.evolves hreach hheld).continues.participants number before hbefore
      rw [participant?, hlater] at hnobody
      cases hnobody

theorem cause_after_called {call : Call} (hheld : call.scene.dropped = false)
    {participant : Participant}
    (hafter : (Incident.called call).after.participant? number = some participant)
    (hgoes : participant.destroyed = false) :
    ∃ earlier, call.scene.participant? number = some earlier ∧ earlier.destroyed = false ∧
      participant.cause.toList =
        earlier.cause.toList ++ ((Incident.called call).given? number).toList := by
  have hcalled := hafter
  rw [participant?, Incident.after, conference_callParticipant hheld] at hcalled
  obtain ⟨earlier, hearlier, hsame⟩ := Conference.getElem?_call hcalled
  have hthen : earlier.Continues participant :=
    Reaches.continues (Incident.called call).reaches hheld hearlier hafter
  have halive : earlier.destroyed = false := by
    rw [← Bool.not_eq_true]
    intro hdestroyed
    rw [hthen.destroyed hdestroyed] at hgoes
    cases hgoes
  refine ⟨earlier, hearlier, halive, ?_⟩
  by_cases hself : number = call.number
  · subst hself
    have hsucceeds : call.succeeds = (earlier.perform (.call call.asked)).accepted := by
      rw [Call.succeeds, accepts, participant?, hearlier]
      rfl
    rw [if_pos rfl] at hsame
    simp only [hsame.2, Participant.cause_perform_call halive, Incident.given?, true_and,
      hsucceeds]
  · rw [if_neg hself] at hsame
    simp [hsame.2, Incident.given?, Ne.symm hself]

namespace Chronicle

/-- As long as a participant goes on, its cause is what was given to it from outside. -/
theorem given_eq (h : Chronicle start seen last) (hstart : start.Orderly)
    (hnobody : start.conference.participants = []) (number : Nat) :
    (∀ participant, last.participant? number = some participant → participant.destroyed = false →
      given number seen = participant.cause.toList) ∧
    (last.participant? number = none → given number seen = []) := by
  induction h with
  | start =>
      refine ⟨fun participant hparticipant => ?_, fun _ => rfl⟩
      simp [participant?, hnobody] at hparticipant
  | lull hbefore hlull ih =>
      have hheld := (hbefore.reaches.orderly hstart).held
      refine ⟨fun participant hparticipant hgoes => ?_, fun hnone =>
        ih.2 (Reaches.absent hlull.step.reaches hheld hnone)⟩
      rcases (hlull.shelters hheld).found hparticipant with
        ⟨earlier, hearlier, hdestroyed, hcause⟩ | ⟨hnone, -, hcause⟩
      · rw [hcause]
        exact ih.1 earlier hearlier (hdestroyed ▸ hgoes)
      · rw [hcause]
        exact ih.2 hnone
  | incident incident hbefore ih =>
      have horderly := hbefore.reaches.orderly hstart
      rw [given_concat]
      by_cases hcalled : ∃ call, incident = .called call
      · obtain ⟨call, rfl⟩ := hcalled
        constructor
        · intro participant hparticipant hgoes
          obtain ⟨earlier, hearlier, halive, hcause⟩ :=
            cause_after_called horderly.held hparticipant hgoes
          rw [hcause, ih.1 earlier hearlier halive]
        · intro hnone
          have hearlier : call.scene.participant? number = none :=
            Reaches.absent (Incident.called call).reaches horderly.held hnone
          have hrefused : ¬ (call.number = number ∧ call.succeeds = true) := by
            rintro ⟨rfl, hsucceeds⟩
            simp [Call.succeeds, accepts, hearlier] at hsucceeds
          rw [ih.2 hearlier, Incident.given?, if_neg hrefused]
          rfl
      · rw [given?_of_not_called (not_exists.mp hcalled), Option.toList_none, List.append_nil]
        have hsorts := Incident.sorts horderly (not_exists.mp hcalled) number
        refine ⟨fun participant hparticipant hgoes => ?_, fun hnone =>
          ih.2 (Reaches.absent incident.reaches horderly.held hnone)⟩
        have hkept : ¬ incident.Drops number := by
          intro hdrops
          obtain ⟨earlier, -, -, hdismantled⟩ := hdrops.dismantled horderly
          rw [hdismantled] at hparticipant
          cases hparticipant
          cases hgoes
        exact ih.1 participant ((hsorts.kept hkept).symm.trans hparticipant) hgoes

theorem refused (h : Chronicle start seen last) (hheld : start.dropped = false)
    {participant : Participant} (hfound : start.participant? number = some participant)
    (hgone : participant.destroyed = true) {call : Call} (hmem : .called call ∈ seen)
    (hself : call.number = number) : call.succeeds = false ∧ call.tells = false := by
  subst hself
  obtain ⟨later, hlater, hthen⟩ := (Reaches.evolves (h.way hmem).1 hheld).continues.participants
    call.number participant hfound
  have hcalled : call.scene.participant? call.number = some later := hlater
  have hrefused : later.perform (.call call.asked) = later.unchanged :=
    Participant.perform_call_of_destroyed (hthen.destroyed hgone) call.asked
  rw [Call.succeeds, Call.tells, accepts, hcalled, Option.any_some, Option.any_some, hrefused]
  simp [Participant.unchanged]

theorem given_eq_nil (h : Chronicle start seen last) (hheld : start.dropped = false)
    {participant : Participant} (hfound : start.participant? number = some participant)
    (hgone : participant.destroyed = true) : given number seen = [] := by
  refine List.filterMap_eq_nil_iff.mpr fun incident hmem => ?_
  cases incident with
  | called call =>
      refine if_neg ?_
      rintro ⟨hself, hsucceeds⟩
      rw [(h.refused hheld hfound hgone hmem hself).1] at hsucceeds
      cases hsucceeds
  | _ => rfl

end Chronicle

end Scene

namespace Scene

variable {start scene last : Scene} {number : Nat} {seen earlier later : List Incident}
  {incident : Incident}

/-- How someone is found whom an incident dropped. -/
structure TakenDown (number : Nat) (earlier : List Incident) (incident : Incident)
    (later : List Incident) (last : Scene) (participant : Participant)
    (cause : DisconnectCause) : Prop where
  found : last.participant? number = some participant
  left : number ∉ last.conference.roster.members
  destroyed : participant.destroyed = true
  detached : participant.attached = false
  disconnected : participant.state = .disconnected
  caused : participant.cause = some cause
  /-- The cause is the one that somebody gave in time; otherwise the conference gives one. -/
  given : given number earlier = [cause] ∨ given number earlier = [] ∧ cause = .aborted
  refused : ConferenceBridge.given number (incident :: later) = []
  removed : (Effect.about number last.history).filter Change.isRemoval =
    [.participantRemoved participant.endpoint]
  told : (Effect.about number last.history).filter Change.isDisconnection =
    [.participantDisconnected participant.endpoint cause]
  ended : ∃ call ∈ incident.calls, call.number = number ∧ call.asked = .destroy ∧
    call.succeeds = true
  untold : ∀ happened ∈ earlier ++ incident :: later, ∀ call ∈ happened.calls,
    call.number = number → call.tells = false

namespace Chronicle

theorem tells_of_live (h : Chronicle start seen last) (hstart : start.Orderly)
    {participant : Participant} (hfound : last.participant? number = some participant)
    (hlive : participant.IsLive) {call : Call} (hmem : .called call ∈ seen)
    (hself : call.number = number) : call.tells = false := by
  subst hself
  rw [← Bool.not_eq_true]
  intro htells
  obtain ⟨called, hcalled, hdestroyed⟩ := Call.destroyed_of_tells htells
  have hcall := Reaches.orderly ((h.way hmem).1.trans (Incident.called call).reaches) hstart
  have hgone := (Reaches.continues (h.way hmem).2 hcall.held hcalled hfound).destroyed hdestroyed
  rw [hlive.destroyed] at hgone
  cases hgone

/-- Whoever an incident drops was live before, and nobody gets through to them after it. -/
theorem untold (hearlier : Chronicle start earlier incident.before)
    (hlater : Chronicle incident.after later last) (hstart : start.Orderly)
    (hcalled : ∀ call, incident ≠ .called call) {participant : Participant}
    (hfound : incident.before.participant? number = some participant) (hlive : participant.IsLive)
    (hdismantled : incident.after.participant? number = some participant.dismantled) :
    ∀ happened ∈ earlier ++ incident :: later, ∀ call ∈ happened.calls,
      call.number = number → call.tells = false := by
  have hafter := incident.reaches.orderly (hearlier.reaches.orderly hstart)
  intro happened hhappened call hcall hself
  cases happened with
  | called other =>
      obtain rfl : call = other := List.mem_singleton.mp hcall
      rcases List.mem_append.mp hhappened with hmem | hmem
      · exact hearlier.tells_of_live hstart hfound hlive hmem hself
      · have hmem := (List.mem_cons.mp hmem).resolve_left fun heq => hcalled call heq.symm
        exact (hlater.refused hafter.held hdismantled rfl hmem hself).2
  | _ => exact Incident.tells_of_mem_calls (fun _ => Incident.noConfusion) hcall

theorem takenDown (h : Chronicle start seen last) (hstart : start.Orderly)
    (hnobody : start.conference.participants = []) (hsplit : seen = earlier ++ incident :: later)
    (hdrops : incident.Drops number) :
    ∃ participant cause, TakenDown number earlier incident later last participant cause := by
  obtain ⟨hearlier, hlater⟩ := h.split hsplit
  have hbefore := hearlier.reaches.orderly hstart
  have hafter := incident.reaches.orderly hbefore
  have hlast := hlater.reaches.orderly hafter
  have hcalled := hdrops.ne_called
  obtain ⟨before, hfound, hlive, hdismantled⟩ := hdrops.dismantled hbefore
  obtain ⟨final, hfinal, hthen⟩ :=
    (Reaches.evolves hlater.reaches hafter.held).continues.participants number _ hdismantled
  have htraced : final.Traced number last.history := hlast.attributed.traced number final hfinal
  have hcause : final.cause = some (before.cause.getD .aborted) := by
    have hset : before.dismantled.cause = some (before.cause.getD .aborted) := by
      cases hgiven : before.cause <;> simp [Participant.dismantled, hlive.destroyed, hgiven]
    rw [hthen.cause (by simp [hset]), hset]
  have hdetached : final.attached = false := hthen.detached rfl
  refine ⟨final, before.cause.getD .aborted, ?_⟩
  exact {
    found := hfinal
    left := hlast.not_member_of_detached hfinal hdetached
    destroyed := hthen.destroyed rfl
    detached := hdetached
    disconnected := htraced.final (by simp [hcause])
    caused := hcause
    given := by
      rw [(hearlier.given_eq hstart hnobody number).1 before hfound hlive.destroyed]
      cases before.cause with
      | none => exact .inr ⟨rfl, rfl⟩
      | some cause => exact .inl rfl
    refused := by
      rw [given, List.filterMap_cons_none (given?_of_not_called hcalled number)]
      exact hlater.given_eq_nil hafter.held hdismantled rfl
    removed := by
      rw [htraced.removed, hdetached]
      rfl
    told := by
      rw [htraced.disconnected, hcause]
      rfl
    ended := hdrops.exists_destroy hbefore
    untold := hearlier.untold hlater hstart hcalled hfound hlive hdismantled }

/-- Whoever is not taking part any more was dropped, or destroyed from outside. -/
theorem stays_or_left (h : Chronicle start seen last) (hstart : start.Orderly)
    (hnobody : start.conference.participants = []) {participant : Participant}
    (hfound : last.participant? number = some participant) :
    number ∈ last.conference.roster.members ∨
      ∃ incident ∈ seen, incident.Drops number ∨ incident.Destroys number := by
  induction h generalizing participant with
  | start => simp [participant?, hnobody] at hfound
  | lull hbefore hlull ih =>
      have hshelters := hlull.shelters (hbefore.reaches.orderly hstart).held
      rcases hshelters.found hfound with ⟨earlier, hearlier, -⟩ | ⟨-, hmember, -⟩
      · exact (ih hearlier).imp_left hshelters.stays
      · exact .inl hmember
  | incident incident hbefore ih =>
      have horderly := hbefore.reaches.orderly hstart
      obtain ⟨earlier, hearlier⟩ := incident.found_before horderly hfound
      rcases ih hearlier with hmember | ⟨other, hother, hleft⟩
      · rcases incident.stays_or_left horderly hmember with hstays | hleft
        · exact .inl hstays
        · exact .inr ⟨incident, List.mem_append_right _ (.head _), hleft⟩
      · exact .inr ⟨other, List.mem_append_left _ hother, hleft⟩

end Chronicle

variable {id : ConferenceId} {config : ConferenceConfig} {handle : Handle}
  {requests : List Request}

end Scene

end ConferenceBridge
