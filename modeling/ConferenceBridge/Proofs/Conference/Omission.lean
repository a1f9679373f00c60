import ConferenceBridge.Proofs.Conference.Attribution
import ConferenceBridge.Proofs.Conference.Incident

namespace ConferenceBridge

/-! What one incident does to participants. Whom a list leaves out, and who takes part when the
conference ends, is taken down without the conference being told of it; all others stay as they are.
A call from outside touches nobody but the one who is called. -/

namespace Conference

theorem getElem?_dismissAll (conference : Conference) (number : Nat) :
    conference.dismissAll.participants[number]? =
      conference.participants[number]?.map fun participant =>
        if number ∈ conference.roster.members then participant.dismantled else participant := by
  rw [dismissAll, participants_refreshManage, getElem?_dismantle]

theorem getElem?_tearDown {conference : Conference} (h : conference.tornDown = false)
    (number : Nat) :
    conference.tearDown.participants[number]? =
      conference.participants[number]?.map fun participant =>
        if number ∈ conference.roster.members then participant.dismantled else participant := by
  rw [tearDown, if_neg (by simp [h])]
  exact getElem?_dismissAll { conference with tornDown := true } number

theorem getElem?_forget {number other : Nat} {participant : Participant} {conference : Conference}
    (h : (conference.forget number).participants[other]? = some participant) :
    ∃ before, conference.participants[other]? = some before ∧
      participant.destroyed = before.destroyed ∧ participant.cause = before.cause := by
  unfold forget at h
  split at h
  · exact ⟨participant, h, rfl, rfl⟩
  · split at h
    · exact ⟨participant, h, rfl, rfl⟩
    · rw [participants_refreshManage, getElem?_modify, Option.map_eq_some_iff] at h
      obtain ⟨before, hbefore, rfl⟩ := h
      refine ⟨before, hbefore, ?_⟩
      split
      · simp only [Participant.perform, Participant.detach, Participant.unchanged]
        split <;> exact ⟨rfl, rfl⟩
      · exact ⟨rfl, rfl⟩

theorem getElem?_call {number other : Nat} {call : ParticipantCall} {participant : Participant}
    {conference : Conference}
    (h : (conference.call number call).participants[other]? = some participant) :
    ∃ before, conference.participants[other]? = some before ∧
      let called := if other = number then (before.perform (.call call)).participant else before
      participant.destroyed = called.destroyed ∧ participant.cause = called.cause := by
  obtain ⟨called, hcalled, hsame⟩ : ∃ called, (conference.modify number fun participant =>
      (participant.perform (.call call)).participant).participants[other]? = some called ∧
        participant.destroyed = called.destroyed ∧ participant.cause = called.cause := by
    unfold Conference.call at h
    dsimp only at h
    split at h
    · exact getElem?_forget h
    · exact ⟨participant, h, rfl, rfl⟩
  rw [getElem?_modify, Option.map_eq_some_iff] at hcalled
  obtain ⟨before, hbefore, rfl⟩ := hcalled
  exact ⟨before, hbefore, hsame⟩

theorem mem_roster_call {number other : Nat} {endpoint : Endpoint} {call : ParticipantCall}
    {conference : Conference} (hmem : (endpoint, other) ∈ conference.roster.entries)
    (hspared : other = number → call ≠ .destroy) :
    (endpoint, other) ∈ (conference.call number call).roster.entries := by
  unfold Conference.call
  dsimp only
  split
  · rename_i hnotifies
    obtain ⟨participant, -, hnotified⟩ := (Option.any_eq_true _ _).mp hnotifies
    have hne : other ≠ number := fun heq =>
      hspared heq (Participant.eq_destroy_of_notifies hnotified)
    unfold forget
    split
    · exact hmem
    · split
      · exact hmem
      · rename_i roster herase
        rw [roster_refreshManage]
        change (endpoint, other) ∈ roster.entries
        rw [Roster.eraseIf?] at herase
        split at herase
        · rename_i hlisted
          cases herase
          refine List.mem_filter.mpr ⟨hmem, ?_⟩
          rw [bne_iff_ne]
          rintro rfl
          exact hne (Roster.unique hmem (Roster.get?_eq_some_iff.mp hlisted))
        · cases herase
  · exact hmem
theorem participants_tearDown {conference : Conference}
    (hended : conference.tornDown = true → conference.roster.entries = []) (number : Nat) :
    (number ∈ conference.roster.members → conference.tearDown.participants[number]? =
      conference.participants[number]?.map Participant.dismantled) ∧
    (number ∉ conference.roster.members →
      conference.tearDown.participants[number]? = conference.participants[number]?) := by
  cases htorn : conference.tornDown with
  | true =>
      have hsame : conference.tearDown = conference := by simp [Conference.tearDown, htorn]
      rw [hsame]
      refine ⟨fun hmember => ?_, fun _ => rfl⟩
      rw [Roster.members, hended htorn] at hmember
      cases hmember
  | false =>
      rw [Conference.getElem?_tearDown htorn]
      exact ⟨fun hmember => by simp only [if_pos hmember],
        fun hmember => by simp only [if_neg hmember, Option.map_id']⟩

end Conference

theorem Participant.perform_update (participant : Participant) (next : ConnectionState) :
    let outcome := participant.perform (.call (.update next))
    outcome.participant.destroyed = participant.destroyed ∧
      outcome.participant.cause = participant.cause := by
  simp only [perform, update, unchanged]
  repeat' split
  all_goals exact ⟨rfl, rfl⟩

theorem Participant.perform_call_of_destroyed {participant : Participant}
    (h : participant.destroyed = true) (call : ParticipantCall) :
    participant.perform (.call call) = participant.unchanged := by
  cases call <;> simp [perform, update, disconnect, destroy, h]

theorem Participant.accepted_destroy (participant : Participant) :
    (participant.perform (.call .destroy)).accepted = !participant.destroyed := by
  simp only [perform, destroy, unchanged]
  split <;> simp_all

theorem Participant.destroyed_perform {operation : Operation} (h : operation ≠ .call .destroy)
    (participant : Participant) :
    (participant.perform operation).participant.destroyed = participant.destroyed := by
  cases operation with
  | call call =>
      have hcall : call ≠ .destroy := fun heq => h (congrArg Operation.call heq)
      exact (perform_call_of_ne_destroy hcall participant).2.1
  | unobserve | detach =>
      simp only [perform, unobserve, detach, unchanged]
      split <;> rfl

theorem Participant.notifies_destroy {participant : Participant} (hlive : participant.IsLive) :
    (participant.perform (.call .destroy)).notifies = true := by
  simp [perform, destroy, hlive.destroyed, hlive.observed]

namespace Scene

variable {scene next : Scene} {number : Nat}

/-- What holds of every scene of a conference that someone holds. -/
structure Orderly (scene : Scene) : Prop where
  held : scene.dropped = false
  coherent : scene.conference.Coherent
  closes : scene.conference.Closes
  attributed : scene.Attributed

theorem Reaches.orderly (h : Reaches scene next) (horderly : scene.Orderly) : next.Orderly where
  held := (Reaches.dropped_eq h).trans horderly.held
  coherent := (Reaches.evolves h horderly.held).coherent horderly.coherent
  closes := (Reaches.evolves h horderly.held).closes horderly.closes
  attributed := Reaches.attributed h horderly.held horderly.coherent horderly.attributed

theorem orderly_openOver (id : ConferenceId) (config : ConferenceConfig) (handle : Handle) :
    (openOver id config handle).Orderly where
  held := rfl
  coherent := .of_no_participants rfl rfl
  closes := ⟨fun _ => rfl, fun h => by cases h⟩
  attributed := by
    constructor
    · intro publication hmem
      simp [openOver, noteHost, note, record, Effect.publication?] at hmem
    · intro number participant hparticipant
      simp [openOver, noteHost, note, record] at hparticipant

theorem Orderly.open_of_member (h : scene.Orderly)
    (hmember : number ∈ scene.conference.roster.members) : scene.conference.tornDown = false := by
  rw [← Bool.not_eq_true]
  intro htorn
  rw [Roster.members, (h.closes.ended htorn).roster] at hmember
  cases hmember

theorem Orderly.live_of_member (h : scene.Orderly)
    (hmember : number ∈ scene.conference.roster.members) :
    ∃ participant, scene.participant? number = some participant ∧ participant.IsLive := by
  obtain ⟨⟨endpoint, same⟩, hentry, rfl⟩ := List.mem_map.mp hmember
  obtain ⟨participant, hparticipant, -, hlive⟩ := h.coherent.listed endpoint same hentry
  exact ⟨participant, hparticipant, hlive⟩

theorem Orderly.not_member_of_detached (h : scene.Orderly) {participant : Participant}
    (hfound : scene.participant? number = some participant)
    (hdetached : participant.attached = false) :
    number ∉ scene.conference.roster.members := by
  intro hmember
  obtain ⟨listed, hlisted, hlive⟩ := h.live_of_member hmember
  obtain rfl : listed = participant := Option.some.inj (hlisted.symm.trans hfound)
  rw [hlive.attached] at hdetached
  cases hdetached

theorem people_setDisconnected (cause : DisconnectCause) (scene : Scene) :
    (scene.setDisconnected cause).conference.participants = scene.conference.participants ∧
      (scene.setDisconnected cause).conference.roster = scene.conference.roster ∧
      (scene.setDisconnected cause).conference.tornDown = scene.conference.tornDown := by
  cases hcause : scene.conference.cause with
  | none =>
      rw [conference_setDisconnected hcause]
      exact ⟨rfl, rfl, rfl⟩
  | some first =>
      rw [setDisconnected_of_cause (by simp [hcause])]
      exact ⟨rfl, rfl, rfl⟩

theorem people_applyHostState_disconnected (scene : Scene) :
    ∃ conference : Conference, conference.participants = scene.conference.participants ∧
      conference.roster = scene.conference.roster ∧
      conference.tornDown = scene.conference.tornDown ∧
      (scene.applyHostState .disconnected).conference = conference.tearDown := by
  let noted := scene.note (.hostState .disconnected)
  let cause := (noted.conference.host.cause noted.handle).disconnectCause
  obtain ⟨hparticipants, hroster, htornDown⟩ := people_setDisconnected cause noted
  exact ⟨_, hparticipants, hroster, htornDown, conference_tearDown _⟩

theorem Reaches.continues (hreach : Reaches scene next) (hheld : scene.dropped = false)
    {before after : Participant} (hbefore : scene.participant? number = some before)
    (hafter : next.participant? number = some after) : before.Continues after := by
  obtain ⟨later, hlater, hthen⟩ :=
    (Reaches.evolves hreach hheld).continues.participants number before hbefore
  rw [participant?, hlater] at hafter
  cases hafter
  exact hthen

theorem participant?_callParticipant (hheld : scene.dropped = false) {before : Participant}
    (hbefore : scene.participant? number = some before) (call : ParticipantCall) :
    ∃ after, (scene.callParticipant number call).participant? number = some after ∧
      after.destroyed = (before.perform (.call call)).participant.destroyed ∧
      after.cause = (before.perform (.call call)).participant.cause := by
  obtain ⟨after, hafter, -⟩ := (Conference.continues_call number call scene.conference).participants
    number before hbefore
  obtain ⟨same, hsame, hcalled⟩ := Conference.getElem?_call hafter
  rw [participant?, hsame] at hbefore
  cases hbefore
  rw [if_pos rfl] at hcalled
  rw [participant?, conference_callParticipant hheld]
  exact ⟨after, hafter, hcalled⟩

theorem Call.live_of_tells {call : Call} (h : call.tells = true) :
    ∃ participant, call.scene.participant? call.number = some participant ∧
      participant.destroyed = false := by
  obtain ⟨participant, hparticipant, hnotifies⟩ :=
    (Option.any_eq_true _ _).mp ((Bool.and_eq_true _ _).mp h).2
  refine ⟨participant, hparticipant, ?_⟩
  rw [← Bool.not_eq_true]
  intro hgone
  rw [Participant.perform_call_of_destroyed hgone] at hnotifies
  cases hnotifies

theorem Call.destroyed_of_tells {call : Call} (h : call.tells = true) :
    ∃ participant, (Incident.called call).after.participant? call.number = some participant ∧
      participant.destroyed = true := by
  simp only [Call.tells, Bool.and_eq_true, Bool.not_eq_true', Option.any_eq_true] at h
  obtain ⟨hheld, before, hbefore, hnotifies⟩ := h
  obtain ⟨after, hafter, hdestroyed, -⟩ := participant?_callParticipant hheld hbefore call.asked
  refine ⟨after, hafter, ?_⟩
  rw [hdestroyed, Participant.eq_destroy_of_notifies hnotifies]
  simp only [Participant.perform, Participant.destroy, Participant.unchanged]
  split
  · assumption
  · rfl

/-! The conference has stopped to observe those whom it takes down. -/

theorem callParticipant_disconnect (number : Nat) (cause : DisconnectCause) (scene : Scene) :
    scene.callParticipant number (.disconnect cause) =
      scene.operate number (.call (.disconnect cause)) := by
  rcases callParticipant_eq_or number (.disconnect cause) scene with h | ⟨habsurd, -⟩
  · exact h
  · cases habsurd

theorem participant?_after_operate (number : Nat) (operation : Participant.Operation)
    (scene : Scene) (other : Nat) :
    (scene.operate number operation).participant? other =
      (scene.participant? other).map fun participant =>
        if other = number then (participant.perform operation).participant else participant := by
  rw [participant?, conference_operate, Conference.getElem?_modify]
  rfl

theorem tells_of_mem_dismantleCalls {entry : Endpoint × Nat} {call : Call}
    (hmem : call ∈ scene.dismantleCalls entry) : call.tells = false := by
  have hsilent : ∀ participant, call.scene.participant? call.number = some participant →
      (participant.perform (.call call.asked)).notifies = false := by
    intro participant hparticipant
    rw [dismantleCalls, List.mem_cons, List.mem_singleton] at hmem
    rcases hmem with rfl | rfl
    · rw [← Bool.not_eq_true]
      intro hnotifies
      cases Participant.eq_destroy_of_notifies hnotifies
    · simp only [callParticipant_disconnect, participant?_after_operate, if_true, Option.map_map,
        Option.map_eq_some_iff, Function.comp_apply] at hparticipant
      obtain ⟨before, -, rfl⟩ := hparticipant
      have hunobserved : (before.perform .unobserve).participant.observed = false := by
        simp only [Participant.perform, Participant.unobserve, Participant.unchanged]
        split <;> simp_all
      exact Participant.notifies_perform_of_not_observed <|
        (Participant.continues_perform _ (.call (.disconnect .aborted))).unobserved <|
          (Participant.continues_perform _ .detach).unobserved hunobserved
  unfold Call.tells
  cases hparticipant : call.scene.participant? call.number with
  | none => simp
  | some participant => simp [hsilent participant hparticipant]

theorem tells_of_mem_dismantleAllCalls {entries : List (Endpoint × Nat)} {call : Call}
    (hmem : call ∈ scene.dismantleAllCalls entries) : call.tells = false := by
  induction entries generalizing scene with
  | nil => cases hmem
  | cons entry entries ih =>
      rcases List.mem_append.mp hmem with hhead | htail
      · exact tells_of_mem_dismantleCalls hhead
      · exact ih htail

theorem exists_destroy_of_mem {entries : List (Endpoint × Nat)} {participant : Participant}
    (hmem : number ∈ entries.map Prod.snd) (hfound : scene.participant? number = some participant)
    (hgoes : participant.destroyed = false) :
    ∃ call ∈ scene.dismantleAllCalls entries, call.number = number ∧ call.asked = .destroy ∧
      call.succeeds = true := by
  induction entries generalizing scene with
  | nil => cases hmem
  | cons entry entries ih =>
      by_cases hself : number = entry.2
      · subst hself
        refine ⟨_, List.mem_append_left _ (.tail _ (.head _)), rfl, rfl, ?_⟩
        simp only [Call.succeeds, accepts, callParticipant_disconnect, participant?_after_operate,
          hfound, if_true, Option.map_some, Option.any_some, Participant.accepted_destroy]
        rw [Participant.destroyed_perform (by simp), Participant.destroyed_perform (by simp),
          Participant.destroyed_perform (by simp), hgoes]
        rfl
      · have hother : (scene.dismantle entry).participant? number = some participant := by
          rw [participant?, conference_dismantle, Conference.getElem?_modify]
          simp only [if_neg hself, Option.map_id']
          exact hfound
        have htail := (List.mem_cons.mp hmem).resolve_left hself
        obtain ⟨call, hcall, hdestroys⟩ := ih htail hother
        exact ⟨call, List.mem_append_right _ hcall, hdestroys⟩

theorem exists_destroy_tearDown (hopen : scene.conference.tornDown = false)
    (hmember : number ∈ scene.conference.roster.members) {participant : Participant}
    (hfound : scene.participant? number = some participant)
    (hgoes : participant.destroyed = false) :
    ∃ call ∈ scene.tearDownCalls, call.number = number ∧ call.asked = .destroy ∧
      call.succeeds = true := by
  rw [tearDownCalls, if_neg (Bool.eq_false_iff.mp hopen)]
  refine exists_destroy_of_mem hmember ?_ hgoes
  split <;> exact hfound

end Scene

namespace Incident

open Scene

variable {number : Nat} {incident : Incident}

theorem after_listed {depth : Nat} {entries : List Snapshot} {scene : Scene}
    (hopen : scene.conference.tornDown = false) :
    (listed depth entries scene).after =
      if (scene.walked depth entries).bringUp.conference.tornDown then
        ((scene.walked depth entries).finishTornDown (scene.walked depth entries).bringUp).1
      else ((scene.walked depth entries).finish (scene.walked depth entries).bringUp).1 := by
  simp only [after, reconcileWith, hopen, Bool.false_eq_true, if_false]
  exact apply_ite Prod.fst _ _ _

theorem reaches (incident : Incident) : Reaches incident.before incident.after := by
  cases incident with
  | called call => exact (Step.call call.number call.asked).reaches
  | listed depth entries scene =>
      cases htorn : scene.conference.tornDown with
      | true =>
          rw [before, walked_of_tornDown htorn, after, reconcileWith, if_pos htorn]
          exact (Step.remark _ rfl).reaches
      | false =>
          rw [before, after_listed htorn]
          split
          · rename_i hend
            exact walkClosed_reaches.finishTornDown hend _
          · rename_i hend
            exact walkClosed_reaches.finish (Bool.eq_false_iff.mpr hend) _
  | hungUp scene => exact (Step.follow .disconnected).reaches
  | destroyed scene => exact Step.tearDown.reaches

/-- A conference that ended has nobody who could still be left out. -/
theorem conference_after_listed {depth : Nat} {entries : List Snapshot} {scene : Scene}
    (hbefore : (listed depth entries scene).before.Orderly) :
    let walk := scene.walked depth entries
    let after := (listed depth entries scene).after.conference
    (walk.bringUp.conference.tornDown = true ∧ walk.bringUp.conference.roster.entries = [] ∧
      after.participants = walk.bringUp.conference.participants) ∨
    (walk.bringUp.conference.tornDown = false ∧
      after.roster = (walk.bringUp.conference.keep walk.reported).roster ∧
      after.participants = (walk.bringUp.conference.keep walk.reported).participants) := by
  intro walk after
  have hnobody (htorn : walk.bringUp.conference.tornDown = true) :
      walk.bringUp.conference.roster.entries = [] := (hbefore.closes.ended htorn).roster
  cases htorn : scene.conference.tornDown with
  | true =>
      have hwalk : walk = { scene } := walked_of_tornDown htorn depth entries
      have hafter : after = scene.conference := by
        simp only [after, Incident.after, reconcileWith, if_pos htorn, conference_note]
      have hend : walk.bringUp.conference.tornDown = true := by
        rw [hwalk]
        exact htorn
      refine .inl ⟨hend, hnobody hend, ?_⟩
      rw [hafter, hwalk]
      rfl
  | false =>
      have hafter : (listed depth entries scene).after = if walk.bringUp.conference.tornDown then
          (walk.finishTornDown walk.bringUp).1 else (walk.finish walk.bringUp).1 :=
        after_listed htorn
      cases hend : walk.bringUp.conference.tornDown with
      | true =>
          refine .inl ⟨rfl, hnobody hend, ?_⟩
          rw [if_pos hend] at hafter
          have hdismissed : after = walk.bringUp.conference.dismissAll :=
            (congrArg Scene.conference hafter).trans (conference_dismissAll _)
          rw [hdismissed, Conference.dismissAll, Conference.participants_refreshManage,
            Roster.members, hnobody hend]
          rfl
      | false =>
          rw [if_neg (Bool.eq_false_iff.mp hend)] at hafter
          have hkept := walk.conference_finish walk.bringUp
          refine .inr ⟨rfl, ?_, ?_⟩
          · rw [← hkept.1]
            exact congrArg (fun scene => scene.conference.roster) hafter
          · rw [← hkept.2]
            exact congrArg (fun scene => scene.conference.participants) hafter

def Destroys (number : Nat) : Incident → Prop
  | called call => call.number = number ∧ call.asked = .destroy ∧ call.tells = true
  | _ => False

/-- Whoever is dropped is taken down, and everyone else stays as they are. -/
structure Sorts (number : Nat) (incident : Incident) : Prop where
  dropped : incident.Drops number → incident.after.participant? number =
    (incident.before.participant? number).map Participant.dismantled
  kept : ¬ incident.Drops number →
    incident.after.participant? number = incident.before.participant? number
  stays : ¬ incident.Drops number → number ∈ incident.before.conference.roster.members →
    number ∈ incident.after.conference.roster.members

theorem drops_listed {depth : Nat} {entries : List Snapshot} {scene : Scene}
    (hheld : (listed depth entries scene).before.dropped = false)
    (hopen : (scene.walked depth entries).bringUp.conference.tornDown = false) (number : Nat) :
    (listed depth entries scene).Drops number ↔
      number ∈ ((scene.walked depth entries).bringUp.conference.roster.splitBy
        (scene.walked depth entries).reported).2.map Prod.snd := by
  have hwalk : Reaches scene (listed depth entries scene).before :=
    (walkClosed_reaches.walk (reactAt_nil depth) (walkClosed_reaches.reactAt depth) entries
      { scene }).trans (reaches_bringUp _)
  have hreported := reported_walked ((Reaches.dropped_eq hwalk).symm.trans hheld) hopen
  simp only [Roster.splitBy, List.mem_map, List.mem_filter, decide_eq_true_eq, Prod.exists,
    exists_eq_right, hreported, Drops]

theorem sorts_listed {depth : Nat} {entries : List Snapshot} {scene : Scene}
    (hbefore : (listed depth entries scene).before.Orderly) (number : Nat) :
    (listed depth entries scene).Sorts number := by
  rcases conference_after_listed hbefore with
    ⟨-, hnobody, hsame⟩ | ⟨hopen, hroster, hparticipants⟩
  · constructor
    · rintro ⟨endpoint, hmember, -⟩
      rw [hnobody] at hmember
      cases hmember
    · intro _
      rw [participant?, hsame]
      rfl
    · intro _ hmember
      rw [Roster.members, before, hnobody] at hmember
      cases hmember
  · have hdrops := drops_listed hbefore.held hopen number
    rw [Conference.keep] at hroster hparticipants
    constructor
    · intro hdropped
      rw [participant?, hparticipants, Conference.getElem?_dismantle]
      simp only [if_pos (hdrops.mp hdropped)]
      rfl
    · intro hkept
      rw [participant?, hparticipants, Conference.getElem?_dismantle]
      simp only [if_neg (mt hdrops.mpr hkept), Option.map_id']
      rfl
    · intro hkept hmember
      obtain ⟨⟨endpoint, same⟩, hentry, rfl⟩ := List.mem_map.mp hmember
      rw [Roster.members, hroster, Conference.dismantle_eq]
      refine List.mem_map.mpr ⟨_, List.mem_filter.mpr ⟨hentry, decide_eq_true ?_⟩, rfl⟩
      refine Decidable.of_not_not fun hmissing => hkept (hdrops.mpr ?_)
      exact List.mem_map.mpr ⟨_, List.mem_filter.mpr ⟨hentry, decide_eq_true hmissing⟩, rfl⟩

theorem sorts (hbefore : incident.before.Orderly) (hcalled : ∀ call, incident ≠ called call)
    (number : Nat) : incident.Sorts number := by
  cases incident with
  | called call => exact absurd rfl (hcalled call)
  | listed depth entries scene => exact sorts_listed hbefore number
  | hungUp scene =>
      obtain ⟨conference, hparticipants, hroster, htornDown, hafter⟩ :=
        people_applyHostState_disconnected scene
      have hended (htorn : conference.tornDown = true) : conference.roster.entries = [] := by
        rw [hroster]
        exact (hbefore.closes.ended (htornDown ▸ htorn)).roster
      have hpeople := Conference.participants_tearDown hended number
      rw [hparticipants, hroster, ← hafter] at hpeople
      exact ⟨hpeople.1, hpeople.2, fun hkept hmember => absurd hmember hkept⟩
  | destroyed scene =>
      have hpeople := Conference.participants_tearDown
        (fun htorn => (hbefore.closes.ended htorn).roster) number
      rw [← conference_tearDown] at hpeople
      exact ⟨hpeople.1, hpeople.2, fun hkept hmember => absurd hmember hkept⟩

theorem Drops.ne_called (h : incident.Drops number) (call : Scene.Call) :
    incident ≠ called call := by
  rintro rfl
  cases h

theorem Drops.member (h : incident.Drops number) :
    number ∈ incident.before.conference.roster.members := by
  cases incident with
  | called call => cases h
  | listed depth entries scene =>
      obtain ⟨endpoint, hentry, -⟩ := h
      exact List.mem_map.mpr ⟨_, hentry, rfl⟩
  | hungUp scene | destroyed scene => exact h

theorem Drops.dismantled (h : incident.Drops number) (hbefore : incident.before.Orderly) :
    ∃ earlier, incident.before.participant? number = some earlier ∧ earlier.IsLive ∧
      incident.after.participant? number = some earlier.dismantled := by
  obtain ⟨earlier, hearlier, hlive⟩ := hbefore.live_of_member h.member
  refine ⟨earlier, hearlier, hlive, ?_⟩
  rw [(sorts hbefore h.ne_called number).dropped h, hearlier]
  rfl

theorem tells_of_mem_calls (hcalled : ∀ call, incident ≠ called call) {call : Scene.Call}
    (hmem : call ∈ incident.calls) : call.tells = false := by
  have htornDown {scene : Scene} (hmem : call ∈ scene.tearDownCalls) : call.tells = false := by
    unfold Scene.tearDownCalls at hmem
    split at hmem
    · cases hmem
    · exact tells_of_mem_dismantleAllCalls hmem
  cases incident with
  | called other => exact absurd rfl (hcalled other)
  | listed depth entries scene =>
      simp only [calls] at hmem
      split at hmem <;> exact tells_of_mem_dismantleAllCalls hmem
  | hungUp scene => exact htornDown hmem
  | destroyed scene => exact htornDown hmem

theorem Drops.exists_destroy (h : incident.Drops number) (hbefore : incident.before.Orderly) :
    ∃ call ∈ incident.calls, call.number = number ∧ call.asked = .destroy ∧
      call.succeeds = true := by
  obtain ⟨earlier, hearlier, hlive⟩ := hbefore.live_of_member h.member
  have hopen := hbefore.open_of_member h.member
  cases incident with
  | called call => cases h
  | listed depth entries scene =>
      rw [before] at hopen
      have hleaves := (drops_listed hbefore.held hopen number).mp h
      simp only [calls, hopen, Bool.false_eq_true, if_false]
      exact exists_destroy_of_mem hleaves hearlier hlive.destroyed
  | hungUp scene =>
      obtain ⟨hparticipants, hroster, htornDown⟩ :=
        people_setDisconnected scene.hostCause (scene.note (.hostState .disconnected))
      refine exists_destroy_tearDown (htornDown.trans hopen) ?_ ?_ hlive.destroyed
      · rw [Scene.hungUp, hroster]
        exact h
      · rw [participant?, Scene.hungUp, hparticipants]
        exact hearlier
  | destroyed scene => exact exists_destroy_tearDown hopen h hearlier hlive.destroyed

theorem found_before (incident : Incident) (hbefore : incident.before.Orderly)
    {participant : Participant} (hafter : incident.after.participant? number = some participant) :
    ∃ earlier, incident.before.participant? number = some earlier := by
  by_cases hcalled : ∃ call, incident = called call
  · obtain ⟨call, rfl⟩ := hcalled
    have hheld : call.scene.dropped = false := hbefore.held
    rw [participant?, after, conference_callParticipant hheld] at hafter
    obtain ⟨earlier, hearlier, -⟩ := Conference.getElem?_call hafter
    exact ⟨earlier, hearlier⟩
  · have hsorts := sorts hbefore (not_exists.mp hcalled) number
    by_cases hdrops : incident.Drops number
    · rw [hsorts.dropped hdrops, Option.map_eq_some_iff] at hafter
      obtain ⟨earlier, hearlier, -⟩ := hafter
      exact ⟨earlier, hearlier⟩
    · exact ⟨participant, hsorts.kept hdrops ▸ hafter⟩

theorem stays_or_left (incident : Incident) (hbefore : incident.before.Orderly)
    (hmember : number ∈ incident.before.conference.roster.members) :
    number ∈ incident.after.conference.roster.members ∨
      incident.Drops number ∨ incident.Destroys number := by
  by_cases hcalled : ∃ call, incident = called call
  · obtain ⟨call, rfl⟩ := hcalled
    have hheld : call.scene.dropped = false := hbefore.held
    by_cases hdestroyed : number = call.number ∧ call.asked = .destroy
    · obtain ⟨rfl, hasked⟩ := hdestroyed
      obtain ⟨participant, hparticipant, hlive⟩ := hbefore.live_of_member hmember
      have hfound : call.scene.participant? call.number = some participant := hparticipant
      refine .inr (.inr ⟨rfl, hasked, ?_⟩)
      rw [Call.tells, hasked, hfound, Option.any_some, Participant.notifies_destroy hlive, hheld]
      rfl
    · obtain ⟨⟨endpoint, same⟩, hentry, rfl⟩ := List.mem_map.mp hmember
      left
      rw [after, conference_callParticipant hheld]
      have hstill : (endpoint, same) ∈
          (call.scene.conference.call call.number call.asked).roster.entries :=
        Conference.mem_roster_call hentry fun hself hasked => hdestroyed ⟨hself, hasked⟩
      exact List.mem_map.mpr ⟨_, hstill, rfl⟩
  · by_cases hdrops : incident.Drops number
    · exact .inr (.inl hdrops)
    · exact .inl ((sorts hbefore (not_exists.mp hcalled) number).stays hdrops hmember)

end Incident

end ConferenceBridge
