import ConferenceBridge.Proofs.Conference.Transition

namespace ConferenceBridge

/-! What stays as it is once it is there: who a participant is, the final state, the first cause,
and every end. -/

namespace Participant

structure Continues (before after : Participant) : Prop where
  endpoint : after.endpoint = before.endpoint
  displayName : after.displayName = before.displayName
  userUri : after.userUri = before.userUri
  disconnected : before.state = .disconnected → after.state = .disconnected
  cause : before.cause.isSome = true → after.cause = before.cause
  detached : before.attached = false → after.attached = false
  destroyed : before.destroyed = true → after.destroyed = true
  unobserved : before.observed = false → after.observed = false

namespace Continues

theorem refl (participant : Participant) : participant.Continues participant :=
  ⟨rfl, rfl, rfl, id, fun _ => rfl, id, id, id⟩

theorem trans {before middle after : Participant} (hfirst : before.Continues middle)
    (hsecond : middle.Continues after) : before.Continues after where
  endpoint := hsecond.endpoint.trans hfirst.endpoint
  displayName := hsecond.displayName.trans hfirst.displayName
  userUri := hsecond.userUri.trans hfirst.userUri
  disconnected := hsecond.disconnected ∘ hfirst.disconnected
  cause := by
    intro hcause
    have hmiddle := hfirst.cause hcause
    rw [hsecond.cause (hmiddle ▸ hcause), hmiddle]
  detached := hsecond.detached ∘ hfirst.detached
  destroyed := hsecond.destroyed ∘ hfirst.destroyed
  unobserved := hsecond.unobserved ∘ hfirst.unobserved

end Continues

theorem continues_perform (participant : Participant) (operation : Operation) :
    participant.Continues (participant.perform operation).participant := by
  unfold perform update disconnect destroy unobserve detach unchanged
  repeat' split
  all_goals constructor
  all_goals simp_all [ConnectionState.isFinal]

theorem continues_dismantled (participant : Participant) :
    participant.Continues participant.dismantled := by
  rw [← dismantled_eq]
  exact (participant.continues_perform .unobserve).trans <|
    (continues_perform _ .detach).trans <|
      (continues_perform _ (.call (.disconnect .aborted))).trans <|
        continues_perform _ (.call .destroy)

end Participant

namespace Conference

structure Continues (before after : Conference) : Prop where
  id : after.id = before.id
  config : after.config = before.config
  tornDown : before.tornDown = true → after.tornDown = true
  cause : before.cause.isSome = true → after.cause = before.cause
  participants : ∀ (number : Nat) (participant : Participant),
    before.participants[number]? = some participant →
    ∃ later : Participant, after.participants[number]? = some later ∧ participant.Continues later

namespace Continues

variable {before middle after : Conference}

theorem of_participants_eq (hid : after.id = before.id) (hconfig : after.config = before.config)
    (htornDown : before.tornDown = true → after.tornDown = true)
    (hcause : before.cause.isSome = true → after.cause = before.cause)
    (hparticipants : after.participants = before.participants) : before.Continues after := by
  refine ⟨hid, hconfig, htornDown, hcause, ?_⟩
  intro number participant hparticipant
  rw [hparticipants]
  exact ⟨participant, hparticipant, .refl participant⟩

theorem refl (conference : Conference) : conference.Continues conference :=
  of_participants_eq rfl rfl (fun h => h) (fun _ => rfl) rfl

theorem trans (hfirst : before.Continues middle) (hsecond : middle.Continues after) :
    before.Continues after where
  id := hsecond.id.trans hfirst.id
  config := hsecond.config.trans hfirst.config
  tornDown := hsecond.tornDown ∘ hfirst.tornDown
  cause := by
    intro hcause
    have hmiddle := hfirst.cause hcause
    rw [hsecond.cause (hmiddle ▸ hcause), hmiddle]
  participants := by
    intro number participant hparticipant
    obtain ⟨later, hlater, hcontinues⟩ := hfirst.participants number participant hparticipant
    obtain ⟨last, hlast, hrest⟩ := hsecond.participants number later hlater
    exact ⟨last, hlast, hcontinues.trans hrest⟩

end Continues

theorem continues_modify (number : Nat) {change : Participant → Participant}
    (hchange : ∀ participant : Participant, participant.Continues (change participant))
    (conference : Conference) : conference.Continues (conference.modify number change) := by
  refine ⟨rfl, rfl, fun h => h, fun _ => rfl, ?_⟩
  intro other participant hparticipant
  rw [getElem?_modify, hparticipant]
  refine ⟨_, rfl, ?_⟩
  split
  · exact hchange participant
  · exact .refl participant

theorem continues_dismantle (numbers : List Nat) (conference : Conference) :
    conference.Continues (conference.dismantle numbers) := by
  induction numbers generalizing conference with
  | nil => exact .refl conference
  | cons number numbers ih =>
      exact (continues_modify number Participant.continues_dismantled conference).trans (ih _)

theorem continues_roster (roster : Roster Nat) (conference : Conference) :
    conference.Continues { conference with roster } :=
  .of_participants_eq rfl rfl (fun h => h) (fun _ => rfl) rfl

theorem continues_refreshManage (conference : Conference) :
    conference.Continues conference.refreshManage := by
  unfold refreshManage
  split
  · exact .refl conference
  · exact .of_participants_eq rfl rfl (fun h => h) (fun _ => rfl) rfl

theorem continues_forget (number : Nat) (conference : Conference) :
    conference.Continues (conference.forget number) := by
  unfold forget
  split
  · exact .refl conference
  · split
    · exact .refl conference
    · exact (continues_roster _ conference).trans <|
        (continues_modify number (fun participant => participant.continues_perform .detach)
          _).trans <| continues_refreshManage _

theorem continues_call (number : Nat) (call : ParticipantCall) (conference : Conference) :
    conference.Continues (conference.call number call) := by
  have hcalled := continues_modify number
    (fun participant => participant.continues_perform (.call call)) conference
  unfold Conference.call
  dsimp only
  split
  · exact hcalled.trans (continues_forget _ _)
  · exact hcalled

theorem continues_enroll (entry : Snapshot) (roster : Roster Nat) (conference : Conference) :
    conference.Continues (conference.enroll entry roster) := by
  refine ⟨rfl, rfl, fun h => h, fun _ => rfl, ?_⟩
  intro number participant hparticipant
  obtain ⟨hlt, -⟩ := List.getElem?_eq_some_iff.mp hparticipant
  refine ⟨participant, ?_, .refl participant⟩
  rw [enroll, List.getElem?_append_left hlt, hparticipant]

theorem continues_dismissAll (conference : Conference) :
    conference.Continues conference.dismissAll :=
  (continues_roster .empty conference).trans <|
    (continues_dismantle _ _).trans <| continues_refreshManage _

theorem continues_tearDown (conference : Conference) :
    conference.Continues conference.tearDown := by
  unfold tearDown
  split
  · exact .refl conference
  · have hflag : conference.Continues { conference with tornDown := true } :=
      .of_participants_eq rfl rfl (fun _ => rfl) (fun _ => rfl) rfl
    exact hflag.trans <| (continues_dismissAll _).trans <|
      .of_participants_eq rfl rfl (fun h => h) (fun _ => rfl) rfl

theorem Transition.continues (h : Transition conference next) : conference.Continues next := by
  cases h with
  | enroll entry hopen habsent => exact continues_enroll entry _ conference
  | call number call => exact continues_call number call conference
  | keep listed hopen =>
      exact (continues_roster _ conference).trans (continues_dismantle _ _)
  | dismiss htorn => exact continues_dismissAll conference
  | refreshManage => exact continues_refreshManage conference
  | remember state => exact .of_participants_eq rfl rfl (fun h => h) (fun _ => rfl) rfl
  | setState state hstate => exact .of_participants_eq rfl rfl (fun h => h) (fun _ => rfl) rfl
  | disconnect cause hfirst =>
      refine .of_participants_eq rfl rfl (fun h => h) ?_ rfl
      simp [hfirst]
  | tearDown => exact continues_tearDown conference

theorem Evolves.continues (h : Evolves conference next) : conference.Continues next := by
  induction h with
  | refl => exact .refl conference
  | tail _ hlast ih => exact ih.trans hlast.continues

end Conference

theorem Scene.continues_run {id : ConferenceId} {config : ConferenceConfig} {handle : Handle}
    {start : Scene} (hopen : openOver? id config handle = .ok start)
    (requests more : List Request) :
    (start.run requests).conference.Continues (start.run (requests ++ more)).conference := by
  rw [run_append]
  exact (Reaches.evolves (reaches_run more _) (dropped_run hopen requests)).continues

end ConferenceBridge

