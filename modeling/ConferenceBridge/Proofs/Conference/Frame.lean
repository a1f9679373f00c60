import ConferenceBridge.Proofs.Conference.Transition

namespace ConferenceBridge

/-! What happens to participants and the roster leaves the rest of the conference alone: the hold
on its host, its state, its cause, its end, and how many participants there ever were. Most steps
are of this kind. -/

namespace Conference

structure Frame (before after : Conference) : Prop where
  id : after.id = before.id
  config : after.config = before.config
  released : after.host.released = before.host.released
  state : after.state = before.state
  cause : after.cause = before.cause
  tornDown : after.tornDown = before.tornDown
  count : after.participants.length = before.participants.length

namespace Frame

theorem refl (conference : Conference) : conference.Frame conference :=
  ⟨rfl, rfl, rfl, rfl, rfl, rfl, rfl⟩

theorem trans {before middle after : Conference} (hfirst : before.Frame middle)
    (hsecond : middle.Frame after) : before.Frame after where
  id := hsecond.id.trans hfirst.id
  config := hsecond.config.trans hfirst.config
  released := hsecond.released.trans hfirst.released
  state := hsecond.state.trans hfirst.state
  cause := hsecond.cause.trans hfirst.cause
  tornDown := hsecond.tornDown.trans hfirst.tornDown
  count := hsecond.count.trans hfirst.count

end Frame

theorem frame_roster (roster : Roster Nat) (conference : Conference) :
    conference.Frame { conference with roster } :=
  ⟨rfl, rfl, rfl, rfl, rfl, rfl, rfl⟩

theorem frame_modify (number : Nat) (change : Participant → Participant)
    (conference : Conference) : conference.Frame (conference.modify number change) :=
  ⟨rfl, rfl, rfl, rfl, rfl, rfl, by simp [modify]⟩

theorem frame_dismantle (numbers : List Nat) (conference : Conference) :
    conference.Frame (conference.dismantle numbers) := by
  induction numbers generalizing conference with
  | nil => exact .refl conference
  | cons number numbers ih => exact (frame_modify number .dismantled conference).trans (ih _)

theorem frame_refreshManage (conference : Conference) :
    conference.Frame conference.refreshManage := by
  unfold refreshManage
  split
  · exact .refl conference
  · exact ⟨rfl, rfl, rfl, rfl, rfl, rfl, rfl⟩

@[simp] theorem roster_refreshManage (conference : Conference) :
    conference.refreshManage.roster = conference.roster := by
  unfold refreshManage
  split <;> rfl

@[simp] theorem participants_refreshManage (conference : Conference) :
    conference.refreshManage.participants = conference.participants := by
  unfold refreshManage
  split <;> rfl

theorem frame_forget (number : Nat) (conference : Conference) :
    conference.Frame (conference.forget number) := by
  unfold forget
  split
  · exact .refl conference
  · split
    · exact .refl conference
    · exact (frame_roster _ conference).trans <| (frame_modify number _ _).trans <|
        frame_refreshManage _

theorem frame_call (number : Nat) (call : ParticipantCall) (conference : Conference) :
    conference.Frame (conference.call number call) := by
  unfold Conference.call
  dsimp only
  split
  · exact (frame_modify number _ conference).trans (frame_forget number _)
  · exact frame_modify number _ conference

theorem frame_keep (listed : List Endpoint) (conference : Conference) :
    conference.Frame (conference.keep listed) :=
  (frame_roster _ conference).trans (frame_dismantle _ _)

theorem frame_dismissAll (conference : Conference) : conference.Frame conference.dismissAll :=
  (frame_roster .empty conference).trans <| (frame_dismantle _ _).trans <| frame_refreshManage _

theorem tornDown_tearDown (conference : Conference) : conference.tearDown.tornDown = true := by
  unfold tearDown
  split
  · assumption
  · exact (frame_dismissAll { conference with tornDown := true }).tornDown

@[simp] theorem state_tearDown (conference : Conference) :
    conference.tearDown.state = conference.state := by
  unfold tearDown
  split
  · rfl
  · exact (frame_dismissAll { conference with tornDown := true }).state

@[simp] theorem cause_tearDown (conference : Conference) :
    conference.tearDown.cause = conference.cause := by
  unfold tearDown
  split
  · rfl
  · exact (frame_dismissAll { conference with tornDown := true }).cause

@[simp] theorem count_tearDown (conference : Conference) :
    conference.tearDown.participants.length = conference.participants.length := by
  unfold tearDown
  split
  · rfl
  · exact (frame_dismissAll { conference with tornDown := true }).count

theorem frame_remember (state : ConnectionState) (conference : Conference) :
    conference.Frame { conference with host := conference.host.remember state } :=
  ⟨rfl, rfl, rfl, rfl, rfl, rfl, rfl⟩

/-! Only the teardown does anything to the host line. -/

@[simp] theorem host_dismantle (numbers : List Nat) (conference : Conference) :
    (conference.dismantle numbers).host = conference.host := by
  rw [dismantle_eq]

@[simp] theorem host_refreshManage (conference : Conference) :
    conference.refreshManage.host = conference.host := by
  unfold refreshManage
  split <;> rfl

@[simp] theorem host_forget (number : Nat) (conference : Conference) :
    (conference.forget number).host = conference.host := by
  unfold forget
  split
  · rfl
  · split
    · rfl
    · rw [host_refreshManage]
      rfl

@[simp] theorem host_call (number : Nat) (call : ParticipantCall) (conference : Conference) :
    (conference.call number call).host = conference.host := by
  unfold Conference.call
  dsimp only
  split
  · rw [host_forget]
    rfl
  · rfl

@[simp] theorem host_keep (listed : List Endpoint) (conference : Conference) :
    (conference.keep listed).host = conference.host := by
  rw [keep, host_dismantle]

@[simp] theorem host_dismissAll (conference : Conference) :
    conference.dismissAll.host = conference.host := by
  rw [dismissAll, host_refreshManage, host_dismantle]

theorem host_tearDown {conference : Conference} (h : conference.tornDown = false) :
    conference.tearDown.host = conference.host.release.1 := by
  unfold tearDown
  rw [if_neg (by simp [h])]
  exact congrArg (fun host : HostLine => host.release.1)
    (host_dismissAll { conference with tornDown := true })

end Conference

namespace Scene

structure Quiet (scene next : Scene) : Prop where
  tells : Tells Effect.isRoutine scene next
  frame : scene.conference.Frame next.conference

theorem Quiet.of_routine {scene next : Scene} (h : Routine scene next)
    (hframe : scene.conference.Frame next.conference) : scene.Quiet next :=
  ⟨h.tells, hframe⟩

theorem Quiet.of_effects_eq {scene next : Scene} (h : next.effects = scene.effects)
    (hframe : scene.conference.Frame next.conference) : scene.Quiet next :=
  ⟨.of_effects_eq h, hframe⟩

/-- A step is quiet, or one of the four that are not. -/
inductive Course (scene : Scene) : Scene → Prop
  | quiet (h : scene.Quiet next) : Course scene next
  | enroll {roster : Roster Nat} (entry : Snapshot) (hopen : scene.conference.tornDown = false) :
      Course scene (scene.enroll entry roster)
  | follow (state : ConnectionState) : Course scene (scene.applyHostState state)
  | disconnect (cause : DisconnectCause) : Course scene (scene.setDisconnected cause)
  | tearDown : Course scene scene.tearDown

theorem Step.course (hstep : Step scene next) (hheld : scene.dropped = false) :
    scene.Course next := by
  cases hstep with
  | remark effect heffect =>
      exact .quiet (.of_routine (routine_record (Effect.isRoutine_of_isRemark heffect) scene)
        (.refl _))
  | surroundings handle register => exact .quiet (.of_effects_eq rfl (.refl _))
  | enroll entry hopen habsent => exact .enroll entry hopen
  | welcome endpoint => exact .quiet (.of_routine (routine_record rfl scene) (.refl _))
  | call number call =>
      refine .quiet (.of_routine (routine_callParticipant number call scene) ?_)
      rw [conference_callParticipant hheld]
      exact Conference.frame_call number call _
  | keep listed hopen =>
      refine .quiet (.of_routine (routine_keep listed scene) ?_)
      rw [conference_keep]
      exact Conference.frame_keep listed _
  | dismiss htorn =>
      refine .quiet (.of_routine (routine_dismissAll scene) ?_)
      rw [conference_dismissAll]
      exact Conference.frame_dismissAll _
  | refreshManage =>
      refine .quiet (.of_routine (routine_refreshManage scene) ?_)
      rw [conference_refreshManage]
      exact Conference.frame_refreshManage _
  | remember state => exact .quiet (.of_effects_eq rfl (Conference.frame_remember state _))
  | follow state => exact .follow state
  | disconnect cause => exact .disconnect cause
  | tearDown => exact .tearDown

theorem Beat.count_eq (h : Beat scene next) :
    next.conference.participants.length = scene.conference.participants.length := by
  cases h with
  | act hact =>
      cases hact with
      | operate number operation hoperation =>
          rw [conference_operate]
          exact (Conference.frame_modify number _ _).count
      | refreshManage =>
          rw [conference_refreshManage]
          exact (Conference.frame_refreshManage _).count
      | _ => rfl
  | update number state =>
      rw [conference_operate]
      exact (Conference.frame_modify number _ _).count
  | setState state => rw [conference_setState]
  | _ => rfl

end Scene

end ConferenceBridge
