import ConferenceBridge.Proofs.Conference.Inertia
import ConferenceBridge.Proofs.Conference.Likeness

namespace ConferenceBridge

/-! The host's side of a conference: its state, its cause, its end, and what it keeps of its host. As
long as nobody is called back, this side depends on what the host reports and on nothing else. -/

namespace Change

/-- The state or the end of the conference, and nobody who takes part. -/
def isAboutHost : Change → Bool
  | state _ _ | destroyed => true
  | _ => false

theorem isAboutHost_of_endpoint? {change : Change} {endpoint : Endpoint}
    (h : change.endpoint? = some endpoint) : change.isAboutHost = false := by
  cases change <;> first | rfl | cases h

end Change

namespace HostLine

theorem lastState_release (line : HostLine) : line.release.1.lastState = line.lastState := by
  unfold release
  split <;> rfl

theorem released_release (line : HostLine) : line.release.1.released = true := by
  unfold release
  split
  · assumption
  · rfl

end HostLine

namespace Scene

def hostChanges (scene : Scene) : List Change :=
  scene.changes.filter Change.isAboutHost

structure SameHost (first second : Scene) : Prop where
  state : first.conference.state = second.conference.state
  cause : first.conference.cause = second.conference.cause
  tornDown : first.conference.tornDown = second.conference.tornDown
  lastState : first.conference.host.lastState = second.conference.host.lastState
  released : first.conference.host.released = second.conference.host.released
  told : first.hostChanges = second.hostChanges

namespace SameHost

variable {first second third : Scene}

theorem refl (scene : Scene) : scene.SameHost scene :=
  ⟨rfl, rfl, rfl, rfl, rfl, rfl⟩

theorem symm (h : first.SameHost second) : second.SameHost first :=
  ⟨h.state.symm, h.cause.symm, h.tornDown.symm, h.lastState.symm, h.released.symm, h.told.symm⟩

theorem trans (h : first.SameHost second) (hthen : second.SameHost third) : first.SameHost third :=
  ⟨h.state.trans hthen.state, h.cause.trans hthen.cause, h.tornDown.trans hthen.tornDown,
    h.lastState.trans hthen.lastState, h.released.trans hthen.released, h.told.trans hthen.told⟩

end SameHost

structure SparesHost (scene next : Scene) : Prop where
  host : next.conference.host = scene.conference.host
  state : next.conference.state = scene.conference.state
  cause : next.conference.cause = scene.conference.cause
  tornDown : next.conference.tornDown = scene.conference.tornDown
  handle : next.handle = scene.handle
  told : next.hostChanges = scene.hostChanges

variable {scene middle next first second : Scene}

theorem Advances.handle_eq (h : Advances scene next) : next.handle = scene.handle := by
  obtain ⟨told, hnext⟩ := h
  rw [hnext]
  rfl

/-! What happens to participants tells of them only. -/

theorem hostChanges_eq_of_changes_eq (h : next.changes = scene.changes) :
    next.hostChanges = scene.hostChanges :=
  congrArg (List.filter Change.isAboutHost) h

theorem hostChanges_announce (change : Change) (scene : Scene) :
    (scene.announce change).hostChanges =
      if change.isAboutHost then scene.hostChanges ++ [change] else scene.hostChanges := by
  rw [hostChanges, changes_announce, List.filter_append]
  cases hchange : change.isAboutHost <;> simp [hostChanges, hchange]

theorem hostChanges_operate (number : Nat) (operation : Participant.Operation) (scene : Scene) :
    (scene.operate number operation).hostChanges = scene.hostChanges := by
  rw [hostChanges, changes_operate, List.filter_append]
  cases scene.participant? number with
  | none => exact List.append_nil _
  | some participant =>
      have hnone : (participant.perform operation).changes.filter Change.isAboutHost = [] := by
        rw [List.filter_eq_nil_iff]
        intro change hchange
        simp [Change.isAboutHost_of_endpoint? (Participant.endpoint?_of_mem_changes hchange)]
      rw [Option.elim_some, hnone, List.append_nil, hostChanges]

theorem Act.hostChanges_eq (h : Act scene next) : next.hostChanges = scene.hostChanges := by
  cases h with
  | remark effect heffect =>
      exact hostChanges_eq_of_changes_eq (changes_record_of_isRemark heffect scene)
  | operate number operation _ => exact hostChanges_operate number operation scene
  | setRoster roster => rfl
  | setHost host => rfl
  | refreshManage =>
      rw [hostChanges, changes_refreshManage]
      split
      · rfl
      · rw [List.filter_append]
        exact List.append_nil _

theorem Acts.hostChanges_eq (h : Acts scene next) : next.hostChanges = scene.hostChanges := by
  induction h with
  | refl => rfl
  | tail _ hlast ih => exact hlast.hostChanges_eq.trans ih

theorem hostChanges_callParticipant (number : Nat) (call : ParticipantCall) (scene : Scene) :
    (scene.callParticipant number call).hostChanges = scene.hostChanges := by
  have hoperated := hostChanges_operate number (.call call) scene
  rcases callParticipant_eq_or number call scene with heq | ⟨-, heq⟩
  · rw [heq, hoperated]
  · rw [heq, (acts_forget number _).hostChanges_eq, hoperated]

namespace SparesHost

theorem refl (scene : Scene) : scene.SparesHost scene :=
  ⟨rfl, rfl, rfl, rfl, rfl, rfl⟩

theorem trans (h : scene.SparesHost middle) (hthen : middle.SparesHost next) :
    scene.SparesHost next :=
  ⟨hthen.host.trans h.host, hthen.state.trans h.state, hthen.cause.trans h.cause,
    hthen.tornDown.trans h.tornDown, hthen.handle.trans h.handle, hthen.told.trans h.told⟩

theorem sameHost (h : scene.SparesHost next) : next.SameHost scene :=
  ⟨h.state, h.cause, h.tornDown, congrArg HostLine.lastState h.host,
    congrArg HostLine.released h.host, h.told⟩

theorem of_frame (hframe : scene.conference.Frame next.conference)
    (hhost : next.conference.host = scene.conference.host) (hadvances : Advances scene next)
    (htold : next.hostChanges = scene.hostChanges) : scene.SparesHost next :=
  ⟨hhost, hframe.state, hframe.cause, hframe.tornDown, hadvances.handle_eq, htold⟩

theorem of_conference_eq (hconference : next.conference = scene.conference)
    (hadvances : Advances scene next) (hchanges : next.changes = scene.changes) :
    scene.SparesHost next :=
  .of_frame (hconference ▸ .refl _) (congrArg Conference.host hconference) hadvances
    (hostChanges_eq_of_changes_eq hchanges)

end SparesHost

theorem sparesHost_note (notice : ConferenceNotice) (scene : Scene) :
    scene.SparesHost (scene.note notice) :=
  .of_conference_eq rfl ((Advances.refl scene).record _) (changes_note notice scene)

theorem sparesHost_callParticipant (hheld : scene.dropped = false) (number : Nat)
    (call : ParticipantCall) : scene.SparesHost (scene.callParticipant number call) := by
  refine .of_frame ?_ ?_ (routine_callParticipant number call scene).advances
    (hostChanges_callParticipant number call scene)
  · rw [conference_callParticipant hheld]
    exact Conference.frame_call number call _
  · rw [conference_callParticipant hheld, Conference.host_call]

theorem sparesHost_keep (listed : List Endpoint) (scene : Scene) :
    scene.SparesHost (scene.keep listed) := by
  refine .of_frame ?_ ?_ (routine_keep listed scene).advances (acts_keep listed scene).hostChanges_eq
  · rw [conference_keep]
    exact Conference.frame_keep listed _
  · rw [conference_keep, Conference.host_keep]

theorem sparesHost_refreshManage (scene : Scene) : scene.SparesHost scene.refreshManage := by
  refine .of_frame ?_ ?_ (routine_refreshManage scene).advances
    (Act.refreshManage : Act scene _).hostChanges_eq
  · rw [conference_refreshManage]
    exact Conference.frame_refreshManage _
  · rw [conference_refreshManage, Conference.host_refreshManage]

theorem coupling_sparesHost (scene : Scene) :
    Coupling fun first second =>
      first.conference.Alike second.conference ∧ scene.SparesHost first where
  roster h := h.1.roster
  participants h := h.1.participants
  note h notice other := ⟨h.1, h.2.trans (sparesHost_note notice _)⟩
  welcome h endpoint :=
    ⟨h.1, h.2.trans ⟨rfl, rfl, rfl, rfl, rfl, hostChanges_announce _ _⟩⟩
  call h number call := by
    refine ⟨?_, h.related.2.trans (sparesHost_callParticipant h.calm.held number call)⟩
    exact coupling_alike.call ⟨h.related.1, h.stillOpen, h.otherOpen, h.calm, h.otherCalm⟩ number call
  keep h listed := ⟨coupling_alike.keep h.1 listed, h.2.trans (sparesHost_keep listed _)⟩
  refreshManage h := ⟨coupling_alike.refreshManage h.1, h.2.trans (sparesHost_refreshManage _)⟩
  enroll h entry roster :=
    ⟨coupling_alike.enroll h.1 entry roster, h.2.trans ⟨rfl, rfl, rfl, rfl, rfl,
      hostChanges_eq_of_changes_eq (changes_enroll entry roster _)⟩⟩

theorem sparesHost_reconcileWith {react : React} (hidle : ∀ scene, react [] scene = scene)
    (hcalm : scene.Calm) (entries : List Snapshot) :
    scene.SparesHost (scene.reconcileWith react entries).1 ∧
      (scene.reconcileWith react entries).1.Calm := by
  cases htorn : scene.conference.tornDown with
  | true =>
      simp only [reconcileWith, htorn, if_true]
      exact ⟨sparesHost_note _ _, hcalm.advances ((Advances.refl scene).record _)⟩
  | false =>
      have hstart : scene.Abreast (fun first second =>
          first.conference.Alike second.conference ∧ scene.SparesHost first) scene :=
        ⟨⟨.refl _, .refl scene⟩, htorn, htorn, hcalm, hcalm⟩
      obtain ⟨hafter, -⟩ := hstart.reconcileWith (coupling_sparesHost scene) hidle hidle entries
      exact ⟨hafter.related.2, hafter.calm⟩

/-! What the host reports does the same to two conferences that agree about the host. -/

namespace SameHost

theorem left (h : first.SameHost second) (hspares : first.SparesHost next) : next.SameHost second :=
  hspares.sameHost.trans h

theorem note (h : first.SameHost second) (notice other : ConferenceNotice) :
    (first.note notice).SameHost (second.note other) :=
  ((h.left (sparesHost_note notice first)).symm.left (sparesHost_note other second)).symm

theorem remember (h : first.SameHost second) (state : ConnectionState) :
    (first.remember state).SameHost (second.remember state) :=
  ⟨h.state, h.cause, h.tornDown, rfl, h.released, h.told⟩

theorem setState (h : first.SameHost second) (next : ConnectionState) :
    (first.setState next).SameHost (second.setState next) where
  state := by rw [conference_setState, conference_setState]
  cause := by
    rw [conference_setState, conference_setState]
    exact h.cause
  tornDown := by
    rw [conference_setState, conference_setState]
    exact h.tornDown
  lastState := by
    rw [conference_setState, conference_setState]
    exact h.lastState
  released := by
    rw [conference_setState, conference_setState]
    exact h.released
  told := by
    rw [hostChanges, changes_setState, hostChanges, changes_setState, h.state]
    split
    · exact h.told
    · rw [List.filter_append, List.filter_append]
      exact congrArg (· ++ _) h.told

theorem setDisconnected (h : first.SameHost second) (cause : DisconnectCause) :
    (first.setDisconnected cause).SameHost (second.setDisconnected cause) := by
  have hcauses := h.cause
  cases hcause : first.conference.cause with
  | some earlier =>
      rw [hcause] at hcauses
      rw [setDisconnected_of_cause (by simp [hcause]), setDisconnected_of_cause (by simp [← hcauses])]
      exact h
  | none =>
      rw [hcause] at hcauses
      have hset := h.setState .disconnected
      refine ⟨?_, ?_, ?_, ?_, ?_, ?_⟩
      all_goals try rw [conference_setDisconnected hcause, conference_setDisconnected hcauses.symm]
      · exact h.tornDown
      · exact h.lastState
      · exact h.released
      · rw [hostChanges, changes_setDisconnected hcause, hostChanges,
          changes_setDisconnected hcauses.symm]
        exact hset.told

end SameHost

theorem hostChanges_tearDown (hopen : scene.conference.tornDown = false) :
    scene.tearDown.hostChanges = scene.hostChanges ++ [.destroyed] := by
  obtain ⟨middle, hacts, heq⟩ := acts_tearDown hopen
  have hflagged : middle.hostChanges = scene.hostChanges := hacts.hostChanges_eq
  rw [heq, hostChanges_announce, hflagged]
  rfl

namespace SameHost

theorem tearDown (h : first.SameHost second) : first.tearDown.SameHost second.tearDown := by
  have hflags := h.tornDown
  cases hopen : first.conference.tornDown with
  | true =>
      rw [hopen] at hflags
      rw [tearDown_of_tornDown hopen, tearDown_of_tornDown hflags.symm]
      exact h
  | false =>
      rw [hopen] at hflags
      refine ⟨?_, ?_, ?_, ?_, ?_, ?_⟩
      all_goals try rw [conference_tearDown, conference_tearDown]
      · rw [Conference.state_tearDown, Conference.state_tearDown, h.state]
      · rw [Conference.cause_tearDown, Conference.cause_tearDown, h.cause]
      · rw [Conference.tornDown_tearDown, Conference.tornDown_tearDown]
      · rw [Conference.host_tearDown hopen, Conference.host_tearDown hflags.symm,
          HostLine.lastState_release, HostLine.lastState_release, h.lastState]
      · rw [Conference.host_tearDown hopen, Conference.host_tearDown hflags.symm,
          HostLine.released_release, HostLine.released_release]
      · rw [hostChanges_tearDown hopen, hostChanges_tearDown hflags.symm, h.told]

theorem applyHostState (h : first.SameHost second) (state : ConnectionState)
    (hanswer : state = .disconnected → first.handle.cause = second.handle.cause) :
    (first.applyHostState state).SameHost (second.applyHostState state) := by
  have hnoted := h.note (.hostState state) (.hostState state)
  cases state with
  | active | held => exact hnoted.setState _
  | disconnected =>
      have hcause : first.conference.host.cause first.handle =
          second.conference.host.cause second.handle := by
        rw [HostLine.cause, HostLine.cause, h.released, hanswer rfl]
      have hended := (hnoted.setDisconnected
        (first.conference.host.cause first.handle).disconnectCause).tearDown
      conv at hended => rhs; rw [hcause]
      exact hended
  | _ => exact hnoted

end SameHost

end Scene

end ConferenceBridge
