import ConferenceBridge.Proofs.Conference.Reconciliation

namespace ConferenceBridge

/-! Two conferences that nobody calls back, side by side. A relation that lasts through each thing
that a reconcile does lasts through a whole reconcile with the same list, and both come to the same
result. -/

namespace Scene

/-- Someone holds the conference, and nobody will call it back. -/
structure Calm (scene : Scene) : Prop where
  silent : Silent scene.register
  held : scene.dropped = false

theorem calm_openOver (id : ConferenceId) (config : ConferenceConfig) (handle : Handle) :
    (openOver id config handle).Calm where
  silent := by
    intro calls hcalls
    cases hcalls
  held := rfl

variable {scene next first second : Scene} {R : Scene → Scene → Prop}

theorem Calm.advances (h : scene.Calm) (hadvances : Advances scene next) : next.Calm where
  silent := hadvances.register_eq ▸ h.silent
  held := hadvances.dropped_eq.trans h.held

theorem Calm.enroll (h : scene.Calm) (entry : Snapshot) (roster : Roster Nat) :
    (scene.enroll entry roster).Calm :=
  ⟨h.silent.tail, h.held⟩

structure Abreast (R : Scene → Scene → Prop) (first second : Scene) : Prop where
  related : R first second
  stillOpen : first.conference.tornDown = false
  otherOpen : second.conference.tornDown = false
  calm : first.Calm
  otherCalm : second.Calm

structure Coupling (R : Scene → Scene → Prop) : Prop where
  roster : ∀ {first second : Scene}, R first second → first.conference.roster = second.conference.roster
  participants : ∀ {first second : Scene}, R first second →
    first.conference.participants = second.conference.participants
  note : ∀ {first second : Scene}, R first second → ∀ notice other, R (first.note notice) (second.note other)
  welcome : ∀ {first second : Scene}, R first second → ∀ endpoint,
    R (first.announce (.participantAdded endpoint)) (second.announce (.participantAdded endpoint))
  call : ∀ {first second : Scene}, first.Abreast R second → ∀ number call,
    R (first.callParticipant number call) (second.callParticipant number call)
  keep : ∀ {first second : Scene}, R first second → ∀ listed, R (first.keep listed) (second.keep listed)
  refreshManage : ∀ {first second : Scene}, R first second → R first.refreshManage second.refreshManage
  enroll : ∀ {first second : Scene}, R first second → ∀ entry roster,
    R (first.enroll entry roster) (second.enroll entry roster)

namespace Abreast

theorem advances {later other : Scene} (h : first.Abreast R second) (hrelated : R later other)
    (hfirst : Advances first later) (hsecond : Advances second other)
    (hopen : later.conference.tornDown = first.conference.tornDown)
    (hotherOpen : other.conference.tornDown = second.conference.tornDown) :
    later.Abreast R other where
  related := hrelated
  stillOpen := hopen.trans h.stillOpen
  otherOpen := hotherOpen.trans h.otherOpen
  calm := h.calm.advances hfirst
  otherCalm := h.otherCalm.advances hsecond

variable (h : first.Abreast R second) (hcoupling : Coupling R)

include h hcoupling

theorem note (notice other : ConferenceNotice) :
    (first.note notice).Abreast R (second.note other) :=
  h.advances (hcoupling.note h.related notice other) ((Advances.refl first).record _)
    ((Advances.refl second).record _) rfl rfl

theorem welcome (endpoint : Endpoint) :
    (first.announce (.participantAdded endpoint)).Abreast R
      (second.announce (.participantAdded endpoint)) :=
  h.advances (hcoupling.welcome h.related endpoint) ((Advances.refl first).record _)
    ((Advances.refl second).record _) rfl rfl

theorem call (number : Nat) (call : ParticipantCall) :
    (first.callParticipant number call).Abreast R (second.callParticipant number call) := by
  refine h.advances (hcoupling.call h number call) (routine_callParticipant number call first).advances
    (routine_callParticipant number call second).advances ?_ ?_
  · rw [conference_callParticipant h.calm.held]
    exact (Conference.frame_call number call _).tornDown
  · rw [conference_callParticipant h.otherCalm.held]
    exact (Conference.frame_call number call _).tornDown

theorem keep (listed : List Endpoint) : (first.keep listed).Abreast R (second.keep listed) := by
  refine h.advances (hcoupling.keep h.related listed) (routine_keep listed first).advances
    (routine_keep listed second).advances ?_ ?_
  · rw [conference_keep]
    exact (Conference.frame_keep listed _).tornDown
  · rw [conference_keep]
    exact (Conference.frame_keep listed _).tornDown

theorem refreshManage : first.refreshManage.Abreast R second.refreshManage := by
  refine h.advances (hcoupling.refreshManage h.related) (routine_refreshManage first).advances
    (routine_refreshManage second).advances ?_ ?_
  · rw [conference_refreshManage]
    exact (Conference.frame_refreshManage _).tornDown
  · rw [conference_refreshManage]
    exact (Conference.frame_refreshManage _).tornDown

theorem enroll (entry : Snapshot) (roster : Roster Nat) :
    (first.enroll entry roster).Abreast R (second.enroll entry roster) where
  related := hcoupling.enroll h.related entry roster
  stillOpen := h.stillOpen
  otherOpen := h.otherOpen
  calm := h.calm.enroll entry roster
  otherCalm := h.otherCalm.enroll entry roster

end Abreast

end Scene

namespace Walk

section Entry

variable {walk : Walk} {entry : Snapshot} (hopen : walk.scene.conference.tornDown = false)

include hopen

theorem enterWith_of_known (react : React) (hknown : walk.knows entry.endpoint = true) :
    walk.enterWith react entry =
      { walk with
        reported := entry.endpoint :: walk.reported
        newcomers := walk.newcomers.map (·.hear entry) } := by
  simp only [enterWith, hopen, Bool.false_eq_true, if_false]
  exact if_pos hknown

theorem enterWith_of_present (react : React) (hunknown : walk.knows entry.endpoint = false)
    {number : Nat} (hpresent : walk.scene.conference.roster.insertIfAbsent entry.endpoint
      walk.scene.conference.participants.length = .present number) :
    walk.enterWith react entry =
      { walk with
        scene := walk.scene.callParticipant number (.update entry.state)
        reported := entry.endpoint :: walk.reported
        updated := walk.updated +
          (walk.scene.accepts number (.call (.update entry.state))).toNat } := by
  simp only [enterWith, hopen, Bool.false_eq_true, if_false, Scene.create, hpresent]
  exact if_neg (Bool.eq_false_iff.mp hunknown)

theorem enterWith_of_absent (react : React) (hunknown : walk.knows entry.endpoint = false)
    {roster : Roster Nat} (habsent : walk.scene.conference.roster.insertIfAbsent entry.endpoint
      walk.scene.conference.participants.length = .stored roster) :
    walk.enterWith react entry =
      { walk with
        scene := walk.scene.enrollWith react entry roster
        reported := entry.endpoint :: walk.reported
        newcomers := walk.newcomers ++
          [⟨entry.endpoint, walk.scene.conference.participants.length, entry.state⟩] } := by
  have hcreated : walk.scene.conference.roster.insertIfAbsent entry.endpoint
      (walk.scene.create entry).1 = .stored roster := habsent
  simp only [enterWith, hopen, Bool.false_eq_true, if_false, hcreated, Scene.publishWith_create]
  exact if_neg (Bool.eq_false_iff.mp hunknown)

end Entry

theorem exists_finish (walk : Walk) (scene : Scene) :
    ∃ notice, (walk.finish scene).1 =
      (if (walk.finish scene).2.membershipChanged then (scene.keep walk.reported).refreshManage
        else scene.keep walk.reported).note notice :=
  ⟨_, rfl⟩

structure Abreast (R : Scene → Scene → Prop) (first second : Walk) : Prop where
  scene : first.scene.Abreast R second.scene
  reported : first.reported = second.reported
  newcomers : first.newcomers = second.newcomers
  updated : first.updated = second.updated

namespace Abreast

variable {R : Scene → Scene → Prop} {react other : React} {first second : Walk}
  (h : first.Abreast R second) (hcoupling : Scene.Coupling R)

include h hcoupling

theorem enterWith (hidle : ∀ scene, react [] scene = scene)
    (hother : ∀ scene, other [] scene = scene) (entry : Snapshot) :
    (first.enterWith react entry).Abreast R (second.enterWith other entry) := by
  have hopen := h.scene.stillOpen
  have hotherOpen := h.scene.otherOpen
  have hparticipants := hcoupling.participants h.scene.related
  have hknows : first.knows entry.endpoint = second.knows entry.endpoint := by
    rw [knows, h.newcomers, knows]
  have hinsert : first.scene.conference.roster.insertIfAbsent entry.endpoint
      first.scene.conference.participants.length =
        second.scene.conference.roster.insertIfAbsent entry.endpoint
          second.scene.conference.participants.length := by
    rw [hcoupling.roster h.scene.related, hparticipants]
  have hreported : entry.endpoint :: first.reported = entry.endpoint :: second.reported := by
    rw [h.reported]
  cases hknown : second.knows entry.endpoint with
  | true =>
      rw [enterWith_of_known hopen react (hknows.trans hknown),
        enterWith_of_known hotherOpen other hknown]
      exact { h with reported := hreported, newcomers := by rw [h.newcomers] }
  | false =>
      cases hsecond : second.scene.conference.roster.insertIfAbsent entry.endpoint
          second.scene.conference.participants.length with
      | present number =>
          rw [enterWith_of_present hopen react (hknows.trans hknown) (hinsert.trans hsecond),
            enterWith_of_present hotherOpen other hknown hsecond]
          refine ⟨h.scene.call hcoupling number _, hreported, h.newcomers, ?_⟩
          simp only [Scene.accepts, Scene.participant?, hparticipants, h.updated]
      | stored roster =>
          rw [enterWith_of_absent hopen react (hknows.trans hknown) (hinsert.trans hsecond),
            enterWith_of_absent hotherOpen other hknown hsecond]
          refine ⟨?_, hreported, ?_, h.updated⟩
          · rw [Scene.enrollWith, Scene.enrollWith,
              Scene.nextCalls_of_silent h.scene.calm.silent,
              Scene.nextCalls_of_silent h.scene.otherCalm.silent, hidle, hother]
            exact ((h.scene.enroll hcoupling entry roster).note hcoupling _ _).welcome hcoupling _
          · rw [h.newcomers, hparticipants]

theorem foldl (hidle : ∀ scene, react [] scene = scene)
    (hother : ∀ scene, other [] scene = scene) (entries : List Snapshot) :
    (entries.foldl (Walk.enterWith react) first).Abreast R
      (entries.foldl (Walk.enterWith other) second) := by
  induction entries generalizing first second with
  | nil => exact h
  | cons entry entries ih => exact ih (h.enterWith hcoupling hidle hother entry)

theorem bringUp : first.bringUp.Abreast R second.bringUp := by
  unfold Walk.bringUp
  rw [h.newcomers]
  have hscenes := h.scene
  generalize first.scene = scene, second.scene = copy at hscenes
  induction second.newcomers generalizing scene copy with
  | nil => exact hscenes
  | cons newcomer newcomers ih => exact ih _ _ (hscenes.call hcoupling newcomer.number _)

variable {scene copy : Scene} (hscenes : scene.Abreast R copy)

include hscenes

theorem result_finish : (first.finish scene).2 = (second.finish copy).2 := by
  simp only [Walk.finish, Walk.added, h.newcomers, h.reported, h.updated,
    hcoupling.roster hscenes.related]

theorem finish : (first.finish scene).1.Abreast R (second.finish copy).1 := by
  have hkept : (scene.keep first.reported).Abreast R (copy.keep second.reported) :=
    h.reported ▸ hscenes.keep hcoupling first.reported
  obtain ⟨notice, hfirst⟩ := first.exists_finish scene
  obtain ⟨otherNotice, hsecond⟩ := second.exists_finish copy
  rw [hfirst, hsecond, h.result_finish hcoupling hscenes]
  split
  · exact (hkept.refreshManage hcoupling).note hcoupling _ _
  · exact hkept.note hcoupling _ _

end Abreast

end Walk

/-- Both come to the same result, and stay related. -/
theorem Scene.Abreast.reconcileWith {R : Scene → Scene → Prop} {first second : Scene}
    {react other : React} (h : first.Abreast R second) (hcoupling : Coupling R)
    (hidle : ∀ scene, react [] scene = scene) (hother : ∀ scene, other [] scene = scene)
    (entries : List Snapshot) :
    (first.reconcileWith react entries).1.Abreast R (second.reconcileWith other entries).1 ∧
      (first.reconcileWith react entries).2 = (second.reconcileWith other entries).2 := by
  have hstart : Walk.Abreast R { scene := first } { scene := second } := ⟨h, rfl, rfl, rfl⟩
  have hwalks := hstart.foldl hcoupling hidle hother entries
  have hscenes := hwalks.bringUp hcoupling
  simp only [Scene.reconcileWith, h.stillOpen, h.otherOpen, hscenes.stillOpen, hscenes.otherOpen,
    Bool.false_eq_true, if_false]
  exact ⟨hwalks.finish hcoupling hscenes, hwalks.result_finish hcoupling hscenes⟩

end ConferenceBridge
