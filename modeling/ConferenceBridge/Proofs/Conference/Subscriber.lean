import ConferenceBridge.Proofs.Conference.Replica

namespace ConferenceBridge

/-! A subscriber that was there from the start follows every run of a conference whose call list
does not call back. -/

namespace Scene

def Followed (initial : ConnectionState) (ended : Bool) (scene : Scene) : Prop :=
  ∃ replica, Replica.followAll? initial scene.changes {} = some replica ∧
    scene.conference.Tracked ended replica

variable {initial : ConnectionState} {ended : Bool}

namespace Followed

variable {scene next : Scene}

theorem of_changes_eq (h : scene.Followed initial ended) (hchanges : next.changes = scene.changes)
    (hparticipants : next.conference.participants = scene.conference.participants)
    (hstate : next.conference.state = scene.conference.state)
    (hcapabilities : next.conference.capabilities = scene.conference.capabilities) :
    next.Followed initial ended := by
  obtain ⟨replica, hfollowed, htracked⟩ := h
  exact ⟨replica, hchanges ▸ hfollowed, htracked.congr hparticipants hstate hcapabilities⟩

theorem tell (h : scene.Followed initial ended) {change : Change} {endedThen : Bool}
    (hchanges : next.changes = scene.changes ++ [change])
    (hfollow : ∀ replica, scene.conference.Tracked ended replica →
      ∃ after, Replica.follow? initial replica change = some after ∧
        next.conference.Tracked endedThen after) :
    next.Followed initial endedThen := by
  obtain ⟨replica, hfollowed, htracked⟩ := h
  obtain ⟨after, hafter, hthen⟩ := hfollow replica htracked
  refine ⟨after, ?_, hthen⟩
  rw [hchanges, Replica.followAll?_concat, hfollowed]
  exact hafter

theorem operate (h : scene.Followed initial ended) (number : Nat)
    {operation : Participant.Operation}
    (hplace : operation.isUpdate = true → ∀ participant,
      scene.conference.participants[number]? = some participant →
        participant.attached = true ∨ participant.destroyed = true) :
    (scene.operate number operation).Followed initial ended := by
  cases hparticipant : scene.participant? number with
  | none =>
      have hsame : scene.operate number operation = scene := by simp [Scene.operate, hparticipant]
      rw [hsame]
      exact h
  | some participant =>
      obtain ⟨replica, hfollowed, htracked⟩ := h
      obtain ⟨hattached, hdestroyed⟩ := participant.place_perform operation
      refine ⟨replica.settle participant (participant.perform operation).participant, ?_, ?_⟩
      · rw [changes_operate, hparticipant, Replica.followAll?_append, hfollowed]
        exact (htracked.knows hparticipant).perform fun hupdate => hplace hupdate _ hparticipant
      · have hsettled := htracked.settle hparticipant (participant.endpoint_perform operation)
          hattached hdestroyed
        rw [Conference.modify_eq_set hparticipant] at hsettled
        rw [conference_operate, Conference.modify_eq_set hparticipant]
        exact hsettled

theorem refreshManage (h : scene.Followed initial ended) :
    scene.refreshManage.Followed initial ended := by
  by_cases hfits : scene.conference.capabilities.can .manageConference =
      !scene.conference.roster.isEmpty
  · have hsame : scene.refreshManage.conference = scene.conference := by
      rw [conference_refreshManage, Conference.refreshManage, if_pos hfits]
    apply h.of_changes_eq
    · rw [changes_refreshManage, if_pos hfits]
    all_goals rw [hsame]
  · apply h.tell
    · rw [changes_refreshManage, if_neg hfits]
    · intro replica htracked
      refine ⟨_, rfl, ?_⟩
      rw [conference_refreshManage, Conference.refreshManage, if_neg hfits]
      exact { htracked with capabilities := rfl }

theorem setState (h : scene.Followed initial ended) (next : ConnectionState) :
    (scene.setState next).Followed initial ended := by
  by_cases hsame : scene.conference.state = next
  · simp only [Scene.setState, hsame, if_true]
    exact h
  · apply h.tell
    · rw [changes_setState, if_neg hsame]
    · intro replica htracked
      refine ⟨{ replica with state := next }, ?_, ?_⟩
      · simp [Replica.follow?, htracked.state, hsame]
      · rw [conference_setState]
        exact { htracked with state := rfl }

theorem setDisconnected (h : scene.Followed initial ended) (cause : DisconnectCause) :
    (scene.setDisconnected cause).Followed initial ended := by
  cases hcause : scene.conference.cause with
  | none =>
      apply (h.setState .disconnected).of_changes_eq (changes_setDisconnected hcause cause)
      all_goals rw [conference_setDisconnected hcause, conference_setState]
  | some first =>
      rw [setDisconnected_of_cause (by simp [hcause])]
      exact h

end Followed

theorem Act.followed (hact : Act scene next) (h : scene.Followed initial ended) :
    next.Followed initial ended := by
  cases hact with
  | remark effect heffect =>
      exact h.of_changes_eq (changes_record_of_isRemark heffect scene) rfl rfl rfl
  | operate number operation hoperation =>
      apply h.operate number
      intro hupdate
      rw [hoperation] at hupdate
      cases hupdate
  | setRoster roster => exact h.of_changes_eq rfl rfl rfl rfl
  | setHost host => exact h.of_changes_eq rfl rfl rfl rfl
  | refreshManage => exact h.refreshManage

theorem Acts.followed (hacts : Acts scene next) (h : scene.Followed initial ended) :
    next.Followed initial ended :=
  hacts.preserves Act.followed h

theorem Followed.tearDown {scene : Scene}
    (h : scene.Followed initial scene.conference.tornDown) :
    scene.tearDown.Followed initial scene.tearDown.conference.tornDown := by
  cases hflag : scene.conference.tornDown with
  | true =>
      rw [tearDown_of_tornDown hflag]
      exact h
  | false =>
      obtain ⟨middle, hacts, heq⟩ := acts_tearDown hflag
      have hflagged : scene.flagged.Followed initial false :=
        (hflag ▸ h).of_changes_eq rfl rfl rfl rfl
      rw [conference_tearDown, Conference.tornDown_tearDown, heq]
      apply (hacts.followed hflagged).tell (changes_announce _ _)
      intro replica htracked
      exact ⟨{ replica with destroyed := true }, rfl, { htracked with destroyed := rfl }⟩

theorem tornDown_setDisconnected (cause : DisconnectCause) (scene : Scene) :
    (scene.setDisconnected cause).conference.tornDown = scene.conference.tornDown := by
  cases hcause : scene.conference.cause with
  | none => rw [conference_setDisconnected hcause]
  | some first => rw [setDisconnected_of_cause (by simp [hcause])]

theorem Followed.applyHostState {scene : Scene}
    (h : scene.Followed initial scene.conference.tornDown) (state : ConnectionState) :
    (scene.applyHostState state).Followed initial
      (scene.applyHostState state).conference.tornDown := by
  have hnote : (scene.note (.hostState state)).Followed initial
      (scene.note (.hostState state)).conference.tornDown :=
    h.of_changes_eq (changes_note _ _) rfl rfl rfl
  cases state with
  | active | held =>
      simp only [Scene.applyHostState, conference_setState]
      exact hnote.setState _
  | disconnected =>
      apply Followed.tearDown
      rw [tornDown_setDisconnected]
      exact hnote.setDisconnected _
  | _ => exact hnote

/-- How a conference is found whenever nobody is called back within a step. -/
structure Faithful (initial : ConnectionState) (scene : Scene) : Prop where
  silent : Silent scene.register
  held : scene.dropped = false
  configured : scene.conference.config.initialState = initial
  coherent : scene.conference.Coherent
  followed : scene.Followed initial scene.conference.tornDown

namespace Faithful

variable {scene next : Scene}

theorem of_reaches (h : scene.Faithful initial) (hreach : Reaches scene next)
    (hsilent : Silent next.register)
    (hfollowed : next.Followed initial next.conference.tornDown) : next.Faithful initial where
  silent := hsilent
  held := (Reaches.dropped_eq hreach).trans h.held
  configured := by
    rw [(Reaches.evolves hreach h.held).continues.config]
    exact h.configured
  coherent := (Reaches.evolves hreach h.held).coherent h.coherent
  followed := hfollowed

theorem of_acts (h : scene.Faithful initial) (hacts : Acts scene next)
    (hreach : Reaches scene next)
    (htornDown : next.conference.tornDown = scene.conference.tornDown) : next.Faithful initial := by
  apply h.of_reaches hreach
  · rw [hacts.routine.advances.register_eq]
    exact h.silent
  · rw [htornDown]
    exact hacts.followed h.followed

theorem callParticipant (h : scene.Faithful initial) (number : Nat) (call : ParticipantCall) :
    (scene.callParticipant number call).Faithful initial := by
  have htornDown : (scene.callParticipant number call).conference.tornDown =
      scene.conference.tornDown := by
    rw [conference_callParticipant h.held]
    exact (Conference.frame_call number call _).tornDown
  have hregister := (routine_callParticipant number call scene).advances.register_eq
  apply h.of_reaches (Step.call number call).reaches (hregister ▸ h.silent)
  rw [htornDown]
  cases call with
  | update next =>
      rw [callParticipant_update]
      apply h.followed.operate
      intro _ participant hparticipant
      by_cases hmem : (participant.endpoint, number) ∈ scene.conference.roster.entries
      · exact .inl (h.coherent.isLive_of_mem hparticipant hmem).attached
      · exact .inr (h.coherent.unlisted number participant hparticipant hmem).destroyed
  | disconnect cause => exact (acts_callParticipant rfl number scene).followed h.followed
  | destroy => exact (acts_callParticipant rfl number scene).followed h.followed

theorem setDisconnected (h : scene.Faithful initial) (cause : DisconnectCause) :
    (scene.setDisconnected cause).Faithful initial := by
  apply h.of_reaches (Step.disconnect cause).reaches
  · rw [(advances_setDisconnected cause scene).register_eq]
    exact h.silent
  · rw [tornDown_setDisconnected]
    exact h.followed.setDisconnected cause

theorem applyHostState (h : scene.Faithful initial) (state : ConnectionState) :
    (scene.applyHostState state).Faithful initial := by
  apply h.of_reaches (Step.follow state).reaches
  · rw [(advances_applyHostState state scene).register_eq]
    exact h.silent
  · exact h.followed.applyHostState state

theorem tearDown (h : scene.Faithful initial) : scene.tearDown.Faithful initial := by
  apply h.of_reaches Step.tearDown.reaches
  · rw [(advances_tearDown scene).register_eq]
    exact h.silent
  · exact h.followed.tearDown

theorem move (h : scene.Faithful initial) (hmove : Move scene next) : next.Faithful initial := by
  cases hmove with
  | remark effect heffect =>
      exact h.of_acts (.single (.remark effect heffect)) (Step.remark effect heffect).reaches rfl
  | handle handle => exact { h with }
  | call number call => exact h.callParticipant number call
  | remember state hopen =>
      exact h.of_reaches (Step.remember state).reaches h.silent
        (h.followed.of_changes_eq rfl rfl rfl rfl)
  | follow state hopen => exact h.applyHostState state
  | disconnect cause hopen => exact h.setDisconnected cause
  | tearDown hopen => exact h.tearDown

/-- A publication during which nobody calls back: the subscribers hear of the newcomer before
anything else happens. -/
theorem enroll (h : scene.Faithful initial) {react : React}
    (hidle : ∀ scene, react [] scene = scene) {entry : Snapshot} {roster : Roster Nat}
    (hopen : scene.conference.tornDown = false)
    (habsent : scene.conference.roster.insertIfAbsent entry.endpoint
      scene.conference.participants.length = .stored roster) :
    (scene.enrollWith react entry roster).Faithful initial := by
  have hwelcomed : scene.enrollWith react entry roster =
      ((scene.enroll entry roster).note (.participantAdded entry.endpoint
        (.forPhone scene.conference.host.phone))).announce (.participantAdded entry.endpoint) := by
    rw [enrollWith, nextCalls_of_silent h.silent, hidle]
  have hreach : Reaches scene (scene.enrollWith react entry roster) := by
    rw [hwelcomed]
    exact ((Step.enroll entry hopen habsent).reaches.tail (.remark _ rfl)).tail (.welcome _)
  apply h.of_reaches hreach
  · rw [hwelcomed]
    exact h.silent.tail
  · rw [hwelcomed]
    apply h.followed.tell
    · rw [changes_announce, changes_note, changes_enroll]
    · intro replica htracked
      obtain ⟨hnobody, hafter⟩ := htracked.enroll h.coherent habsent
      refine ⟨_, ?_, hafter⟩
      simp [Replica.follow?, hnobody, h.configured]

theorem walkClosed (initial : ConnectionState) :
    WalkClosed fun scene next => scene.Faithful initial → next.Faithful initial where
  refl _ h := h
  trans hfirst hsecond h := hsecond (hfirst h)
  move hmove h := h.move hmove
  enroll entry hidle _ hopen habsent h := h.enroll hidle hopen habsent
  keep {scene} listed hopen h := by
    apply h.of_acts (acts_keep listed scene) (Step.keep listed hopen).reaches
    rw [conference_keep]
    exact (Conference.frame_keep listed _).tornDown
  dismiss {scene} htorn h := by
    apply h.of_acts (acts_dismissAll scene) (Step.dismiss htorn).reaches
    rw [conference_dismissAll]
    exact (Conference.frame_dismissAll _).tornDown
  refreshManage scene h := by
    apply h.of_acts (.single .refreshManage) Step.refreshManage.reaches
    rw [conference_refreshManage]
    exact (Conference.frame_refreshManage _).tornDown

theorem start (id : ConferenceId) (config : ConferenceConfig) (handle : Handle) :
    (openOver id config handle).Faithful config.initialState where
  silent := by
    intro calls hcalls
    cases hcalls
  held := rfl
  configured := rfl
  coherent := .of_no_participants rfl rfl
  followed := by
    refine ⟨{}, rfl, ?_⟩
    constructor
    · intro number participant hparticipant
      cases hparticipant
    · intro endpoint _
      rfl
    · intro first second participant other hparticipant
      cases hparticipant
    · intro first second participant other hparticipant
      cases hparticipant
    · rfl
    · rfl
    · rfl

end Faithful

variable {id : ConferenceId} {config : ConferenceConfig} {handle : Handle} {start : Scene}

/-- If the call list calls nobody back, then a subscriber that was there from the start can follow
every change, and after each request its replica is what can be seen of the conference. -/
theorem replica_faithful (hopen : openOver? id config handle = .ok start)
    (requests : List Request)
    (hsilent : ∀ register, .registerChanged register ∈ requests → Silent register) :
    let scene := start.run requests
    Replica.followAll? config.initialState scene.changes {} = some scene.conference.replica := by
  intro scene
  obtain ⟨rfl, -⟩ := eq_openOver_of_openOver? hopen
  have hfaithful : scene.Faithful config.initialState := by
    apply (Faithful.walkClosed config.initialState).requests.run _ _ _ (.start id config handle)
    · intro state _ scene h
      exact h.applyHostState state
    · intro register hmem scene h
      exact { h with silent := hsilent register hmem }
  obtain ⟨replica, hfollowed, htracked⟩ := hfaithful.followed
  rw [hfollowed, htracked.eq_replica hfaithful.coherent]

def quietRun : List Request :=
  [.registerChanged [[], []], .reconcile firstList, .reconcile secondList, .hostState .active,
    .participant 0 .destroy, .event (.stateChanged 6)]

theorem replica_faithful_quietRun :
    (∀ register, .registerChanged register ∈ quietRun → Silent register) ∧
      (fresh.run quietRun).changes.length = 17 ∧
      Replica.followAll? .held (fresh.run quietRun).changes {} =
        some (fresh.run quietRun).conference.replica ∧
      (fresh.run quietRun).conference.replica.destroyed = true := by
  have hsilent : ∀ register, .registerChanged register ∈ quietRun → Silent register := by
    intro register hmem
    simp only [quietRun, List.mem_cons, Request.registerChanged.injEq, reduceCtorEq,
      List.not_mem_nil, or_false] at hmem
    subst hmem
    simp [Silent]
  exact ⟨hsilent, by decide, replica_faithful openOver?_fresh quietRun hsilent, rfl⟩

end Scene

end ConferenceBridge
