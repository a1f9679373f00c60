import ConferenceBridge.Proofs.Conference.Closure

namespace ConferenceBridge

/-! Whatever is asked of a conference, and however deep others call it back meanwhile, what happens
is one sequence of steps, and nobody is called back within a step. So what each step keeps holds
whenever others have a look. -/

namespace Scene

inductive Step : Scene → Scene → Prop
  | remark (effect : Effect) (h : effect.isRemark = true) : Step scene (scene.record effect)
  | surroundings (handle : Handle) (register : List (List RegisterCall)) :
      Step scene { scene with handle, register }
  | enroll (entry : Snapshot) (hopen : scene.conference.tornDown = false)
      (habsent : scene.conference.roster.insertIfAbsent entry.endpoint
        scene.conference.participants.length = .stored roster) :
      Step scene (scene.enroll entry roster)
  | welcome (endpoint : Endpoint) : Step scene (scene.announce (.participantAdded endpoint))
  | call (number : Nat) (call : ParticipantCall) : Step scene (scene.callParticipant number call)
  | keep (listed : List Endpoint) (hopen : scene.conference.tornDown = false) :
      Step scene (scene.keep listed)
  | dismiss (htorn : scene.conference.tornDown = true) : Step scene scene.dismissAll.1
  | refreshManage : Step scene scene.refreshManage
  | remember (state : ConnectionState) : Step scene (scene.remember state)
  | follow (state : ConnectionState) : Step scene (scene.applyHostState state)
  | disconnect (cause : DisconnectCause) : Step scene (scene.setDisconnected cause)
  | tearDown : Step scene scene.tearDown

theorem Step.dropped_eq (h : Step scene next) : next.dropped = scene.dropped := by
  cases h with
  | remark effect heffect => rfl
  | surroundings handle register => rfl
  | enroll entry hopen habsent => rfl
  | welcome endpoint => rfl
  | call number call => exact (routine_callParticipant _ _ _).advances.dropped_eq
  | keep listed hopen => exact (routine_keep _ _).advances.dropped_eq
  | dismiss htorn => exact (routine_dismissAll _).advances.dropped_eq
  | refreshManage => exact (routine_refreshManage _).advances.dropped_eq
  | remember state => rfl
  | follow state => exact (advances_applyHostState _ _).dropped_eq
  | disconnect cause => exact (advances_setDisconnected _ _).dropped_eq
  | tearDown => exact (advances_tearDown _).dropped_eq

theorem Step.effects_grow (h : Step scene next) : scene.effects <+: next.effects := by
  cases h with
  | remark effect heffect => exact ((Advances.refl scene).record _).effects_grow
  | surroundings handle register => exact List.prefix_rfl
  | enroll entry hopen habsent => exact ⟨_, (effects_enroll entry _ scene).symm⟩
  | welcome endpoint => exact ((Advances.refl scene).record _).effects_grow
  | call number call => exact (routine_callParticipant _ _ _).advances.effects_grow
  | keep listed hopen => exact (routine_keep _ _).advances.effects_grow
  | dismiss htorn => exact (routine_dismissAll _).advances.effects_grow
  | refreshManage => exact (routine_refreshManage _).advances.effects_grow
  | remember state => exact List.prefix_rfl
  | follow state => exact (advances_applyHostState _ _).effects_grow
  | disconnect cause => exact (advances_setDisconnected _ _).effects_grow
  | tearDown => exact (advances_tearDown _).effects_grow

abbrev Reaches : Scene → Scene → Prop :=
  Relation.ReflTransGen Step

theorem Step.reaches (h : Step scene next) : Reaches scene next :=
  .single h

theorem Reaches.dropped_eq (h : Reaches scene next) : next.dropped = scene.dropped := by
  induction h with
  | refl => rfl
  | tail _ hlast ih => exact hlast.dropped_eq.trans ih

/-- What each step keeps, as long as someone holds the conference, is kept in between, too. -/
theorem Reaches.preserves {P : Scene → Prop}
    (hstep : ∀ {scene next}, Step scene next → scene.dropped = false → P scene → P next)
    (h : Reaches scene next) (hheld : scene.dropped = false) (hscene : P scene) : P next := by
  induction h with
  | refl => exact hscene
  | tail hbefore hlast ih => exact hstep hlast ((Reaches.dropped_eq hbefore).trans hheld) ih

theorem Reaches.effects_grow (h : Reaches scene next) : scene.effects <+: next.effects := by
  induction h with
  | refl => exact List.prefix_rfl
  | tail _ hlast ih => exact ih.trans hlast.effects_grow

theorem Move.step (h : Move scene next) : Step scene next := by
  cases h with
  | remark effect heffect => exact .remark effect heffect
  | handle handle => exact .surroundings handle scene.register
  | call number call => exact .call number call
  | remember state hopen => exact .remember state
  | follow state hopen => exact .follow state
  | disconnect cause hopen => exact .disconnect cause
  | tearDown hopen => exact .tearDown

theorem walkClosed_reaches : WalkClosed Reaches where
  refl _ := .refl
  trans := Relation.ReflTransGen.trans
  move h := h.step.reaches
  enroll entry _ hreact hopen habsent :=
    (Step.enroll entry hopen habsent).reaches.trans <| (hreact _ _).trans <|
      (Step.remark _ rfl).reaches.trans (Step.welcome _).reaches
  keep listed hopen := (Step.keep listed hopen).reaches
  dismiss htorn := (Step.dismiss htorn).reaches
  refreshManage _ := Step.refreshManage.reaches

/-! Within a step nobody is called back, but it has parts of its own. -/

/-- The parts of which a step is made, unless it is one of enrolment, welcome and surroundings. -/
inductive Beat : Scene → Scene → Prop
  | act (h : Act scene next) : Beat scene next
  | update (number : Nat) (next : ConnectionState) :
      Beat scene (scene.operate number (.call (.update next)))
  | hostState (state : ConnectionState) : Beat scene (scene.note (.hostState state))
  | setState (state : ConnectionState) : Beat scene (scene.setState state)
  | setCause (cause : DisconnectCause) :
      Beat scene ({ scene with
        conference := { scene.conference with cause := some cause } }.note (.disconnected cause))
  | flag : Beat scene scene.flagged
  | conclude : Beat scene (scene.announce .destroyed)

abbrev Beats : Scene → Scene → Prop :=
  Relation.ReflTransGen Beat

theorem Acts.beats (h : Acts scene next) : Beats scene next := by
  induction h with
  | refl => exact .refl
  | tail _ hlast ih => exact ih.tail (.act hlast)

theorem beats_callParticipant (number : Nat) (call : ParticipantCall) (scene : Scene) :
    Beats scene (scene.callParticipant number call) := by
  cases call with
  | update next =>
      rw [callParticipant_update]
      exact .single (.update number next)
  | disconnect cause => exact (acts_callParticipant rfl number scene).beats
  | destroy => exact (acts_callParticipant rfl number scene).beats

theorem beats_setDisconnected (cause : DisconnectCause) (scene : Scene) :
    Beats scene (scene.setDisconnected cause) := by
  unfold setDisconnected
  split
  · exact .refl
  · exact .tail (.single (.setCause cause)) (.setState .disconnected)

theorem beats_tearDown (scene : Scene) : Beats scene scene.tearDown := by
  cases hflag : scene.conference.tornDown with
  | true => rw [tearDown_of_tornDown hflag]
  | false =>
      obtain ⟨middle, hacts, heq⟩ := acts_tearDown hflag
      rw [heq]
      exact .tail (.head .flag hacts.beats) .conclude

theorem beats_applyHostState (state : ConnectionState) (scene : Scene) :
    Beats scene (scene.applyHostState state) := by
  have hnote : Beats scene (scene.note (.hostState state)) := .single (.hostState state)
  cases state with
  | active | held => exact hnote.tail (.setState _)
  | disconnected => exact hnote.trans ((beats_setDisconnected _ _).trans (beats_tearDown _))
  | _ => exact hnote

/-- A step is made of beats, or it is one of the three that are not. -/
inductive Rhythm (scene : Scene) : Scene → Prop
  | beats (h : Beats scene next) : Rhythm scene next
  | surroundings (handle : Handle) (register : List (List RegisterCall)) :
      Rhythm scene { scene with handle, register }
  | enroll (entry : Snapshot) (hopen : scene.conference.tornDown = false)
      (habsent : scene.conference.roster.insertIfAbsent entry.endpoint
        scene.conference.participants.length = .stored roster) :
      Rhythm scene (scene.enroll entry roster)
  | welcome (endpoint : Endpoint) : Rhythm scene (scene.announce (.participantAdded endpoint))

theorem Step.rhythm (h : Step scene next) : scene.Rhythm next := by
  cases h with
  | remark effect heffect => exact .beats (.single (.act (.remark effect heffect)))
  | surroundings handle register => exact .surroundings handle register
  | enroll entry hopen habsent => exact .enroll entry hopen habsent
  | welcome endpoint => exact .welcome endpoint
  | call number call => exact .beats (beats_callParticipant number call scene)
  | keep listed hopen => exact .beats (acts_keep listed scene).beats
  | dismiss htorn => exact .beats (acts_dismissAll scene).beats
  | refreshManage => exact .beats (.single (.act .refreshManage))
  | remember state => exact .beats (.single (.act (.setHost _)))
  | follow state => exact .beats (beats_applyHostState state scene)
  | disconnect cause => exact .beats (beats_setDisconnected cause scene)
  | tearDown => exact .beats (beats_tearDown scene)

theorem Beats.preserves {P : Scene → Prop}
    (hbeat : ∀ {scene next}, Beat scene next → P scene → P next) (h : Beats scene next)
    (hscene : P scene) : P next := by
  induction h with
  | refl => exact hscene
  | tail _ hlast ih => exact hbeat hlast ih

theorem Reaches.preserves_of_beats {P : Scene → Prop}
    (hbeat : ∀ {scene next}, Beat scene next → P scene → P next)
    (hsurroundings : ∀ {scene} handle register, P scene → P { scene with handle, register })
    (henroll : ∀ {scene roster} entry, P scene → P (scene.enroll entry roster))
    (hwelcome : ∀ {scene} endpoint, P scene → P (scene.announce (.participantAdded endpoint)))
    (h : Reaches scene next) (hscene : P scene) : P next := by
  induction h with
  | refl => exact hscene
  | tail _ hlast ih =>
      cases hlast.rhythm with
      | beats hbeats => exact hbeats.preserves hbeat ih
      | surroundings handle register => exact hsurroundings handle register ih
      | enroll entry hopen habsent => exact henroll entry ih
      | welcome endpoint => exact hwelcome endpoint ih

theorem Beat.id_eq (h : Beat scene next) : next.conference.id = scene.conference.id := by
  cases h with
  | act hact =>
      cases hact with
      | operate number operation hoperation =>
          rw [conference_operate]
          rfl
      | refreshManage =>
          rw [conference_refreshManage, Conference.refreshManage]
          split <;> rfl
      | _ => rfl
  | update number next =>
      rw [conference_operate]
      rfl
  | setState state => rw [conference_setState]
  | _ => rfl

theorem Reaches.id_eq (h : Reaches scene next) : next.conference.id = scene.conference.id :=
  h.preserves_of_beats (P := fun later => later.conference.id = scene.conference.id)
    (fun hbeat hid => hbeat.id_eq.trans hid) (fun _ _ hid => hid) (fun _ hid => hid)
    (fun _ hid => hid) rfl

theorem id_process (event : HostEvent) (scene : Scene) :
    (scene.process event).conference.id = scene.conference.id :=
  (walkClosed_reaches.requests.process event scene).id_eq

theorem reaches_run (requests : List Request) (scene : Scene) :
    Reaches scene (scene.run requests) :=
  walkClosed_reaches.requests.run (fun state _ _ => (Step.follow state).reaches)
    (fun register _ scene => (Step.surroundings scene.handle register).reaches) scene

end Scene

end ConferenceBridge
