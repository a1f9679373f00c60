import ConferenceBridge.Proofs.Conference.Coupling

namespace ConferenceBridge

/-! The first disconnect that is reported to a conference gives its cause, and nothing takes that
back. Beside each function that can bring such reports stands one that lists them, also those that
others bring who are called back meanwhile. -/

/-- What is reported while the call list does what it has to do. -/
abbrev Listen (β : Type) := List RegisterCall → Scene → List β

/-- All that is reported while one value after the other is dealt with. -/
def gather {σ α β : Type} (act : σ → α → σ) (report : σ → α → List β) : List α → σ → List β
  | [], _ => []
  | value :: values, state => report state value ++ gather act report values (act state value)

/-- The call list is called, and may call back, only for someone new. -/
def Walk.hears {β : Type} (listen : Listen β) (walk : Walk) (entry : Snapshot) : List β :=
  if walk.scene.conference.tornDown ∨ walk.knows entry.endpoint then []
  else
    match walk.scene.conference.roster.insertIfAbsent entry.endpoint
        walk.scene.conference.participants.length with
    | .present _ => []
    | .stored roster => listen walk.scene.nextCalls.1 (walk.scene.enroll entry roster)

namespace Scene

def hostCause (scene : Scene) : DisconnectCause :=
  if scene.conference.host.released then .unknown else scene.handle.cause.disconnectCause

def listDisconnects (react : React) (listen : Listen DisconnectCause) (entries : List Snapshot)
    (scene : Scene) : List DisconnectCause :=
  if scene.conference.tornDown then []
  else gather (Walk.enterWith react) (Walk.hears listen) entries { scene }

def eventDisconnects (react : React) (listen : Listen DisconnectCause) (event : HostEvent)
    (scene : Scene) : List DisconnectCause :=
  if scene.conference.tornDown then []
  else
    match event with
    | .stateChanged code =>
        if ConnectionState.ofCode? code = some .disconnected then [scene.hostCause] else []
    | .disconnected cause => [cause.disconnectCause]
    | .destroyed => []
    | .participantsChanged entries =>
        (scene.note (.listReceived entries.length)).listDisconnects react listen entries

def callDisconnects (react : React) (listen : Listen DisconnectCause) (scene : Scene) :
    RegisterCall → List DisconnectCause
  | .event event => scene.eventDisconnects react listen event
  | .participant _ _ => []

def disconnectsAt : Nat → Listen DisconnectCause
  | 0, _, _ => []
  | depth + 1, calls, scene =>
      gather (performWith (reactAt depth)) (callDisconnects (reactAt depth) (disconnectsAt depth))
        calls scene

def processDisconnects (event : HostEvent) (scene : Scene) : List DisconnectCause :=
  scene.eventDisconnects (reactAt scene.register.length) (disconnectsAt scene.register.length) event

def performDisconnects (scene : Scene) (call : RegisterCall) : List DisconnectCause :=
  scene.callDisconnects (reactAt scene.register.length) (disconnectsAt scene.register.length) call

def queueDisconnects : List HostEvent → Scene → List DisconnectCause
  | [], _ => []
  | event :: events, scene =>
      scene.processDisconnects event ++
        if (scene.process event).conference.tornDown then []
        else queueDisconnects events (scene.process event)

def passDisconnects (command : HostCommand) (scene : Scene) : List DisconnectCause :=
  match scene.conference.host.obstacle? scene.handle command with
  | some _ => []
  | none =>
      gather perform performDisconnects (scene.handle.answer command).allCalls
        (scene.record (.called command))

/-- The disconnects that are reported while a request is served, in the order in which they
come. -/
def disconnects (scene : Scene) : Request → List DisconnectCause
  | .event event => scene.processDisconnects event
  | .queue events => scene.queueDisconnects events
  | .hostState state => if state = .disconnected then [scene.hostCause] else []
  | .reconcile entries =>
      scene.listDisconnects (reactAt scene.register.length) (disconnectsAt scene.register.length)
        entries
  | .action (.command command) =>
      (if command = .hangUp then scene.note .hangUpAsked else scene).passDisconnects command
  | _ => []

/-- The first of these disconnects gives the cause, unless there was one before. -/
def Heeds (disconnects : List DisconnectCause) (scene next : Scene) : Prop :=
  next.conference.cause = scene.conference.cause.or disconnects.head?

variable {scene middle next : Scene} {react : React} {listen : Listen DisconnectCause}

theorem Heeds.refl (scene : Scene) : Heeds [] scene scene :=
  Option.or_none.symm

theorem Heeds.of_frame (h : scene.conference.Frame next.conference) : Heeds [] scene next :=
  h.cause.trans Option.or_none.symm

theorem Heeds.trans {first second : List DisconnectCause} (hfirst : Heeds first scene middle)
    (hsecond : Heeds second middle next) : Heeds (first ++ second) scene next := by
  rw [Heeds, hsecond, hfirst, List.head?_append, Option.or_assoc]

theorem Heeds.andQuiet {disconnects : List DisconnectCause} (h : Heeds disconnects scene middle)
    (hquiet : Heeds [] middle next) : Heeds disconnects scene next :=
  List.append_nil disconnects ▸ h.trans hquiet

theorem heeds_gather {σ α : Type} {act : σ → α → σ} {report : σ → α → List DisconnectCause}
    (view : σ → Scene)
    (h : ∀ state value, Heeds (report state value) (view state) (view (act state value)))
    (values : List α) (state : σ) :
    Heeds (gather act report values state) (view state) (view (values.foldl act state)) := by
  induction values generalizing state with
  | nil => exact .refl _
  | cons value values ih => exact (h state value).trans (ih _)

theorem Heeds.foldl {α : Type} {act : Scene → α → Scene}
    (h : ∀ scene value, Heeds [] scene (act scene value)) (values : List α) (scene : Scene) :
    Heeds [] scene (values.foldl act scene) := by
  induction values generalizing scene with
  | nil => exact .refl _
  | cons value values ih => exact (h scene value).trans (ih _)

theorem heeds_record (effect : Effect) (scene : Scene) : Heeds [] scene (scene.record effect) :=
  .of_frame (.refl _)

theorem heeds_callParticipant (number : Nat) (call : ParticipantCall) (scene : Scene) :
    Heeds [] scene (scene.callParticipant number call) := by
  refine .of_frame ?_
  rcases callParticipant_eq_or number call scene with heq | ⟨-, heq⟩
  · rw [heq, conference_operate]
    exact Conference.frame_modify number _ _
  · rw [heq, conference_forget, conference_operate]
    exact (Conference.frame_modify number _ _).trans (Conference.frame_forget number _)

theorem heeds_setDisconnected (cause : DisconnectCause) (scene : Scene) :
    Heeds [cause] scene (scene.setDisconnected cause) := by
  cases hcause : scene.conference.cause with
  | some first =>
      rw [setDisconnected_of_cause (by simp [hcause]), Heeds, hcause]
      rfl
  | none =>
      rw [Heeds, conference_setDisconnected hcause, hcause]
      rfl

theorem heeds_tearDown (scene : Scene) : Heeds [] scene scene.tearDown := by
  rw [Heeds, conference_tearDown, Conference.cause_tearDown]
  exact Option.or_none.symm

theorem disconnectCause_host (scene : Scene) :
    (scene.conference.host.cause scene.handle).disconnectCause = scene.hostCause := by
  unfold HostLine.cause hostCause
  split <;> rfl

theorem heeds_applyHostState (state : ConnectionState) (scene : Scene) :
    Heeds (if state = .disconnected then [scene.hostCause] else []) scene
      (scene.applyHostState state) := by
  have hnoted := heeds_record (.noted (.conference (.hostState state))) scene
  have hset (next : ConnectionState) :
      Heeds [] scene ((scene.note (.hostState state)).setState next) := by
    rw [Heeds, conference_setState]
    exact Option.or_none.symm
  cases state with
  | active | held => exact hset _
  | disconnected =>
      have hcaused := heeds_setDisconnected scene.hostCause (scene.note (.hostState .disconnected))
      rw [← disconnectCause_host] at hcaused ⊢
      exact hnoted.trans (hcaused.trans (heeds_tearDown _))
  | _ => exact hnoted

theorem heeds_enroll (entry : Snapshot) (roster : Roster Nat) (scene : Scene) :
    Heeds [] scene (scene.enroll entry roster) :=
  Option.or_none.symm

theorem heeds_bringUp (walk : Walk) : Heeds [] walk.scene walk.bringUp :=
  .foldl (fun scene newcomer => heeds_callParticipant newcomer.number _ scene) walk.newcomers _

theorem heeds_finishTornDown (walk : Walk) (scene : Scene) :
    Heeds [] scene (walk.finishTornDown scene).1 := by
  refine .of_frame ?_
  have hframe := Conference.frame_dismissAll scene.conference
  rw [← conference_dismissAll] at hframe
  exact hframe

theorem heeds_finish (walk : Walk) (scene : Scene) : Heeds [] scene (walk.finish scene).1 := by
  have hkept := Conference.frame_keep walk.reported scene.conference
  rw [← conference_keep] at hkept
  have hmanaged := Conference.frame_refreshManage (scene.keep walk.reported).conference
  rw [← conference_refreshManage] at hmanaged
  obtain ⟨notice, heq⟩ := walk.exists_finish scene
  rw [heq]
  refine .of_frame ?_
  rw [conference_note]
  split
  · exact hkept.trans hmanaged
  · exact hkept

section Publication

variable (hreact : ∀ calls scene, Heeds (listen calls scene) scene (react calls scene))

include hreact

theorem heeds_enterWith (walk : Walk) (entry : Snapshot) :
    Heeds (walk.hears listen entry) walk.scene (walk.enterWith react entry).scene := by
  unfold Walk.hears
  cases htorn : walk.scene.conference.tornDown with
  | true =>
      rw [if_pos (.inl rfl), Walk.enterWith, if_pos htorn]
      exact .refl _
  | false =>
      cases hknown : walk.knows entry.endpoint with
      | true =>
          rw [if_pos (.inr rfl), Walk.enterWith_of_known htorn react hknown]
          exact .refl _
      | false =>
          rw [if_neg (by simp)]
          cases hinsert : walk.scene.conference.roster.insertIfAbsent entry.endpoint
              walk.scene.conference.participants.length with
          | present number =>
              rw [Walk.enterWith_of_present htorn react hknown hinsert]
              exact heeds_callParticipant number _ _
          | stored roster =>
              rw [Walk.enterWith_of_absent htorn react hknown hinsert]
              have hcalled := (heeds_enroll entry roster walk.scene).trans
                (hreact walk.scene.nextCalls.1 _)
              exact hcalled

theorem heeds_reconcileWith (entries : List Snapshot) (scene : Scene) :
    Heeds (scene.listDisconnects react listen entries) scene
      (scene.reconcileWith react entries).1 := by
  unfold listDisconnects reconcileWith
  cases htorn : scene.conference.tornDown with
  | true => exact heeds_record _ scene
  | false =>
      simp only [Bool.false_eq_true, if_false]
      have hwalk := heeds_gather Walk.scene (heeds_enterWith hreact) entries { scene }
      have hbrought := hwalk.andQuiet (heeds_bringUp _)
      split
      · exact hbrought.andQuiet (heeds_finishTornDown _ _)
      · exact hbrought.andQuiet (heeds_finish _ _)

theorem heeds_processWith (event : HostEvent) (scene : Scene) :
    Heeds (scene.eventDisconnects react listen event) scene (scene.processWith react event) := by
  unfold eventDisconnects processWith
  cases htorn : scene.conference.tornDown with
  | true => exact heeds_record _ scene
  | false =>
      simp only [Bool.false_eq_true, if_false]
      cases event with
      | stateChanged code =>
          cases hcode : ConnectionState.ofCode? code with
          | none =>
              simp only [hcode]
              exact heeds_record _ scene
          | some state =>
              simp only [hcode, Option.some.injEq]
              exact heeds_applyHostState state (scene.remember state)
      | disconnected cause => exact heeds_setDisconnected _ scene
      | destroyed => exact (heeds_record _ scene).trans (heeds_tearDown _)
      | participantsChanged entries =>
          exact (heeds_record _ scene).trans (heeds_reconcileWith hreact entries _)

theorem heeds_performWith (scene : Scene) (call : RegisterCall) :
    Heeds (scene.callDisconnects react listen call) scene (scene.performWith react call) := by
  cases call with
  | event event => exact heeds_processWith hreact event scene
  | participant number call => exact heeds_callParticipant number call scene

end Publication

theorem heeds_reactAt (depth : Nat) (calls : List RegisterCall) (scene : Scene) :
    Heeds (disconnectsAt depth calls scene) scene (reactAt depth calls scene) := by
  induction depth generalizing calls scene with
  | zero => exact .refl scene
  | succ depth ih => exact heeds_gather id (heeds_performWith ih) calls scene

theorem heeds_process (event : HostEvent) (scene : Scene) :
    Heeds (scene.processDisconnects event) scene (scene.process event) :=
  heeds_processWith (heeds_reactAt _) event scene

theorem heeds_perform (scene : Scene) (call : RegisterCall) :
    Heeds (scene.performDisconnects call) scene (scene.perform call) :=
  heeds_performWith (heeds_reactAt _) scene call

theorem heeds_processQueue (events : List HostEvent) (scene : Scene) :
    Heeds (scene.queueDisconnects events) scene (scene.processQueue events) := by
  induction events generalizing scene with
  | nil => exact heeds_record _ scene
  | cons event events ih =>
      simp only [queueDisconnects, processQueue]
      refine (heeds_process event scene).trans ?_
      split
      · exact heeds_record _ _
      · exact ih _

theorem heeds_pass (command : HostCommand) (scene : Scene) :
    Heeds (scene.passDisconnects command) scene (scene.pass command).1 := by
  unfold passDisconnects pass
  cases scene.conference.host.obstacle? scene.handle command with
  | some notice => exact heeds_record _ scene
  | none =>
      have hcalled := heeds_gather id heeds_perform (scene.handle.answer command).allCalls
        (scene.record (.called command))
      exact (heeds_record _ scene).trans (hcalled.andQuiet (heeds_record _ _))

theorem heeds_serve (request : Request) (scene : Scene) :
    Heeds (scene.disconnects request) scene (scene.serve request) := by
  cases request with
  | event event => exact heeds_process event scene
  | queue events => exact heeds_processQueue events scene
  | hostState state => exact heeds_applyHostState state scene
  | reconcile entries => exact heeds_reconcileWith (heeds_reactAt _) entries scene
  | action action =>
      cases action with
      | command command =>
          simp only [disconnects, serve, act, Scene.command]
          split
          · exact (heeds_record _ scene).trans (heeds_pass command _)
          · exact heeds_pass command scene
      | split endpoint => exact heeds_record _ scene
      | merge connection =>
          simp only [disconnects, serve, act, Scene.merge]
          split
          · exact heeds_record _ scene
          · split <;> exact (heeds_record _ scene).trans (heeds_record _ _)
      | offer connection => exact heeds_record _ scene
  | participant number call => exact heeds_callParticipant number call scene
  | handleChanged handle => exact Option.or_none.symm
  | registerChanged register => exact Option.or_none.symm

theorem heeds_run (requests : List Request) (scene : Scene) :
    Heeds (gather serve disconnects requests scene) scene (scene.run requests) :=
  heeds_gather id (fun scene request => heeds_serve request scene) requests scene

end Scene

end ConferenceBridge
