import ConferenceBridge.Proofs.Conference.FirstCause
import ConferenceBridge.Proofs.Conference.TearDown

namespace ConferenceBridge

/-! Participants are called from outside, left out of lists, and leave with the whole conference.
Beside each function that can bring this about stands one that lists it, also what others bring
about who are called back meanwhile. -/

namespace Scene

structure Call where
  number : Nat
  asked : ParticipantCall
  scene : Scene

namespace Call

def succeeds (call : Call) : Bool :=
  call.scene.accepts call.number (.call call.asked)

/-- Whether the conference is called in turn, as the observer of the participant. -/
def tells (call : Call) : Bool :=
  !call.scene.dropped && (call.scene.participant? call.number).any fun participant =>
    (participant.perform (.call call.asked)).notifies

end Call

def dismantleCalls (scene : Scene) (entry : Endpoint × Nat) : List Call :=
  let silenced := (scene.operate entry.2 .unobserve).operate entry.2 .detach
  [⟨entry.2, .disconnect .aborted, silenced⟩,
    ⟨entry.2, .destroy, silenced.callParticipant entry.2 (.disconnect .aborted)⟩]

def dismantleAllCalls (entries : List (Endpoint × Nat)) (scene : Scene) : List Call :=
  gather (fun scene entry => scene.dismantle entry) dismantleCalls entries scene

def keepCalls (listed : List Endpoint) (scene : Scene) : List Call :=
  let (roster, leaving) := scene.conference.roster.splitBy listed
  (scene.setRoster roster).dismantleAllCalls leaving

def dismissCalls (scene : Scene) : List Call :=
  let entries := scene.conference.roster.entries
  let scene := scene.setRoster .empty
  let scene := if entries.isEmpty then scene else scene.note (.allDismissed entries.length)
  scene.dismantleAllCalls entries

def tearDownCalls (scene : Scene) : List Call :=
  if scene.conference.tornDown then [] else scene.flagged.dismissCalls

/-- A list on its way, when all its entries are entered. -/
def walked (depth : Nat) (entries : List Snapshot) (scene : Scene) : Walk :=
  entries.foldl (Walk.enterWith (reactAt depth)) { scene }

def hungUp (scene : Scene) : Scene :=
  (scene.note (.hostState .disconnected)).setDisconnected scene.hostCause

end Scene

inductive Incident
  | called (call : Scene.Call)
  | listed (depth : Nat) (entries : List Snapshot) (scene : Scene)
  | hungUp (scene : Scene)
  | destroyed (scene : Scene)

namespace Incident

/-- The scene that it finds. Nobody has to leave before the whole list is gone through. -/
def before : Incident → Scene
  | called call => call.scene
  | listed depth entries scene => (scene.walked depth entries).bringUp
  | hungUp scene | destroyed scene => scene

def after : Incident → Scene
  | called call => call.scene.callParticipant call.number call.asked
  | listed depth entries scene => (scene.reconcileWith (Scene.reactAt depth) entries).1
  | hungUp scene => scene.applyHostState .disconnected
  | destroyed scene => scene.tearDown

/-- A list leaves out whoever takes part when it is gone through and has no entry. With the host
everyone is dropped who takes part. -/
def Drops (number : Nat) : Incident → Prop
  | called _ => False
  | listed depth entries scene =>
      ∃ endpoint, (endpoint, number) ∈
          (scene.walked depth entries).bringUp.conference.roster.entries ∧
        endpoint ∉ entries.map (·.endpoint)
  | hungUp scene | destroyed scene => number ∈ scene.conference.roster.members

def calls : Incident → List Scene.Call
  | called call => [call]
  | listed depth entries scene =>
      let walk := scene.walked depth entries
      if walk.bringUp.conference.tornDown then walk.bringUp.dismissCalls
      else walk.bringUp.keepCalls walk.reported
  | hungUp scene => scene.hungUp.tearDownCalls
  | destroyed scene => scene.tearDownCalls

end Incident

namespace Scene

def listIncidents (depth : Nat) (listen : Listen Incident) (entries : List Snapshot)
    (scene : Scene) : List Incident :=
  if scene.conference.tornDown then []
  else gather (Walk.enterWith (reactAt depth)) (Walk.hears listen) entries { scene } ++
    [.listed depth entries scene]

def eventIncidents (depth : Nat) (listen : Listen Incident) (event : HostEvent) (scene : Scene) :
    List Incident :=
  if scene.conference.tornDown then []
  else
    match event with
    | .stateChanged code =>
        if ConnectionState.ofCode? code = some .disconnected then
          [.hungUp (scene.remember .disconnected)]
        else []
    | .disconnected _ => []
    | .destroyed => [.destroyed (scene.note .hostDestroyed)]
    | .participantsChanged entries =>
        (scene.note (.listReceived entries.length)).listIncidents depth listen entries

def callIncidents (depth : Nat) (listen : Listen Incident) (scene : Scene) :
    RegisterCall → List Incident
  | .event event => scene.eventIncidents depth listen event
  | .participant number asked => [.called ⟨number, asked, scene⟩]

def incidentsAt : Nat → Listen Incident
  | 0, _, _ => []
  | depth + 1, calls, scene =>
      gather (performWith (reactAt depth)) (callIncidents depth (incidentsAt depth)) calls scene

def processIncidents (event : HostEvent) (scene : Scene) : List Incident :=
  scene.eventIncidents scene.register.length (incidentsAt scene.register.length) event

def performIncidents (scene : Scene) (call : RegisterCall) : List Incident :=
  scene.callIncidents scene.register.length (incidentsAt scene.register.length) call

def queueIncidents : List HostEvent → Scene → List Incident
  | [], _ => []
  | event :: events, scene =>
      scene.processIncidents event ++
        if (scene.process event).conference.tornDown then []
        else queueIncidents events (scene.process event)

def passIncidents (command : HostCommand) (scene : Scene) : List Incident :=
  match scene.conference.host.obstacle? scene.handle command with
  | some _ => []
  | none =>
      gather perform performIncidents (scene.handle.answer command).allCalls
        (scene.record (.called command))

def requestIncidents (scene : Scene) : Request → List Incident
  | .event event => scene.processIncidents event
  | .queue events => scene.queueIncidents events
  | .hostState state => if state = .disconnected then [.hungUp scene] else []
  | .reconcile entries =>
      scene.listIncidents scene.register.length (incidentsAt scene.register.length) entries
  | .action (.command command) =>
      (if command = .hangUp then scene.note .hangUpAsked else scene).passIncidents command
  | .participant number asked => [.called ⟨number, asked, scene⟩]
  | _ => []

/-- All incidents of a run, in the order in which they come. -/
def incidents (requests : List Request) (scene : Scene) : List Incident :=
  gather serve requestIncidents requests scene

/-- The moments of a run at which anyone may look: what came before an incident and the scene that
it finds, or all of it and the last scene. -/
inductive Passes (requests : List Request) (start : Scene) : List Incident → Scene → Prop
  | incident {earlier later : List Incident} {incident : Incident}
      (h : start.incidents requests = earlier ++ incident :: later) :
      Passes requests start earlier incident.before
  | ending : Passes requests start (start.incidents requests) (start.run requests)

/-! Between the incidents nobody is disconnected or destroyed, and nobody leaves. -/

inductive Lull : Scene → Scene → Prop
  | remark (effect : Effect) (h : effect.isRemark = true) : Lull scene (scene.record effect)
  | surroundings (handle : Handle) (register : List (List RegisterCall)) :
      Lull scene { scene with handle, register }
  | enroll (entry : Snapshot) (hopen : scene.conference.tornDown = false)
      (habsent : scene.conference.roster.insertIfAbsent entry.endpoint
        scene.conference.participants.length = .stored roster) :
      Lull scene (scene.enroll entry roster)
  | welcome (endpoint : Endpoint) : Lull scene (scene.announce (.participantAdded endpoint))
  | update (number : Nat) (next : ConnectionState) :
      Lull scene (scene.callParticipant number (.update next))
  | remember (state : ConnectionState) : Lull scene (scene.remember state)
  | follow (state : ConnectionState) (h : state ≠ .disconnected) :
      Lull scene (scene.applyHostState state)
  | disconnect (cause : DisconnectCause) : Lull scene (scene.setDisconnected cause)

theorem Lull.step (h : Lull scene next) : Step scene next := by
  cases h with
  | remark effect heffect => exact .remark effect heffect
  | surroundings handle register => exact .surroundings handle register
  | enroll entry hopen habsent => exact .enroll entry hopen habsent
  | welcome endpoint => exact .welcome endpoint
  | update number next => exact .call number (.update next)
  | remember state => exact .remember state
  | follow state hstate => exact .follow state
  | disconnect cause => exact .disconnect cause

inductive Chronicle (start : Scene) : List Incident → Scene → Prop
  | start : Chronicle start [] start
  | lull (h : Chronicle start seen scene) (hlull : Lull scene next) : Chronicle start seen next
  | incident (incident : Incident) (h : Chronicle start seen incident.before) :
      Chronicle start (seen ++ [incident]) incident.after

variable {start scene middle next last : Scene} {seen first second : List Incident}

namespace Chronicle

theorem trans (hfirst : Chronicle start first middle) (hsecond : Chronicle middle second last) :
    Chronicle start (first ++ second) last := by
  induction hsecond with
  | start =>
      rw [List.append_nil]
      exact hfirst
  | lull _ hlull ih => exact ih.lull hlull
  | incident incident _ ih =>
      rw [← List.append_assoc]
      exact ih.incident incident

theorem andLull (h : Chronicle start seen scene) (hlull : Chronicle scene [] next) :
    Chronicle start seen next :=
  List.append_nil seen ▸ h.trans hlull

theorem of_lull (h : Lull scene next) : Chronicle scene [] next :=
  .lull .start h

theorem single {incident : Incident} (h : incident.before = scene) :
    Chronicle scene [incident] incident.after := by
  subst h
  exact .incident incident .start

/-- At each incident a chronicle has a part before it and a part behind it. -/
theorem split (h : Chronicle start seen last) {earlier later : List Incident} {incident : Incident}
    (hsplit : seen = earlier ++ incident :: later) :
    Chronicle start earlier incident.before ∧ Chronicle incident.after later last := by
  induction h generalizing later with
  | start => simp at hsplit
  | lull _ hlull ih =>
      obtain ⟨hbefore, hafter⟩ := ih hsplit
      exact ⟨hbefore, hafter.lull hlull⟩
  | @incident seen final hbefore ih =>
      rcases List.eq_nil_or_concat later with rfl | ⟨later, other, rfl⟩
      · obtain ⟨rfl, heq⟩ := List.append_inj' hsplit rfl
        obtain rfl : final = incident := (List.cons.inj heq).1
        exact ⟨hbefore, .start⟩
      · rw [List.concat_eq_append, ← List.cons_append, ← List.append_assoc] at hsplit
        obtain ⟨hseen, heq⟩ := List.append_inj' hsplit rfl
        obtain rfl : final = other := (List.cons.inj heq).1
        obtain ⟨hearlier, hlater⟩ := ih hseen
        rw [List.concat_eq_append]
        exact ⟨hearlier, hlater.incident final⟩

end Chronicle

theorem chronicle_gather {σ α : Type} {act : σ → α → σ} {report : σ → α → List Incident}
    (view : σ → Scene)
    (h : ∀ state value, Chronicle (view state) (report state value) (view (act state value)))
    (values : List α) (state : σ) :
    Chronicle (view state) (gather act report values state) (view (values.foldl act state)) := by
  induction values generalizing state with
  | nil => exact .start
  | cons value values ih => exact (h state value).trans (ih _)

theorem chronicle_note (notice : ConferenceNotice) (scene : Scene)
    (h : (Effect.noted (.conference notice)).isRemark = true) :
    Chronicle scene [] (scene.note notice) :=
  .of_lull (.remark _ h)

theorem chronicle_bringUp (walk : Walk) : Chronicle walk.scene [] walk.bringUp := by
  unfold Walk.bringUp
  generalize walk.scene = scene
  induction walk.newcomers generalizing scene with
  | nil => exact .start
  | cons newcomer newcomers ih =>
      exact (Chronicle.of_lull (.update newcomer.number newcomer.state)).trans (ih _)

theorem chronicle_applyHostState (state : ConnectionState) (scene : Scene) :
    Chronicle scene (if state = .disconnected then [.hungUp scene] else [])
      (scene.applyHostState state) := by
  split
  · rename_i hstate
    subst hstate
    exact .single rfl
  · rename_i hstate
    exact .of_lull (.follow state hstate)

section Publication

variable {depth : Nat} {listen : Listen Incident}
  (hreact : ∀ calls scene, Chronicle scene (listen calls scene) (reactAt depth calls scene))

include hreact

theorem chronicle_enterWith (walk : Walk) (entry : Snapshot) :
    Chronicle walk.scene (walk.hears listen entry)
      (walk.enterWith (reactAt depth) entry).scene := by
  unfold Walk.hears
  cases htorn : walk.scene.conference.tornDown with
  | true =>
      rw [if_pos (.inl rfl), Walk.enterWith, if_pos htorn]
      exact .start
  | false =>
      cases hknown : walk.knows entry.endpoint with
      | true =>
          rw [if_pos (.inr rfl), Walk.enterWith_of_known htorn _ hknown]
          exact .start
      | false =>
          rw [if_neg (by simp)]
          cases hinsert : walk.scene.conference.roster.insertIfAbsent entry.endpoint
              walk.scene.conference.participants.length with
          | present number =>
              rw [Walk.enterWith_of_present htorn _ hknown hinsert]
              exact .of_lull (.update number entry.state)
          | stored roster =>
              rw [Walk.enterWith_of_absent htorn _ hknown hinsert]
              have hcalled := (Chronicle.of_lull (.enroll entry htorn hinsert)).trans
                (hreact walk.scene.nextCalls.1 _)
              exact (hcalled.lull (.remark _ rfl)).lull (.welcome entry.endpoint)

theorem chronicle_reconcileWith (entries : List Snapshot) (scene : Scene) :
    Chronicle scene (scene.listIncidents depth listen entries)
      (scene.reconcileWith (reactAt depth) entries).1 := by
  unfold listIncidents
  cases htorn : scene.conference.tornDown with
  | true =>
      rw [reconcileWith, if_pos htorn]
      exact chronicle_note _ scene rfl
  | false =>
      have hwalk := chronicle_gather Walk.scene (chronicle_enterWith hreact) entries { scene }
      exact (hwalk.andLull (chronicle_bringUp _)).incident (.listed depth entries scene)

theorem chronicle_processWith (event : HostEvent) (scene : Scene) :
    Chronicle scene (scene.eventIncidents depth listen event)
      (scene.processWith (reactAt depth) event) := by
  unfold eventIncidents processWith
  cases htorn : scene.conference.tornDown with
  | true => exact chronicle_note _ scene rfl
  | false =>
      simp only [Bool.false_eq_true, if_false]
      cases event with
      | stateChanged code =>
          cases hcode : ConnectionState.ofCode? code with
          | none =>
              simp only [hcode]
              exact chronicle_note _ scene rfl
          | some state =>
              have hremembered : Chronicle scene [] (scene.remember state) :=
                .of_lull (.remember state)
              have hfollowed := hremembered.trans (chronicle_applyHostState state _)
              simp only [hcode, Option.some.injEq]
              by_cases hstate : state = .disconnected
              · subst hstate
                exact hfollowed
              · rw [if_neg hstate] at hfollowed ⊢
                exact hfollowed
      | disconnected cause => exact .of_lull (.disconnect _)
      | destroyed => exact (chronicle_note _ scene rfl).trans (.single rfl)
      | participantsChanged entries =>
          exact (chronicle_note _ scene rfl).trans (chronicle_reconcileWith hreact entries _)

theorem chronicle_performWith (scene : Scene) (call : RegisterCall) :
    Chronicle scene (scene.callIncidents depth listen call)
      (scene.performWith (reactAt depth) call) := by
  cases call with
  | event event => exact chronicle_processWith hreact event scene
  | participant number asked => exact .single rfl

end Publication

theorem chronicle_reactAt (depth : Nat) (calls : List RegisterCall) (scene : Scene) :
    Chronicle scene (incidentsAt depth calls scene) (reactAt depth calls scene) := by
  induction depth generalizing calls scene with
  | zero => exact .start
  | succ depth ih => exact chronicle_gather id (chronicle_performWith ih) calls scene

theorem chronicle_process (event : HostEvent) (scene : Scene) :
    Chronicle scene (scene.processIncidents event) (scene.process event) :=
  chronicle_processWith (chronicle_reactAt _) event scene

theorem chronicle_perform (scene : Scene) (call : RegisterCall) :
    Chronicle scene (scene.performIncidents call) (scene.perform call) :=
  chronicle_performWith (chronicle_reactAt _) scene call

theorem chronicle_processQueue (events : List HostEvent) (scene : Scene) :
    Chronicle scene (scene.queueIncidents events) (scene.processQueue events) := by
  induction events generalizing scene with
  | nil => exact chronicle_note _ scene rfl
  | cons event events ih =>
      simp only [queueIncidents, processQueue]
      refine (chronicle_process event scene).trans ?_
      split
      · exact chronicle_note _ _ rfl
      · exact ih _

theorem chronicle_pass (command : HostCommand) (scene : Scene) :
    Chronicle scene (scene.passIncidents command) (scene.pass command).1 := by
  unfold passIncidents pass
  cases scene.conference.host.obstacle? scene.handle command with
  | some notice => exact .of_lull (.remark (.noted (.host notice)) rfl)
  | none =>
      have hcalled := chronicle_gather id chronicle_perform (scene.handle.answer command).allCalls
        (scene.record (.called command))
      have hasked : Chronicle scene [] (scene.record (.called command)) :=
        .of_lull (.remark _ rfl)
      exact (hasked.trans hcalled).lull (.remark (.noted (.host _)) rfl)

theorem chronicle_serve (request : Request) (scene : Scene) :
    Chronicle scene (scene.requestIncidents request) (scene.serve request) := by
  cases request with
  | event event => exact chronicle_process event scene
  | queue events => exact chronicle_processQueue events scene
  | hostState state => exact chronicle_applyHostState state scene
  | reconcile entries => exact chronicle_reconcileWith (chronicle_reactAt _) entries scene
  | action action =>
      cases action with
      | command command =>
          simp only [requestIncidents, serve, act, Scene.command]
          split
          · exact (chronicle_note _ scene rfl).trans (chronicle_pass command _)
          · exact chronicle_pass command scene
      | split endpoint => exact chronicle_note _ scene rfl
      | merge connection =>
          simp only [requestIncidents, serve, act, Scene.merge]
          split
          · exact chronicle_note _ scene rfl
          · rename_i phone result _
            have hjoined : Chronicle scene [] (scene.record (.joined phone)) :=
              .of_lull (.remark _ rfl)
            split <;> exact hjoined.lull (.remark _ rfl)
      | offer connection => exact chronicle_note _ scene rfl
  | participant number asked => exact .single rfl
  | handleChanged handle => exact .of_lull (.surroundings handle scene.register)
  | registerChanged register => exact .of_lull (.surroundings scene.handle register)

theorem chronicle_run (requests : List Request) (scene : Scene) :
    Chronicle scene (scene.incidents requests) (scene.run requests) :=
  chronicle_gather id (fun scene request => chronicle_serve request scene) requests scene

theorem Passes.chronicle {requests : List Request} (h : Passes requests start seen scene) :
    Chronicle start seen scene := by
  cases h with
  | incident hsplit => exact ((chronicle_run requests start).split hsplit).1
  | ending => exact chronicle_run requests start

theorem Reaches.tornDown_of (hreach : Reaches scene next) (hheld : scene.dropped = false)
    (hopen : next.conference.tornDown = false) : scene.conference.tornDown = false := by
  rw [← Bool.not_eq_true]
  intro htorn
  rw [(Reaches.evolves hreach hheld).continues.tornDown htorn] at hopen
  cases hopen

/-! A list that was gone through. -/

theorem walked_of_tornDown (htorn : scene.conference.tornDown = true) (depth : Nat)
    (entries : List Snapshot) : scene.walked depth entries = { scene } := by
  unfold walked
  induction entries with
  | nil => rfl
  | cons entry entries ih =>
      have hentered : Walk.enterWith (reactAt depth) { scene } entry = { scene } := if_pos htorn
      rw [List.foldl_cons, hentered, ih]

theorem reaches_enterWith (depth : Nat) (walk : Walk) (entry : Snapshot) :
    Reaches walk.scene (walk.enterWith (reactAt depth) entry).scene :=
  walkClosed_reaches.enterWith (reactAt_nil depth) (walkClosed_reaches.reactAt depth) walk entry

theorem reaches_bringUp (walk : Walk) : Reaches walk.scene walk.bringUp :=
  walkClosed_reaches.bringUp walk

theorem reported_foldl (depth : Nat) (entries : List Snapshot) {walk : Walk}
    (hheld : walk.scene.dropped = false)
    (hopen : (entries.foldl (Walk.enterWith (reactAt depth)) walk).scene.conference.tornDown =
      false) :
    (entries.foldl (Walk.enterWith (reactAt depth)) walk).reported =
      (entries.map (·.endpoint)).reverse ++ walk.reported := by
  induction entries generalizing walk with
  | nil => rfl
  | cons entry entries ih =>
      have hentered := reaches_enterWith depth walk entry
      have hrest := walkClosed_reaches.walk (reactAt_nil depth) (walkClosed_reaches.reactAt depth)
        entries (walk.enterWith (reactAt depth) entry)
      have hstill := Reaches.tornDown_of (hentered.trans hrest) hheld hopen
      have hreported : (walk.enterWith (reactAt depth) entry).reported =
          entry.endpoint :: walk.reported := by
        simp only [Walk.enterWith, hstill, Bool.false_eq_true, if_false]
        repeat' split
        all_goals rfl
      rw [List.foldl_cons, ih ((Reaches.dropped_eq hentered).trans hheld) hopen, hreported,
        List.map_cons, List.reverse_cons, List.append_assoc]
      rfl

theorem reported_walked {depth : Nat} {entries : List Snapshot} (hheld : scene.dropped = false)
    (hopen : (scene.walked depth entries).bringUp.conference.tornDown = false)
    (endpoint : Endpoint) :
    endpoint ∈ (scene.walked depth entries).reported ↔ endpoint ∈ entries.map (·.endpoint) := by
  have hwalk : Reaches scene (scene.walked depth entries).scene :=
    walkClosed_reaches.walk (reactAt_nil depth) (walkClosed_reaches.reactAt depth) entries { scene }
  have hstill := Reaches.tornDown_of (reaches_bringUp (scene.walked depth entries))
    ((Reaches.dropped_eq hwalk).trans hheld) hopen
  rw [walked, reported_foldl depth entries hheld hstill, List.append_nil, List.mem_reverse]

end Scene

end ConferenceBridge
