import ConferenceBridge.Proofs.Conference.Act

namespace ConferenceBridge

/-! Whatever is asked of a conference, and however deep others call it back meanwhile, what happens
is made of a few kinds of moves. A relation between scenes that holds over each of them, and over
one after the other, holds over every request. -/

namespace Conference

def enroll (entry : Snapshot) (roster : Roster Nat) (conference : Conference) : Conference :=
  { conference with
    roster
    participants :=
      conference.participants ++ [.ofSnapshot entry conference.config.initialState] }

theorem getElem?_enroll (entry : Snapshot) (roster : Roster Nat) (conference : Conference)
    (number : Nat) :
    (conference.enroll entry roster).participants[number]? =
      if number = conference.participants.length then
        some (.ofSnapshot entry conference.config.initialState)
      else conference.participants[number]? := by
  rw [enroll, List.getElem?_append]
  rcases Nat.lt_trichotomy number conference.participants.length with hlt | rfl | hgt
  · rw [if_pos hlt, if_neg (Nat.ne_of_lt hlt)]
  · simp
  · rw [if_neg (Nat.not_lt_of_gt hgt), if_neg (Nat.ne_of_gt hgt),
      List.getElem?_eq_none_iff.mpr (Nat.le_of_lt hgt)]
    simp only [List.getElem?_eq_none_iff, List.length_singleton]
    omega

def keep (listed : List Endpoint) (conference : Conference) : Conference :=
  { conference with roster := (conference.roster.splitBy listed).1 }.dismantle
    ((conference.roster.splitBy listed).2.map Prod.snd)

def disconnect (cause : DisconnectCause) (conference : Conference) : Conference :=
  { conference with cause := some cause, state := .disconnected }

end Conference

namespace Scene

def publication (entry : Snapshot) (scene : Scene) : Publication where
  number := scene.conference.participants.length
  account := .forPhone scene.conference.host.phone
  endpoint := entry.endpoint
  state := scene.conference.config.initialState
  displayName := entry.displayName

/-- A new participant takes part, and the call list gets it and starts with its next plan. -/
def enroll (entry : Snapshot) (roster : Roster Nat) (scene : Scene) : Scene :=
  { scene with
    conference := scene.conference.enroll entry roster
    register := scene.register.tail
    history := .published (scene.publication entry) :: scene.history }

def enrollWith (react : React) (entry : Snapshot) (roster : Roster Nat) (scene : Scene) : Scene :=
  (react scene.nextCalls.1 (scene.enroll entry roster)).note
    (.participantAdded entry.endpoint (.forPhone scene.conference.host.phone))
  |>.announce (.participantAdded entry.endpoint)

def keep (listed : List Endpoint) (scene : Scene) : Scene :=
  (scene.setRoster (scene.conference.roster.splitBy listed).1).dismantleAll
    (scene.conference.roster.splitBy listed).2

def remember (state : ConnectionState) (scene : Scene) : Scene :=
  { scene with
    conference := { scene.conference with host := scene.conference.host.remember state } }

@[simp] theorem effects_enroll (entry : Snapshot) (roster : Roster Nat) (scene : Scene) :
    (scene.enroll entry roster).effects =
      scene.effects ++ [.published (scene.publication entry)] := by
  simp [effects, enroll]

@[simp] theorem changes_enroll (entry : Snapshot) (roster : Roster Nat) (scene : Scene) :
    (scene.enroll entry roster).changes = scene.changes := by
  simp [changes, Effect.change?]

theorem acts_keep (listed : List Endpoint) (scene : Scene) : Acts scene (scene.keep listed) :=
  .head (.setRoster _) (acts_dismantleAll _ _)

theorem routine_keep (listed : List Endpoint) (scene : Scene) :
    Routine scene (scene.keep listed) :=
  (acts_keep listed scene).routine

theorem conference_keep (listed : List Endpoint) (scene : Scene) :
    (scene.keep listed).conference = scene.conference.keep listed := by
  rw [keep, conference_dismantleAll, conference_setRoster]
  rfl

/-- The publication of a participant just created is the rest of its enrolment. -/
theorem publishWith_create (react : React) (entry : Snapshot) (roster : Roster Nat)
    (scene : Scene) :
    ((scene.create entry).2.setRoster roster).publishWith react (scene.create entry).1 =
      ((react scene.nextCalls.1 (scene.enroll entry roster)).note
        (.participantAdded entry.endpoint (.forPhone scene.conference.host.phone))).announce
          (.participantAdded entry.endpoint) := by
  have hcreated :
      ((scene.create entry).2.setRoster roster).participant? (scene.create entry).1 =
        some (.ofSnapshot entry scene.conference.config.initialState) := by
    simp [create, setRoster, participant?]
  unfold publishWith
  rw [hcreated]
  cases hregister : scene.register with
  | nil => simp [nextCalls, create, setRoster, enroll, hregister, record, publication,
      Participant.ofSnapshot, Conference.enroll]
  | cons calls register => simp [nextCalls, create, setRoster, enroll, hregister, record,
      publication, Participant.ofSnapshot, Conference.enroll]

@[simp] theorem reactAt_nil (depth : Nat) (scene : Scene) : reactAt depth [] scene = scene := by
  cases depth <;> rfl

theorem process_stateChanged_six {scene : Scene} (hopen : scene.conference.tornDown = false) :
    scene.process (.stateChanged 6) =
      (scene.remember .disconnected).applyHostState .disconnected := by
  have hcode : ConnectionState.ofCode? 6 = some .disconnected := rfl
  simp [process, processWith, hopen, hcode, remember]

inductive Move : Scene → Scene → Prop
  | remark (effect : Effect) (h : effect.isRemark = true) : Move scene (scene.record effect)
  | handle (handle : Handle) : Move scene { scene with handle }
  | call (number : Nat) (call : ParticipantCall) : Move scene (scene.callParticipant number call)
  | remember (state : ConnectionState) (hopen : scene.conference.tornDown = false) :
      Move scene (scene.remember state)
  | follow (state : ConnectionState) (hopen : scene.conference.tornDown = false) :
      Move scene (scene.applyHostState state)
  | disconnect (cause : DisconnectCause) (hopen : scene.conference.tornDown = false) :
      Move scene (scene.setDisconnected cause)
  | tearDown (hopen : scene.conference.tornDown = false) : Move scene scene.tearDown

structure Closed (R : Scene → Scene → Prop) : Prop where
  refl : ∀ scene, R scene scene
  trans : ∀ {scene middle next}, R scene middle → R middle next → R scene next
  move : ∀ {scene next}, Move scene next → R scene next

/-- Closed under all that a reconcile does. What the call list does at a publication is any
sequence of what is related already. -/
structure WalkClosed (R : Scene → Scene → Prop) : Prop extends Closed R where
  enroll : ∀ {scene roster} {react : React} (entry : Snapshot),
    (∀ scene, react [] scene = scene) → (∀ calls scene, R scene (react calls scene)) →
      scene.conference.tornDown = false →
      scene.conference.roster.insertIfAbsent entry.endpoint scene.conference.participants.length =
        .stored roster →
      R scene (scene.enrollWith react entry roster)
  keep : ∀ {scene} listed, scene.conference.tornDown = false → R scene (scene.keep listed)
  dismiss : ∀ {scene}, scene.conference.tornDown = true → R scene scene.dismissAll.1
  refreshManage : ∀ scene, R scene scene.refreshManage

structure RequestClosed (R : Scene → Scene → Prop) : Prop extends Closed R where
  reconcile : ∀ depth entries scene, R scene (scene.reconcileWith (reactAt depth) entries).1

variable {R : Scene → Scene → Prop} {react : React}

namespace Closed

variable (h : Closed R)

include h

theorem note (notice : ConferenceNotice) (scene : Scene)
    (hremark : (Effect.noted (.conference notice)).isRemark = true) : R scene (scene.note notice) :=
  h.move (.remark _ hremark)

theorem foldl {α : Type} {act : Scene → α → Scene} (hact : ∀ scene value, R scene (act scene value))
    (values : List α) (scene : Scene) : R scene (values.foldl act scene) := by
  induction values generalizing scene with
  | nil => exact h.refl scene
  | cons value values ih => exact h.trans (hact scene value) (ih _)

theorem bringUp (walk : Walk) : R walk.scene walk.bringUp := by
  apply h.foldl
  intro scene newcomer
  exact h.move (.call newcomer.number (.update newcomer.state))

theorem processWith (hreconcile : ∀ entries scene, R scene (scene.reconcileWith react entries).1)
    (event : HostEvent) (scene : Scene) : R scene (scene.processWith react event) := by
  unfold Scene.processWith
  split
  · exact h.note _ scene rfl
  · rename_i hopen
    rw [Bool.not_eq_true] at hopen
    cases event with
    | stateChanged code =>
        simp only
        split
        · exact h.note _ scene rfl
        · rename_i state _
          have hremembered : (scene.remember state).conference.tornDown = false := hopen
          exact h.trans (h.move (.remember state hopen)) (h.move (.follow state hremembered))
    | disconnected cause => exact h.move (.disconnect _ hopen)
    | destroyed => exact h.trans (h.note _ scene rfl) (h.move (.tearDown hopen))
    | participantsChanged entries => exact h.trans (h.note _ scene rfl) (hreconcile entries _)

theorem performWith (hreconcile : ∀ entries scene, R scene (scene.reconcileWith react entries).1)
    (scene : Scene) (call : RegisterCall) : R scene (scene.performWith react call) := by
  cases call with
  | event event => exact h.processWith hreconcile event scene
  | participant number call => exact h.move (.call number call)

theorem merge (connection : ExternalConnection) (scene : Scene) :
    R scene (scene.merge connection).1 := by
  unfold Scene.merge
  split
  · exact h.note _ scene rfl
  · rename_i phone result _
    refine h.trans (h.move (.remark (.joined phone) rfl)) ?_
    cases result with
    | ok => exact h.note _ _ rfl
    | error error => exact h.note _ _ rfl

end Closed

namespace WalkClosed

variable (h : WalkClosed R)

include h

section Publication

variable (hidle : ∀ scene, react [] scene = scene)
  (hreact : ∀ calls scene, R scene (react calls scene))

include hidle hreact

theorem enterWith (walk : Walk) (entry : Snapshot) :
    R walk.scene (walk.enterWith react entry).scene := by
  simp only [Walk.enterWith]
  split
  · exact h.refl _
  · rename_i hopen
    split
    · exact h.refl _
    · split
      · exact h.move (.call _ _)
      · rename_i roster habsent
        rw [publishWith_create]
        exact h.enroll entry hidle hreact (by simpa using hopen) habsent

theorem walk (entries : List Snapshot) (walk : Walk) :
    R walk.scene (entries.foldl (Walk.enterWith react) walk).scene := by
  induction entries generalizing walk with
  | nil => exact h.refl _
  | cons entry entries ih => exact h.trans (h.enterWith hidle hreact walk entry) (ih _)

omit hidle hreact in
theorem finishTornDown {scene : Scene} (htorn : scene.conference.tornDown = true) (walk : Walk) :
    R scene (walk.finishTornDown scene).1 :=
  h.trans (h.dismiss htorn) (h.note _ _ rfl)

omit hidle hreact in
theorem finish {scene : Scene} (hopen : scene.conference.tornDown = false) (walk : Walk) :
    R scene (walk.finish scene).1 := by
  refine h.trans (h.keep walk.reported hopen) (h.trans ?_ (h.note _ _ rfl))
  split
  · exact h.refreshManage _
  · exact h.refl _

theorem reconcileWith (entries : List Snapshot) (scene : Scene) :
    R scene (scene.reconcileWith react entries).1 := by
  simp only [Scene.reconcileWith]
  split
  · exact h.note _ scene rfl
  · have hwalk : R scene (entries.foldl (Walk.enterWith react) { scene }).bringUp :=
      h.trans (h.walk hidle hreact entries { scene }) (h.bringUp _)
    split
    · rename_i htorn
      exact h.trans hwalk (h.finishTornDown htorn _)
    · rename_i hopen
      exact h.trans hwalk (h.finish (by simpa using hopen) _)

end Publication

theorem reactAt (depth : Nat) (calls : List RegisterCall) (scene : Scene) :
    R scene (Scene.reactAt depth calls scene) := by
  induction depth generalizing calls scene with
  | zero => exact h.refl scene
  | succ depth ih =>
      exact h.foldl (h.performWith (h.reconcileWith (reactAt_nil depth) ih)) calls scene

theorem requests : RequestClosed R :=
  { h with
    reconcile := fun depth => h.reconcileWith (reactAt_nil depth) (h.reactAt depth) }

end WalkClosed

namespace RequestClosed

variable (h : RequestClosed R)

include h

theorem process (event : HostEvent) (scene : Scene) : R scene (scene.process event) :=
  h.processWith (h.reconcile _) event scene

theorem perform (scene : Scene) (call : RegisterCall) : R scene (scene.perform call) :=
  h.performWith (h.reconcile _) scene call

theorem processQueue (events : List HostEvent) (scene : Scene) :
    R scene (scene.processQueue events) := by
  induction events generalizing scene with
  | nil => exact h.note _ scene rfl
  | cons event events ih =>
      simp only [Scene.processQueue]
      split
      · exact h.trans (h.process event scene) (h.note _ _ rfl)
      · exact h.trans (h.process event scene) (ih _)

theorem pass (command : HostCommand) (scene : Scene) : R scene (scene.pass command).1 := by
  unfold Scene.pass
  cases hobstacle : scene.conference.host.obstacle? scene.handle command with
  | some notice => exact h.move (.remark (.noted (.host notice)) rfl)
  | none =>
      exact h.trans (h.move (.remark (.called command) rfl)) <|
        h.trans (h.foldl h.perform _ _)
          (h.move (.remark (.noted (.host (HostLine.verdict command _))) rfl))

theorem act (action : UserAction) (scene : Scene) : R scene (scene.act action).1 := by
  cases action with
  | command command =>
      simp only [Scene.act, Scene.command]
      split
      · exact h.trans (h.note _ scene rfl) (h.pass _ _)
      · exact h.pass _ _
  | split endpoint => exact h.note _ scene rfl
  | merge connection => exact h.merge connection scene
  | offer connection => exact h.note _ scene rfl

theorem serve (request : Request) (scene : Scene)
    (hstate : ∀ state, request = .hostState state → R scene (scene.applyHostState state))
    (hregister : ∀ register, request = .registerChanged register →
      R scene { scene with register }) :
    R scene (scene.serve request) := by
  cases request with
  | event event => exact h.process event scene
  | queue events => exact h.processQueue events scene
  | hostState state => exact hstate state rfl
  | reconcile entries => exact h.reconcile _ entries scene
  | action action => exact h.act action scene
  | participant number call => exact h.move (.call number call)
  | handleChanged handle => exact h.move (.handle handle)
  | registerChanged register => exact hregister register rfl

theorem run {requests : List Request}
    (hstate : ∀ state, .hostState state ∈ requests →
      ∀ scene, R scene (scene.applyHostState state))
    (hregister : ∀ register, .registerChanged register ∈ requests →
      ∀ scene, R scene { scene with register })
    (scene : Scene) : R scene (scene.run requests) := by
  induction requests generalizing scene with
  | nil => exact h.refl scene
  | cons request requests ih =>
      refine h.trans (h.serve request scene ?_ ?_)
        (ih (fun state hmem => hstate state (.tail _ hmem))
          (fun register hmem => hregister register (.tail _ hmem)) _)
      · rintro state rfl
        exact hstate state List.mem_cons_self scene
      · rintro register rfl
        exact hregister register List.mem_cons_self scene

end RequestClosed

end Scene

end ConferenceBridge
