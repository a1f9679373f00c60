import ConferenceBridge.Proofs.Conference.Step

namespace ConferenceBridge

/-! Calls back into a conference are calls like any other: the depth up to which they are followed
never cuts one off, since each publication uses up one plan of the call list. -/

namespace Scene

/-- Both do the same with calls that are made when fewer than `depth` plans are left, and no plan
is added. -/
def Agree (depth : Nat) (first second : React) : Prop :=
  ∀ calls scene, scene.register.length < depth ∨ calls = [] →
    first calls scene = second calls scene ∧
      (first calls scene).register.length ≤ scene.register.length

section Agree

variable {depth : Nat} {first second : React} (hagree : Agree depth first second)

include hagree

theorem agree_enterWith {walk : Walk} (hdepth : walk.scene.register.length ≤ depth)
    (entry : Snapshot) :
    walk.enterWith first entry = walk.enterWith second entry ∧
      (walk.enterWith first entry).scene.register.length ≤ walk.scene.register.length := by
  simp only [Walk.enterWith]
  split
  · exact ⟨rfl, Nat.le_refl _⟩
  · split
    · exact ⟨rfl, Nat.le_refl _⟩
    · split
      · rename_i number _
        have hcalled := (routine_callParticipant number (.update entry.state) walk.scene).advances
        exact ⟨rfl, Nat.le_of_eq (congrArg List.length hcalled.register_eq)⟩
      · rename_i roster habsent
        have hplan : (walk.scene.enroll entry roster).register.length < depth ∨
            walk.scene.nextCalls.1 = [] := by
          unfold nextCalls
          cases hregister : walk.scene.register with
          | nil => exact .inr rfl
          | cons calls register =>
              left
              rw [hregister, List.length_cons] at hdepth
              simp only [enroll, hregister, List.tail_cons]
              omega
        obtain ⟨heq, hlength⟩ := hagree _ _ hplan
        rw [publishWith_create, publishWith_create, heq]
        refine ⟨rfl, ?_⟩
        rw [heq] at hlength
        have htail : (walk.scene.enroll entry roster).register.length ≤
            walk.scene.register.length := by
          simp [enroll]
        exact Nat.le_trans hlength htail

theorem agree_walk {walk : Walk} (hdepth : walk.scene.register.length ≤ depth)
    (entries : List Snapshot) :
    entries.foldl (Walk.enterWith first) walk = entries.foldl (Walk.enterWith second) walk ∧
      (entries.foldl (Walk.enterWith first) walk).scene.register.length ≤
        walk.scene.register.length := by
  induction entries generalizing walk with
  | nil => exact ⟨rfl, Nat.le_refl _⟩
  | cons entry entries ih =>
      obtain ⟨heq, hlength⟩ := agree_enterWith hagree hdepth entry
      obtain ⟨hrest, hmore⟩ := ih (Nat.le_trans hlength hdepth)
      rw [List.foldl_cons, List.foldl_cons, ← heq]
      exact ⟨hrest, Nat.le_trans hmore hlength⟩

omit hagree in
theorem advances_bringUp (walk : Walk) : Advances walk.scene walk.bringUp := by
  unfold Walk.bringUp
  generalize walk.scene = scene
  induction walk.newcomers generalizing scene with
  | nil => exact .refl scene
  | cons newcomer newcomers ih =>
      exact (routine_callParticipant _ _ scene).advances.trans (ih _)

omit hagree in
theorem advances_finish (walk : Walk) (scene : Scene) : Advances scene (walk.finish scene).1 := by
  refine Advances.record ?_ _
  have hkeep := (routine_keep walk.reported scene).advances
  split
  · exact hkeep.trans (routine_refreshManage _).advances
  · exact hkeep

theorem agree_reconcileWith {scene : Scene} (hdepth : scene.register.length ≤ depth)
    (entries : List Snapshot) :
    scene.reconcileWith first entries = scene.reconcileWith second entries ∧
      (scene.reconcileWith first entries).1.register.length ≤ scene.register.length := by
  simp only [reconcileWith]
  split
  · exact ⟨rfl, Nat.le_refl _⟩
  · obtain ⟨heq, hlength⟩ := @agree_walk depth first second hagree { scene } hdepth entries
    rw [heq] at hlength ⊢
    refine ⟨rfl, Nat.le_trans (Nat.le_of_eq (congrArg List.length ?_)) hlength⟩
    have hbringUp := advances_bringUp (entries.foldl (Walk.enterWith second) { scene })
    split
    · exact (hbringUp.trans ((routine_dismissAll _).advances.record _)).register_eq
    · exact (hbringUp.trans (advances_finish _ _)).register_eq

theorem agree_performWith {scene : Scene} (hdepth : scene.register.length ≤ depth)
    (call : RegisterCall) :
    scene.performWith first call = scene.performWith second call ∧
      (scene.performWith first call).register.length ≤ scene.register.length := by
  have hadvances : ∀ {next : Scene}, Advances scene next →
      next.register.length ≤ scene.register.length := fun h =>
    Nat.le_of_eq (congrArg List.length h.register_eq)
  cases call with
  | participant number call =>
      exact ⟨rfl, hadvances (routine_callParticipant number call scene).advances⟩
  | event event =>
      simp only [performWith, processWith]
      split
      · exact ⟨rfl, Nat.le_refl _⟩
      · cases event with
        | stateChanged code =>
            dsimp only
            split
            · exact ⟨rfl, Nat.le_refl _⟩
            · rename_i state _
              have hfollow := advances_applyHostState state (scene.remember state)
              exact ⟨rfl, Nat.le_of_eq (congrArg List.length hfollow.register_eq)⟩
        | disconnected cause => exact ⟨rfl, hadvances (advances_setDisconnected _ scene)⟩
        | destroyed =>
            exact ⟨rfl, hadvances (((Advances.refl scene).record _).trans (advances_tearDown _))⟩
        | participantsChanged entries =>
            obtain ⟨heq, hlength⟩ := @agree_reconcileWith depth first second hagree
              (scene.note (.listReceived entries.length)) hdepth entries
            exact ⟨congrArg Prod.fst heq, hlength⟩

theorem agree_foldl {scene : Scene} (hdepth : scene.register.length ≤ depth)
    (calls : List RegisterCall) :
    calls.foldl (performWith first) scene = calls.foldl (performWith second) scene ∧
      (calls.foldl (performWith first) scene).register.length ≤ scene.register.length := by
  induction calls generalizing scene with
  | nil =>
      rw [List.foldl_nil, List.foldl_nil]
      exact ⟨rfl, Nat.le_refl _⟩
  | cons call calls ih =>
      obtain ⟨heq, hlength⟩ := agree_performWith hagree hdepth call
      obtain ⟨hrest, hmore⟩ := ih (Nat.le_trans hlength hdepth)
      rw [List.foldl_cons, List.foldl_cons, ← heq]
      exact ⟨hrest, Nat.le_trans hmore hlength⟩

end Agree

/-- Any two depths that are large enough will do. -/
theorem agree_reactAt {depth first second : Nat} (hfirst : depth ≤ first)
    (hsecond : depth ≤ second) : Agree depth (reactAt first) (reactAt second) := by
  induction depth generalizing first second with
  | zero =>
      rintro calls scene (habsurd | rfl)
      · exact absurd habsurd (Nat.not_lt_zero _)
      · rw [reactAt_nil, reactAt_nil]
        exact ⟨rfl, Nat.le_refl _⟩
  | succ depth ih =>
      rintro calls scene (hplans | rfl)
      · cases first with
        | zero => omega
        | succ first =>
            cases second with
            | zero => omega
            | succ second =>
                exact agree_foldl (ih (by omega) (by omega)) (by omega) calls
      · rw [reactAt_nil, reactAt_nil]
        exact ⟨rfl, Nat.le_refl _⟩

theorem foldl_perform {depth : Nat} {scene : Scene} (hdepth : scene.register.length ≤ depth)
    (calls : List RegisterCall) :
    calls.foldl (performWith (reactAt depth)) scene = calls.foldl perform scene ∧
      (calls.foldl (performWith (reactAt depth)) scene).register.length ≤
        scene.register.length := by
  induction calls generalizing scene with
  | nil =>
      rw [List.foldl_nil, List.foldl_nil]
      exact ⟨rfl, Nat.le_refl _⟩
  | cons call calls ih =>
      obtain ⟨heq, hlength⟩ :=
        agree_performWith (agree_reactAt hdepth (Nat.le_refl _)) (Nat.le_refl _) call
      obtain ⟨hrest, hmore⟩ := ih (Nat.le_trans hlength hdepth)
      rw [List.foldl_cons, List.foldl_cons, perform, ← heq]
      exact ⟨hrest, Nat.le_trans hmore hlength⟩

/-- What the call list does is done like calls from outside. -/
def callBack : React :=
  fun calls scene => calls.foldl perform scene

theorem agree_callBack (depth : Nat) : Agree depth (reactAt depth) callBack := by
  rintro calls scene (hplans | rfl)
  · cases depth with
    | zero => omega
    | succ depth => exact foldl_perform (by omega) calls
  · rw [reactAt_nil]
    exact ⟨rfl, Nat.le_refl _⟩

theorem process_eq_callBack (event : HostEvent) (scene : Scene) :
    scene.process event = scene.processWith callBack event :=
  (agree_performWith (agree_callBack _) (Nat.le_refl _) (.event event)).1

theorem reconcile_eq_callBack (entries : List Snapshot) (scene : Scene) :
    scene.reconcile entries = scene.reconcileWith callBack entries :=
  (agree_reconcileWith (agree_callBack _) (Nat.le_refl _) entries).1

end Scene

end ConferenceBridge
