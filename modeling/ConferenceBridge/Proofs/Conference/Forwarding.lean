import ConferenceBridge.Proofs.Conference.Oblivion

namespace ConferenceBridge

/-! What a user asks for is passed on, and that is all. What changes meanwhile is what the handle
reports before it answers, and that changes as much without the user. -/

namespace RegisterCall

def request : RegisterCall → Request
  | .event told => .event told
  | .participant number call => .participant number call

end RegisterCall

namespace Effect

theorem change?_of_isAsked {effect : Effect} (h : effect.isAsked = true) :
    effect.change? = none := by
  cases effect with
  | changed change => cases h
  | _ => rfl

theorem publication?_of_isAsked {effect : Effect} (h : effect.isAsked = true) :
    effect.publication? = none := by
  cases effect with
  | published publication => cases h
  | _ => rfl

end Effect

namespace Scene

/-- What an action asks of someone else, and what that one answers. -/
def asks? (action : UserAction) (scene : Scene) : Option (Effect × Except SignallingError Unit) :=
  match action with
  | .command command =>
      if scene.conference.host.released = false ∧
          (command = .hangUp → scene.handle.hasCall = true) then
        some (.called command, (scene.handle.answer command).result)
      else none
  | .merge connection => connection.phone.map fun (phone, result) => (.joined phone, result)
  | .split _ | .offer _ => none

/-- What the handle does during an action before it answers, if it is asked at all. -/
def interludes (action : UserAction) (scene : Scene) : List RegisterCall :=
  match action with
  | .command command =>
      if (scene.asks? action).isSome then (scene.handle.answer command).allCalls else []
  | .split _ | .merge _ | .offer _ => []

/-- What becomes of the scene when the handle does the same, and nobody asked for anything. -/
def unasked (action : UserAction) (scene : Scene) : Scene :=
  scene.run ((scene.interludes action).map RegisterCall.request)

theorem run_request (calls : List RegisterCall) (scene : Scene) :
    scene.run (calls.map RegisterCall.request) = calls.foldl perform scene := by
  induction calls generalizing scene with
  | nil => rfl
  | cons call calls ih =>
      cases call with
      | event event => exact ih _
      | participant number call => exact ih _

/-- A command that gets through is noted before and after, and what the handle does in between it
does to the scene as it was. -/
theorem exists_passed {command : HostCommand} {scene : Scene}
    (h : scene.conference.host.obstacle? scene.handle command = none) :
    ∃ (verdict : Notice) (told : List Effect), told.filter Effect.isAsked = [] ∧
      ((scene.handle.answer command).allCalls.foldl perform scene).history =
        told ++ scene.history ∧
      ∀ old, (pass command { scene with history := old }).1 =
        { (scene.handle.answer command).allCalls.foldl perform scene with
          history := .noted verdict :: (told ++ .called command :: old) } := by
  obtain ⟨told, hnobody, htold⟩ :=
    (Oblivious.foldl oblivious_perform (scene.handle.answer command).allCalls).exists_told scene
  refine ⟨.host (HostLine.verdict command (scene.handle.answer command).result), told, hnobody,
    congrArg history (htold scene.history), fun old => ?_⟩
  have hpass : (pass command { scene with history := old }).1 =
      ((scene.handle.answer command).allCalls.foldl perform
        { scene with history := .called command :: old }).noteHost
          (HostLine.verdict command (scene.handle.answer command).result) := by
    simp only [pass, h]
    rfl
  rw [hpass, htold]
  rfl

theorem exists_refused {command : HostCommand} {scene : Scene}
    (h : scene.conference.host.obstacle? scene.handle command ≠ none) :
    ∃ notice : Notice, ∀ old, (pass command { scene with history := old }).1 =
      { scene with history := .noted notice :: old } := by
  obtain ⟨notice, hnotice⟩ := Option.ne_none_iff_exists'.mp h
  refine ⟨.host notice, fun old => ?_⟩
  simp only [pass, hnotice, noteHost, record]

/-- What an action adds to a scene that goes on unasked: log lines before and after, and in between
what is asked of someone else. -/
theorem act_eq (action : UserAction) (scene : Scene) :
    ∃ (before after : List Notice) (told : List Effect), told.filter Effect.isAsked = [] ∧
      (scene.unasked action).history = told ++ scene.history ∧
      (scene.act action).1 = { scene.unasked action with
        history := after.map .noted ++ (told ++ ((scene.asks? action).toList.map Prod.fst ++
          (before.map .noted ++ scene.history))) } := by
  cases action with
  | split endpoint => exact ⟨[], [_], [], rfl, rfl, rfl⟩
  | offer connection => exact ⟨[], [_], [], rfl, rfl, rfl⟩
  | merge connection =>
      obtain ⟨label, _ | ⟨phone, error | _⟩⟩ := connection
      · exact ⟨[], [_], [], rfl, rfl, rfl⟩
      · exact ⟨[], [_], [], rfl, rfl, rfl⟩
      · exact ⟨[], [_], [], rfl, rfl, rfl⟩
  | command command =>
      obtain ⟨before, hbefore⟩ : ∃ before : List Notice,
          (if command = .hangUp then scene.note .hangUpAsked else scene) =
            { scene with history := before.map .noted ++ scene.history } := by
        split
        · exact ⟨[.conference .hangUpAsked], rfl⟩
        · exact ⟨[], rfl⟩
      have hact : (scene.act (.command command)).1 =
          (pass command { scene with history := before.map .noted ++ scene.history }).1 := by
        rw [← hbefore]
        rfl
      by_cases hreached : scene.conference.host.released = false ∧
          (command = .hangUp → scene.handle.hasCall = true)
      · have hunasked : scene.unasked (.command command) =
            (scene.handle.answer command).allCalls.foldl perform scene := by
          simp only [unasked, interludes, asks?, if_pos hreached, Option.isSome_some, if_true,
            run_request]
        obtain ⟨verdict, told, hnobody, htold, hpassed⟩ :=
          exists_passed (HostLine.obstacle?_eq_none_iff.mpr hreached)
        refine ⟨before, [verdict], told, hnobody, hunasked ▸ htold, ?_⟩
        rw [hact, hpassed, hunasked, asks?, if_pos hreached]
        rfl
      · have hunasked : scene.unasked (.command command) = scene := by
          simp only [unasked, interludes, asks?, if_neg hreached, Option.isSome_none]
          rfl
        obtain ⟨notice, hrefused⟩ :=
          exists_refused (mt HostLine.obstacle?_eq_none_iff.mp hreached)
        refine ⟨before, [notice], [], rfl, congrArg history hunasked, ?_⟩
        rw [hact, hrefused, hunasked, asks?, if_neg hreached]
        rfl

theorem isAsked_of_asks? {action : UserAction} {scene : Scene} {effect : Effect}
    (h : effect ∈ (scene.asks? action).toList.map Prod.fst) : effect.isAsked = true := by
  obtain ⟨⟨effect, answer⟩, hasks, rfl⟩ := List.mem_map.mp h
  rw [Option.mem_toList] at hasks
  cases action with
  | split endpoint => cases hasks
  | offer connection => cases hasks
  | merge connection =>
      obtain ⟨phone, -, hphone⟩ := Option.map_eq_some_iff.mp hasks
      cases hphone
      rfl
  | command command =>
      simp only [asks?] at hasks
      split at hasks
      · cases hasks
        rfl
      · cases hasks

theorem filterMap_effects_act {α : Type} {view : Effect → Option α}
    (hnote : ∀ notice, view (.noted notice) = none)
    (hask : ∀ effect, effect.isAsked = true → view effect = none) (action : UserAction)
    (scene : Scene) :
    (scene.act action).1.effects.filterMap view =
      (scene.unasked action).effects.filterMap view := by
  obtain ⟨before, after, told, -, htold, hact⟩ := act_eq action scene
  have hnotes (notices : List Notice) : (notices.map Effect.noted).filterMap view = [] := by
    simp [hnote]
  have hasks : ((scene.asks? action).toList.map Prod.fst).filterMap view = [] :=
    List.filterMap_eq_nil_iff.mpr fun effect heffect => hask effect (isAsked_of_asks? heffect)
  rw [effects, effects, List.filterMap_reverse, List.filterMap_reverse, hact, htold]
  simp only [List.filterMap_append, hnotes, hasks, List.nil_append]

theorem accepted_pass (command : HostCommand) (scene : Scene) :
    (scene.pass command).2 = ((scene.conference.host.obstacle? scene.handle command).isNone &&
      (scene.handle.answer command).result.isOk) := by
  unfold pass
  cases scene.conference.host.obstacle? scene.handle command <;> rfl

theorem succeeds_iff (action : UserAction) (scene : Scene) :
    (scene.act action).2 = true ↔ ∃ effect, scene.asks? action = some (effect, .ok ()) := by
  cases action with
  | split endpoint => simp [act, asks?]
  | offer connection => simp [act, asks?]
  | merge connection =>
      obtain ⟨label, _ | ⟨phone, error | _⟩⟩ := connection
      · simp [act, merge, asks?]
      · simp [act, merge, asks?]
      · simp [act, merge, asks?]
  | command command =>
      have hact : (scene.act (.command command)).2 =
          ((scene.conference.host.obstacle? scene.handle command).isNone &&
            (scene.handle.answer command).result.isOk) := by
        simp only [act, Scene.command, accepted_pass]
        split <;> rfl
      rw [hact, Bool.and_eq_true, Option.isNone_iff_eq_none, HostLine.obstacle?_eq_none_iff, asks?]
      split
      · rename_i hreached
        rw [and_iff_right hreached]
        cases (scene.handle.answer command).result <;> simp [Except.isOk, Except.toBool]
      · rename_i hrefused
        simp [hrefused]

/-- To pass an action on to the one it is for, and to do nothing besides. -/
structure Forwards (action : UserAction) (scene : Scene) : Prop where
  asked : (scene.act action).1.asked =
    (scene.asks? action).toList.map Prod.fst ++ scene.asked
  succeeds : (scene.act action).2 = true ↔
    ∃ effect, scene.asks? action = some (effect, .ok ())
  /-- All but the past is as if nobody had been asked. -/
  same : { (scene.act action).1 with history := (scene.unasked action).history } =
    scene.unasked action
  changes : (scene.act action).1.changes = (scene.unasked action).changes
  publications : (scene.act action).1.effects.filterMap Effect.publication? =
    (scene.unasked action).effects.filterMap Effect.publication?
  unchanged : scene.interludes action = [] →
    { (scene.act action).1 with history := scene.history } = scene ∧
      (scene.act action).1.changes = scene.changes

/-- So does every action in every state, whatever is answered, and even if the handle takes the
conference down before it answers. -/
theorem act_forwards (action : UserAction) (scene : Scene) : scene.Forwards action := by
  obtain ⟨before, after, told, hnobody, htold, hact⟩ := act_eq action scene
  have hsame : { (scene.act action).1 with history := (scene.unasked action).history } =
      scene.unasked action := by rw [hact]
  have hchanges : (scene.act action).1.changes = (scene.unasked action).changes :=
    filterMap_effects_act (fun _ => rfl) (fun _ => Effect.change?_of_isAsked) action scene
  refine ⟨?_, succeeds_iff action scene, hsame, hchanges, ?_, ?_⟩
  · have hnotes (notices : List Notice) :
        (notices.map Effect.noted).filter Effect.isAsked = [] := by
      simp [Effect.isAsked]
    have hasks : ((scene.asks? action).toList.map Prod.fst).filter Effect.isAsked =
        (scene.asks? action).toList.map Prod.fst :=
      List.filter_eq_self.mpr fun _ => isAsked_of_asks?
    rw [hact]
    simp only [asked, List.filter_append, hnotes, hnobody, hasks, List.nil_append]
  · exact filterMap_effects_act (fun _ => rfl) (fun _ => Effect.publication?_of_isAsked)
      action scene
  · intro hidle
    have hunasked : scene.unasked action = scene := by
      rw [unasked, hidle]
      rfl
    rw [hunasked] at hsame hchanges
    exact ⟨hsame, hchanges⟩

def lastWords : List HostEvent :=
  [.participantsChanged [⟨⟨"endsOnHold", by decide⟩, .active, none, none⟩],
    .ofState .disconnected]

def endsOnHold : Scene :=
  openOver .nil {} {
    label := "host"
    phone := ⟨1⟩
    answer := fun _ => { events := lastWords, result := .error .noCall } }

theorem act_forwards_endsOnHold :
    let merged := (endsOnHold.act (.merge ⟨"other", some (⟨2⟩, .error .noCall)⟩)).1
    let next := merged.act (.command .hold)
    let direct := merged.run (lastWords.map .event)
    { merged with history := endsOnHold.history } = endsOnHold ∧ merged.asked = [.joined ⟨2⟩] ∧
      next.2 = false ∧ next.1.asked = [.called .hold, .joined ⟨2⟩] ∧
      next.1.conference.host.released = true ∧
      { next.1 with history := direct.history } = direct ∧ next.1.changes = direct.changes := by
  intro merged next direct
  have hmerge := act_forwards (.merge ⟨"other", some (⟨2⟩, .error .noCall)⟩) endsOnHold
  have hhold := act_forwards (.command .hold) merged
  have hended : direct.conference.host.released = true := by decide
  refine ⟨(hmerge.unchanged rfl).1, hmerge.asked, ?_, hhold.asked, ?_, hhold.same, hhold.changes⟩
  · rw [Bool.eq_false_iff, Ne, hhold.succeeds]
    rintro ⟨effect, hasks⟩
    cases hasks
  · exact (congrArg (·.conference.host.released) hhold.same).trans hended

end Scene

end ConferenceBridge
