import ConferenceBridge.Proofs.Conference.Coupling

namespace ConferenceBridge

/-! What a conference makes of events and of calls to its participants depends on what it is, and
not on what was seen of it before. Neither asks anything of the handle or of a telephone. -/

def Effect.isAsked : Effect → Bool
  | .called _ | .joined _ => true
  | _ => false

theorem Effect.isAsked_of_mem_told {outcome : Participant.Outcome} {effect : Effect}
    (h : effect ∈ outcome.told) : effect.isAsked = false := by
  rcases List.mem_append.mp h with hnotice | hchange
  · obtain ⟨notice, -, rfl⟩ := List.mem_map.mp hnotice
    rfl
  · obtain ⟨change, -, rfl⟩ := List.mem_map.mp hchange
    rfl

namespace Scene

def seenAfter (old : List Effect) (scene : Scene) : Scene :=
  { scene with history := scene.history ++ old }

def asked (scene : Scene) : List Effect :=
  scene.history.filter Effect.isAsked

@[simp] theorem seenAfter_nil (scene : Scene) : scene.seenAfter [] = scene := by
  simp [seenAfter]

@[simp] theorem conference_seenAfter (old : List Effect) (scene : Scene) :
    (scene.seenAfter old).conference = scene.conference := rfl

@[simp] theorem handle_seenAfter (old : List Effect) (scene : Scene) :
    (scene.seenAfter old).handle = scene.handle := rfl

@[simp] theorem register_seenAfter (old : List Effect) (scene : Scene) :
    (scene.seenAfter old).register = scene.register := rfl

@[simp] theorem dropped_seenAfter (old : List Effect) (scene : Scene) :
    (scene.seenAfter old).dropped = scene.dropped := rfl

@[simp] theorem participant?_seenAfter (number : Nat) (old : List Effect) (scene : Scene) :
    (scene.seenAfter old).participant? number = scene.participant? number := rfl

/-- To act without regard to the past, and without asking anyone else for anything. -/
structure Oblivious (act : Scene → Scene) : Prop where
  shift : ∀ old scene, act (scene.seenAfter old) = (act scene).seenAfter old
  asked : ∀ scene, (act scene).asked = scene.asked

namespace Oblivious

variable {act other : Scene → Scene}

theorem refl : Oblivious fun scene => scene :=
  ⟨fun _ _ => rfl, fun _ => rfl⟩

theorem comp (hother : Oblivious other) (hact : Oblivious act) :
    Oblivious fun scene => other (act scene) where
  shift old scene := by rw [hact.shift, hother.shift]
  asked scene := by rw [hother.asked, hact.asked]

theorem foldl {α : Type} {act : Scene → α → Scene}
    (h : ∀ value, Oblivious fun scene => act scene value) (values : List α) :
    Oblivious fun scene => values.foldl act scene := by
  induction values with
  | nil => exact .refl
  | cons value values ih => exact ih.comp (h value)

theorem locally (h : ∀ scene : Scene, ∃ same, Oblivious same ∧
    ∀ old, act (scene.seenAfter old) = same (scene.seenAfter old)) : Oblivious act := by
  have hlocal (scene : Scene) : ∃ same, Oblivious same ∧ act scene = same scene ∧
      ∀ old, act (scene.seenAfter old) = same (scene.seenAfter old) := by
    obtain ⟨same, hsame, heq⟩ := h scene
    exact ⟨same, hsame, by rw [← seenAfter_nil scene, heq], heq⟩
  constructor
  · intro old scene
    obtain ⟨same, hsame, hnow, heq⟩ := hlocal scene
    rw [heq, hsame.shift, hnow]
  · intro scene
    obtain ⟨same, hsame, hnow, -⟩ := hlocal scene
    rw [hnow, hsame.asked]

theorem ite (hact : Oblivious act) (hother : Oblivious other) (test : Conference → Bool) :
    Oblivious fun scene => if test scene.conference then act scene else other scene := by
  refine .locally fun scene => ?_
  by_cases htest : test scene.conference = true
  · exact ⟨_, hact, fun old => if_pos htest⟩
  · exact ⟨_, hother, fun old => if_neg htest⟩

theorem exists_told (h : Oblivious act) (scene : Scene) :
    ∃ told : List Effect, told.filter Effect.isAsked = [] ∧
      ∀ old, act { scene with history := old } = { act scene with history := told ++ old } := by
  let blank : Scene := { scene with history := [] }
  refine ⟨(act blank).history, h.asked blank, fun old => ?_⟩
  have hscene : act scene = (act blank).seenAfter scene.history := h.shift scene.history blank
  rw [hscene]
  exact h.shift old blank

end Oblivious

/-! The functions of a conference, one after the other. -/

theorem oblivious_note (notice : ConferenceNotice) : Oblivious (note notice) :=
  ⟨fun _ _ => rfl, fun _ => rfl⟩

theorem oblivious_announce (change : Change) : Oblivious (announce change) :=
  ⟨fun _ _ => rfl, fun _ => rfl⟩

theorem oblivious_setRoster (roster : Roster Nat) : Oblivious (setRoster roster) :=
  ⟨fun _ _ => rfl, fun _ => rfl⟩

theorem oblivious_settle (number : Nat) (outcome : Participant.Outcome) :
    Oblivious (settle number outcome) where
  shift old scene := by simp [settle, seenAfter]
  asked scene := by
    have hnobody : outcome.told.reverse.filter Effect.isAsked = [] := by
      refine List.filter_eq_nil_iff.mpr fun effect heffect => ?_
      rw [Effect.isAsked_of_mem_told (List.mem_reverse.mp heffect)]
      exact Bool.false_ne_true
    have happend : (scene.settle number outcome).asked =
        outcome.told.reverse.filter Effect.isAsked ++ scene.asked := List.filter_append ..
    rw [happend, hnobody, List.nil_append]

theorem oblivious_operate (number : Nat) (operation : Participant.Operation) :
    Oblivious (operate number operation) := by
  refine .locally fun scene => ?_
  cases hparticipant : scene.participant? number with
  | none => exact ⟨_, .refl, fun old => by simp [operate, hparticipant]⟩
  | some participant =>
      exact ⟨_, oblivious_settle number (participant.perform operation), fun old => by
        simp [operate, hparticipant]⟩

theorem oblivious_refreshManage : Oblivious refreshManage := by
  refine .locally fun scene => ?_
  have hchecked := oblivious_note (.manageChecked
    (scene.conference.capabilities.can .manageConference) (!scene.conference.roster.isEmpty))
  have htold (capabilities : Capabilities) : Oblivious fun scene =>
      announce (.capabilities capabilities)
        { scene with conference := { scene.conference with capabilities } } :=
    ⟨fun _ _ => rfl, fun _ => rfl⟩
  by_cases hsame : scene.conference.capabilities.can .manageConference =
      !scene.conference.roster.isEmpty
  · exact ⟨_, hchecked, fun old => if_pos hsame⟩
  · exact ⟨_, (htold (scene.conference.capabilities.set .manageConference
      (!scene.conference.roster.isEmpty))).comp hchecked, fun old => if_neg hsame⟩

theorem oblivious_forget (number : Nat) : Oblivious (forget number) := by
  refine .locally fun scene => ?_
  cases hparticipant : scene.participant? number with
  | none => exact ⟨_, .refl, fun old => by simp [forget, hparticipant]⟩
  | some participant =>
      cases hroster : scene.conference.roster.eraseIf? participant.endpoint number with
      | none => exact ⟨_, .refl, fun old => by simp [forget, hparticipant, hroster]⟩
      | some roster =>
          have hleaves := ((oblivious_operate number .detach).comp (oblivious_setRoster roster))
          exact ⟨_, oblivious_refreshManage.comp
            ((oblivious_note (.destroyedRemoved participant.endpoint)).comp hleaves), fun old => by
              simp [forget, hparticipant, hroster]⟩

theorem oblivious_callParticipant (number : Nat) (call : ParticipantCall) :
    Oblivious (callParticipant number call) := by
  refine .locally fun scene => ?_
  cases hparticipant : scene.participant? number with
  | none => exact ⟨_, .refl, fun old => by simp [callParticipant, hparticipant]⟩
  | some participant =>
      have hsettle := oblivious_settle number (participant.perform (.call call))
      by_cases hnotifies :
          (participant.perform (.call call)).notifies = true ∧ scene.dropped = false
      · exact ⟨_, (oblivious_forget number).comp hsettle, fun old => by
          simp [callParticipant, hparticipant, settle, hnotifies]⟩
      · exact ⟨_, hsettle, fun old => by
          simp [callParticipant, hparticipant, settle, hnotifies]⟩

theorem oblivious_dismantle (entry : Endpoint × Nat) :
    Oblivious fun scene => scene.dismantle entry :=
  (oblivious_note (.participantRemoved entry.1)).comp <|
    (oblivious_callParticipant entry.2 .destroy).comp <|
      (oblivious_callParticipant entry.2 (.disconnect .aborted)).comp <|
        (oblivious_operate entry.2 .detach).comp (oblivious_operate entry.2 .unobserve)

theorem oblivious_dismantleAll (entries : List (Endpoint × Nat)) :
    Oblivious (dismantleAll entries) :=
  .foldl oblivious_dismantle entries

theorem oblivious_dismissAll : Oblivious fun scene => scene.dismissAll.1 := by
  refine .locally fun scene => ?_
  obtain ⟨entries, hentries⟩ : ∃ entries, scene.conference.roster.entries = entries := ⟨_, rfl⟩
  have hleave := oblivious_refreshManage.comp (oblivious_dismantleAll entries)
  have hsaid := (oblivious_note (.allDismissed entries.length)).comp (oblivious_setRoster .empty)
  by_cases hempty : entries.isEmpty = true
  · exact ⟨_, hleave.comp (oblivious_setRoster .empty), fun old => by
      simp [dismissAll, hentries, hempty]⟩
  · exact ⟨_, hleave.comp hsaid, fun old => by simp [dismissAll, hentries, hempty]⟩

theorem oblivious_keep (listed : List Endpoint) : Oblivious (keep listed) := by
  refine .locally fun scene => ?_
  exact ⟨_, (oblivious_dismantleAll (scene.conference.roster.splitBy listed).2).comp
    (oblivious_setRoster (scene.conference.roster.splitBy listed).1), fun old => rfl⟩

theorem oblivious_setState (next : ConnectionState) : Oblivious (setState next) := by
  refine .locally fun scene => ?_
  have hset : Oblivious fun scene =>
      { scene with conference := { scene.conference with state := next } } :=
    ⟨fun _ _ => rfl, fun _ => rfl⟩
  by_cases hsame : scene.conference.state = next
  · exact ⟨_, .refl, fun old => if_pos hsame⟩
  · exact ⟨_, (oblivious_announce (.state scene.conference.state next)).comp
      ((oblivious_note (.stateChanged scene.conference.state next)).comp hset), fun old =>
        if_neg hsame⟩

theorem oblivious_setDisconnected (cause : DisconnectCause) :
    Oblivious (setDisconnected cause) := by
  refine .locally fun scene => ?_
  have hcause : Oblivious fun scene => note (.disconnected cause)
      { scene with conference := { scene.conference with cause := some cause } } :=
    ⟨fun _ _ => rfl, fun _ => rfl⟩
  by_cases hfirst : scene.conference.cause.isSome = true
  · exact ⟨_, .refl, fun old => if_pos hfirst⟩
  · exact ⟨_, (oblivious_setState .disconnected).comp hcause, fun old => if_neg hfirst⟩

theorem oblivious_releaseHost : Oblivious releaseHost := by
  refine .locally fun scene => ?_
  by_cases hreleased : scene.conference.host.released = true
  · exact ⟨_, .refl, fun old => by simp [releaseHost, HostLine.release, hreleased, seenAfter]⟩
  · have hgives : Oblivious fun scene => noteHost .released { scene with
        conference := { scene.conference with
          host := { scene.conference.host with released := true } } } :=
      ⟨fun _ _ => rfl, fun _ => rfl⟩
    exact ⟨_, hgives, fun old => by simp [releaseHost, HostLine.release, hreleased]⟩

theorem oblivious_tearDown : Oblivious tearDown := by
  refine .locally fun scene => ?_
  have hflag : Oblivious flagged := ⟨fun _ _ => rfl, fun _ => rfl⟩
  by_cases htorn : scene.conference.tornDown = true
  · exact ⟨_, .refl, fun old => if_pos htorn⟩
  · exact ⟨_, (oblivious_announce .destroyed).comp <| (oblivious_note .tornDown).comp <|
      oblivious_releaseHost.comp <| oblivious_dismissAll.comp hflag, fun old => if_neg htorn⟩

theorem oblivious_remember (state : ConnectionState) : Oblivious (remember state) :=
  ⟨fun _ _ => rfl, fun _ => rfl⟩

theorem oblivious_applyHostState (state : ConnectionState) : Oblivious (applyHostState state) := by
  have hnote := oblivious_note (.hostState state)
  cases state with
  | active => exact (oblivious_setState .active).comp hnote
  | held => exact (oblivious_setState .held).comp hnote
  | disconnected =>
      refine .locally fun scene => ?_
      exact ⟨_, oblivious_tearDown.comp ((oblivious_setDisconnected
        (scene.conference.host.cause scene.handle).disconnectCause).comp hnote), fun old => rfl⟩
  | _ => exact hnote

theorem oblivious_enroll (entry : Snapshot) (roster : Roster Nat) :
    Oblivious (enroll entry roster) :=
  ⟨fun _ _ => rfl, fun _ => rfl⟩

variable {react : React}

theorem oblivious_enrollWith (hreact : ∀ calls, Oblivious (react calls)) (entry : Snapshot)
    (roster : Roster Nat) : Oblivious (enrollWith react entry roster) := by
  refine .locally fun scene => ?_
  have hcalls : ∀ old, (scene.seenAfter old).nextCalls.1 = scene.nextCalls.1 := by
    intro old
    unfold nextCalls
    rw [register_seenAfter]
    split <;> rfl
  refine ⟨_, (oblivious_announce (.participantAdded entry.endpoint)).comp <|
    (oblivious_note (.participantAdded entry.endpoint
      (.forPhone scene.conference.host.phone))).comp <|
    (hreact scene.nextCalls.1).comp (oblivious_enroll entry roster), fun old => ?_⟩
  rw [enrollWith, hcalls, conference_seenAfter]

end Scene

namespace Walk

variable {react : React}

/-- What an entry does to a scene, and how far it brings the walk, do not depend on what was
seen. -/
theorem exists_enterWith (hreact : ∀ calls, Scene.Oblivious (react calls)) (walk : Walk)
    (entry : Snapshot) :
    ∃ (act : Scene → Scene) (after : Walk), Scene.Oblivious act ∧ ∀ old,
      Walk.enterWith react { walk with scene := walk.scene.seenAfter old } entry =
        { after with scene := act (walk.scene.seenAfter old) } := by
  cases hopen : walk.scene.conference.tornDown with
  | true => exact ⟨_, walk, .refl, fun old => by simp [enterWith, hopen]⟩
  | false =>
      cases hknown : walk.knows entry.endpoint with
      | true =>
          refine ⟨_, walk.enterWith react entry, .refl, fun old => ?_⟩
          rw [enterWith_of_known hopen react hknown]
          exact @enterWith_of_known { walk with scene := walk.scene.seenAfter old } entry
            hopen react hknown
      | false =>
          cases hinsert : walk.scene.conference.roster.insertIfAbsent entry.endpoint
              walk.scene.conference.participants.length with
          | present number =>
              refine ⟨_, walk.enterWith react entry,
                Scene.oblivious_callParticipant number (.update entry.state), fun old => ?_⟩
              rw [enterWith_of_present hopen react hknown hinsert]
              exact @enterWith_of_present { walk with scene := walk.scene.seenAfter old } entry
                hopen react hknown number hinsert
          | stored roster =>
              refine ⟨_, walk.enterWith react entry,
                Scene.oblivious_enrollWith hreact entry roster, fun old => ?_⟩
              rw [enterWith_of_absent hopen react hknown hinsert]
              exact @enterWith_of_absent { walk with scene := walk.scene.seenAfter old } entry
                hopen react hknown roster hinsert

theorem exists_foldl (hreact : ∀ calls, Scene.Oblivious (react calls)) (entries : List Snapshot)
    (walk : Walk) :
    ∃ (act : Scene → Scene) (after : Walk), Scene.Oblivious act ∧ ∀ old,
      entries.foldl (Walk.enterWith react) { walk with scene := walk.scene.seenAfter old } =
        { after with scene := act (walk.scene.seenAfter old) } := by
  induction entries generalizing walk with
  | nil => exact ⟨_, walk, .refl, fun old => rfl⟩
  | cons entry entries ih =>
      obtain ⟨enter, next, henter, heq⟩ := exists_enterWith hreact walk entry
      obtain ⟨rest, after, hrest, hafter⟩ := ih { next with scene := enter walk.scene }
      refine ⟨_, after, hrest.comp henter, fun old => ?_⟩
      rw [List.foldl_cons, heq, henter.shift]
      exact hafter old

theorem oblivious_finishTornDown (walk : Walk) :
    Scene.Oblivious fun scene => (walk.finishTornDown scene).1 := by
  refine .locally fun scene => ?_
  exact ⟨_, (Scene.oblivious_note (.reconcileCut walk.added.length scene.dismissAll.2.length)).comp
    Scene.oblivious_dismissAll, fun old => rfl⟩

theorem oblivious_finish (walk : Walk) : Scene.Oblivious fun scene => (walk.finish scene).1 := by
  refine .locally fun scene => ?_
  have hnote (removed : Nat) : Scene.Oblivious fun scene => scene.note
      (.reconciled walk.added.length removed walk.updated scene.conference.roster.size) :=
    ⟨fun _ _ => rfl, fun _ => rfl⟩
  have hrefresh := Scene.oblivious_refreshManage.ite .refl
    fun _ => (walk.finish scene).2.membershipChanged
  exact ⟨_, (hnote (walk.finish scene).2.removed.length).comp
    (hrefresh.comp (Scene.oblivious_keep walk.reported)), fun old => rfl⟩

end Walk

namespace Scene

variable {react : React}

theorem oblivious_reconcileWith (hreact : ∀ calls, Oblivious (react calls))
    (entries : List Snapshot) : Oblivious fun scene => (scene.reconcileWith react entries).1 := by
  refine .locally fun scene => ?_
  by_cases htorn : scene.conference.tornDown = true
  · exact ⟨_, oblivious_note .reconcileIgnored, fun old => by simp [reconcileWith, htorn]⟩
  · obtain ⟨act, walk, hact, hwalk⟩ := Walk.exists_foldl hreact entries { scene }
    have hreport (newcomer : Newcomer) : Oblivious fun scene =>
        scene.callParticipant newcomer.number (.update newcomer.state) :=
      oblivious_callParticipant newcomer.number (.update newcomer.state)
    have hbringUp : Oblivious fun scene => { walk with scene }.bringUp :=
      .foldl hreport walk.newcomers
    have hend := walk.oblivious_finishTornDown.ite walk.oblivious_finish (·.tornDown)
    refine ⟨_, hend.comp (hbringUp.comp hact), fun old => ?_⟩
    simp only [reconcileWith, conference_seenAfter, htorn, Bool.false_eq_true, if_false, hwalk]
    split <;> rfl

theorem oblivious_processWith (hreact : ∀ calls, Oblivious (react calls)) (event : HostEvent) :
    Oblivious (processWith react event) := by
  refine .locally fun scene => ?_
  by_cases htorn : scene.conference.tornDown = true
  · exact ⟨_, oblivious_note (.eventIgnored event), fun old => by simp [processWith, htorn]⟩
  · cases event with
    | stateChanged code =>
        cases hcode : ConnectionState.ofCode? code with
        | none => exact ⟨_, oblivious_note (.codeRefused code), fun old => by
            simp [processWith, htorn, hcode]⟩
        | some state => exact ⟨_, (oblivious_applyHostState state).comp (oblivious_remember state),
            fun old => by simp [processWith, htorn, hcode, remember]⟩
    | disconnected cause =>
        exact ⟨_, oblivious_setDisconnected cause.disconnectCause, fun old => if_neg htorn⟩
    | destroyed =>
        exact ⟨_, oblivious_tearDown.comp (oblivious_note .hostDestroyed), fun old => if_neg htorn⟩
    | participantsChanged entries =>
        exact ⟨_, (oblivious_reconcileWith hreact entries).comp
          (oblivious_note (.listReceived entries.length)), fun old => if_neg htorn⟩

theorem oblivious_performWith (hreact : ∀ calls, Oblivious (react calls)) (call : RegisterCall) :
    Oblivious fun scene => scene.performWith react call := by
  cases call with
  | event event => exact oblivious_processWith hreact event
  | participant number call => exact oblivious_callParticipant number call

theorem oblivious_reactAt (depth : Nat) (calls : List RegisterCall) :
    Oblivious (reactAt depth calls) := by
  induction depth generalizing calls with
  | zero => exact .refl
  | succ depth ih => exact .foldl (oblivious_performWith ih) calls

theorem oblivious_perform (call : RegisterCall) : Oblivious fun scene => scene.perform call :=
  .locally fun scene =>
    ⟨_, oblivious_performWith (oblivious_reactAt scene.register.length) call, fun _ => rfl⟩

end Scene

end ConferenceBridge
