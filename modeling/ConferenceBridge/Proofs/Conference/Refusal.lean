import ConferenceBridge.Proofs.Conference.Inertia
import ConferenceBridge.Proofs.Conference.Oblivion

namespace ConferenceBridge

/-! What users ask of a conference after its end, and host states that are applied to it by hand.
The line to the host is given up with the conference, so nothing gets through there. A merge and a
host state do not go that way, and nothing else stops them. -/

namespace Conference

/-- Whether a host state that is applied by hand after the end leaves something behind. -/
def isStirredBy (conference : Conference) : ConnectionState → Bool
  | .active => conference.state ≠ .active
  | .held => conference.state ≠ .held
  | .disconnected => conference.cause.isNone
  | _ => false

theorem exists_stirring (conference : Conference) :
    ∃ state, conference.isStirredBy state = true := by
  by_cases hactive : conference.state = .active
  · exact ⟨.held, by simp [isStirredBy, hactive]⟩
  · exact ⟨.active, by simp [isStirredBy, hactive]⟩

def stirred (state : ConnectionState) (conference : Conference) : Conference :=
  match state with
  | .active | .held => { conference with state }
  | .disconnected =>
      if conference.cause.isSome then conference
      else { conference with state, cause := some .unknown }
  | _ => conference

theorem stirred_ne {state : ConnectionState} {conference : Conference}
    (h : conference.isStirredBy state = true) : conference.stirred state ≠ conference := by
  intro hsame
  cases state with
  | active | held =>
      apply of_decide_eq_true h
      exact (congrArg Conference.state hsame).symm
  | disconnected =>
      have hcause : conference.cause = none := Option.isNone_iff_eq_none.mp h
      have hunknown : some DisconnectCause.unknown = conference.cause := by
        simpa [stirred, hcause] using congrArg Conference.cause hsame
      rw [hcause] at hunknown
      cases hunknown
  | _ => cases h

end Conference

namespace Scene

variable {scene next : Scene}

theorem Rests.asked_eq (h : scene.Rests next) : next.asked = scene.asked := by
  obtain ⟨notices, hnext⟩ := h.told
  have hhistory : next.history = (notices.map Effect.noted).reverse ++ scene.history := by
    have hreversed := congrArg List.reverse hnext
    simpa [effects] using hreversed
  have hnobody : (notices.map Effect.noted).reverse.filter Effect.isAsked = [] := by
    simp [Effect.isAsked]
  rw [asked, hhistory, List.filter_append, hnobody, List.nil_append, ← asked]

theorem rests_noteHost (notice : HostNotice) (scene : Scene) :
    scene.Rests (scene.noteHost notice) :=
  ⟨rfl, [.host notice], effects_record _ _⟩

/-- To answer no, to ask nobody else, and to change nothing. -/
structure Refuses (action : UserAction) (scene : Scene) : Prop where
  declined : (scene.act action).2 = false
  asked : (scene.act action).1.asked = scene.asked
  rests : scene.Rests (scene.act action).1

theorem Refuses.of_act_eq {action : UserAction} (hact : scene.act action = (next, false))
    (hrests : scene.Rests next) : scene.Refuses action := by
  refine ⟨?_, ?_, ?_⟩
  all_goals rw [hact]
  · exact hrests.asked_eq
  · exact hrests

theorem refuses_command (hreleased : scene.conference.host.released = true)
    (command : HostCommand) : scene.Refuses (.command command) := by
  have hpass (scene : Scene) (hreleased : scene.conference.host.released = true) :
      scene.pass command = (scene.noteHost (.refused command), false) := by
    simp [pass, HostLine.obstacle?, hreleased]
  by_cases hhangUp : command = .hangUp
  · have hrefused := (Rests.note scene .hangUpAsked).trans (rests_noteHost (.refused command) _)
    refine .of_act_eq ?_ hrefused
    rw [act, Scene.command, if_pos hhangUp]
    exact hpass _ hreleased
  · refine .of_act_eq ?_ (rests_noteHost (.refused command) _)
    rw [act, Scene.command, if_neg hhangUp]
    exact hpass _ hreleased

theorem asked_merge {connection : ExternalConnection} {phone : PhoneId}
    {result : Except SignallingError Unit} (h : connection.phone = some (phone, result))
    (scene : Scene) :
    (scene.act (.merge connection)).1.asked = .joined phone :: scene.asked := by
  simp only [act, merge, h]
  cases result <;> rfl

theorem refuses_iff (hreleased : scene.conference.host.released = true) (action : UserAction) :
    scene.Refuses action ↔
      ∀ connection, action = .merge connection → connection.phone = none := by
  cases action with
  | command command => simp [refuses_command hreleased command]
  | split endpoint => simpa using Refuses.of_act_eq rfl (Rests.note scene _)
  | offer connection => simpa using Refuses.of_act_eq rfl (Rests.note scene _)
  | merge connection =>
      constructor
      · rintro hrefuses other ⟨⟩
        cases hphone : connection.phone with
        | none => rfl
        | some reached =>
            have hsame := (asked_merge hphone scene).symm.trans hrefuses.asked
            exact absurd hsame (List.cons_ne_self _ _)
      · intro hphone
        refine .of_act_eq ?_ (Rests.note scene (.mergeWithoutPhone connection.label))
        simp only [act, merge, hphone connection rfl]

theorem setState_of_same {state : ConnectionState} (h : scene.conference.state = state) :
    scene.setState state = scene :=
  if_pos h

section Ended

variable (htorn : scene.conference.tornDown = true)
  (hreleased : scene.conference.host.released = true)

include htorn hreleased

theorem applyHostState_disconnected_of_ended :
    scene.applyHostState .disconnected =
      (scene.note (.hostState .disconnected)).setDisconnected .unknown := by
  have hcause : (scene.conference.host.cause scene.handle).disconnectCause = .unknown := by
    simp [HostLine.cause, hreleased, SignallingCause.disconnectCause]
  have hstill : ((scene.note (.hostState .disconnected)).setDisconnected
      .unknown).conference.tornDown = true := by
    rw [setDisconnected]
    split
    · exact htorn
    · rw [conference_setState]
      exact htorn
  rw [← hcause] at hstill ⊢
  exact tearDown_of_tornDown hstill

theorem conference_applyHostState_of_ended (state : ConnectionState) :
    (scene.applyHostState state).conference = scene.conference.stirred state := by
  cases state with
  | active => exact conference_setState _ _
  | held => exact conference_setState _ _
  | disconnected =>
      rw [applyHostState_disconnected_of_ended htorn hreleased, Conference.stirred]
      split
      · rename_i hcause
        have hkept := @setDisconnected_of_cause .unknown
          (scene.note (.hostState .disconnected)) hcause
        rw [hkept, conference_note]
      · rename_i hfirst
        have hnone : scene.conference.cause = none := Option.not_isSome_iff_eq_none.mp hfirst
        exact @conference_setDisconnected (scene.note _) hnone _
  | _ => rfl

theorem rests_applyHostState_iff (state : ConnectionState) :
    scene.Rests (scene.applyHostState state) ↔ scene.conference.isStirredBy state = false := by
  constructor
  · intro hrests
    refine Bool.eq_false_iff.mpr fun hstirred => Conference.stirred_ne hstirred ?_
    rw [← conference_applyHostState_of_ended htorn hreleased, hrests.conference]
  · intro hquiet
    have hnoted : scene.Rests (scene.note (.hostState state)) := .note scene _
    cases state with
    | active | held =>
        have hsame := Decidable.of_not_not (of_decide_eq_false hquiet)
        rwa [applyHostState, @setState_of_same (scene.note _) _ hsame]
    | disconnected =>
        have hcause : (scene.note (.hostState .disconnected)).conference.cause.isSome = true := by
          simpa [Conference.isStirredBy, Option.isSome_iff_ne_none] using hquiet
        rwa [applyHostState_disconnected_of_ended htorn hreleased,
          setDisconnected_of_cause hcause]
    | _ => exact hnoted

end Ended

variable {id : ConferenceId} {config : ConferenceConfig} {handle : Handle} {start : Scene}

/-- Of all that a user may ask of a conference that has ended, all is refused but a merge with a
telephone. Of the host states applied to it by hand, those that do not stir it leave no trace, and
the others change its state and its cause at most. There always is one that does. -/
theorem ended_refuses_iff (hopen : openOver? id config handle = .ok start)
    (requests more : List Request) (htorn : (start.run requests).conference.tornDown = true) :
    let later := start.run (requests ++ more)
    (∀ action, later.Refuses action ↔
        ∀ connection, action = .merge connection → connection.phone = none) ∧
      (∀ state, later.Rests (later.applyHostState state) ↔
        later.conference.isStirredBy state = false) ∧
      (∀ state, (later.applyHostState state).conference = later.conference.stirred state) ∧
      ∃ state, later.conference.isStirredBy state = true := by
  intro later
  have hstill : later.conference.tornDown = true :=
    (continues_run hopen requests more).tornDown htorn
  have hreleased : later.conference.host.released = true :=
    ((sound_run hopen (requests ++ more)).closes.ended hstill).released
  exact ⟨refuses_iff hreleased, rests_applyHostState_iff hstill hreleased,
    conference_applyHostState_of_ended hstill hreleased, later.conference.exists_stirring⟩

theorem ended_refuses_iff_endedInside :
    let later := fresh.run (endedInside ++ [.hostState .active])
    (∀ command, later.Refuses (.command command)) ∧
      ¬ later.Refuses (.merge ⟨"other", some (⟨3⟩, .error .noCall)⟩) ∧
      later.Rests (later.applyHostState .active) ∧
      (later.applyHostState .held).conference.state = .held := by
  intro later
  have htorn : (fresh.run endedInside).conference.tornDown = true := rfl
  obtain ⟨hrefuses, hrests, hstirred, -⟩ :=
    ended_refuses_iff openOver?_fresh endedInside [.hostState .active] htorn
  refine ⟨fun command => ?_, fun hmerge => ?_, (hrests .active).mpr rfl,
    congrArg Conference.state (hstirred .held)⟩
  · rw [hrefuses]
    rintro connection ⟨⟩
  · cases (hrefuses _).mp hmerge _ rfl

/-- The host is gone, and so is the conference. Still another call is merged into it, and it becomes
active. -/
theorem stirred_after_end :
    let dead := fresh.run [.event .destroyed]
    dead.conference.tornDown = true ∧
      (dead.act (.merge ⟨"other", some (⟨3⟩, .ok ())⟩)).2 = true ∧
      (dead.act (.merge ⟨"other", some (⟨3⟩, .ok ())⟩)).1.asked = [.joined ⟨3⟩] ∧
      (dead.applyHostState .active).conference.state ≠ dead.conference.state ∧
      (dead.applyHostState .active).changes = dead.changes ++ [.state .new .active] := by
  decide

end Scene

end ConferenceBridge
