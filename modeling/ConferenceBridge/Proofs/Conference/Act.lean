import ConferenceBridge.Proofs.Conference.Advance
import Mathlib.Logic.Relation

namespace ConferenceBridge

/-! Participants leave, the roster is looked over and the host given back in a chain of small acts,
during which nobody comes and nobody's state is reported. What each act keeps, every chain keeps. -/

namespace Participant.Operation

def isUpdate : Operation → Bool
  | .call (.update _) => true
  | _ => false

end Participant.Operation

theorem Participant.eq_destroy_of_notifies {participant : Participant} {call : ParticipantCall}
    (h : (participant.perform (.call call)).notifies = true) : call = .destroy := by
  cases call with
  | destroy => rfl
  | update next =>
      revert h
      dsimp only [perform]
      unfold update unchanged
      repeat' split
      all_goals simp
  | disconnect cause =>
      revert h
      dsimp only [perform]
      unfold disconnect unchanged
      split <;> simp

theorem Participant.endpoint?_of_mem_changes {participant : Participant} {operation : Operation}
    {change : Change} (h : change ∈ (participant.perform operation).changes) :
    change.endpoint? = some participant.endpoint := by
  revert h
  unfold perform update disconnect destroy unobserve detach unchanged
  repeat' split
  all_goals simp +contextual [Change.endpoint?]

theorem Participant.Outcome.changes_told (outcome : Outcome) :
    outcome.told.filterMap Effect.change? = outcome.changes := by
  have hnotes : ∀ (endpoint : Endpoint) (notices : List ParticipantNotice),
      (notices.map fun notice =>
        Effect.noted (.participant endpoint notice)).filterMap Effect.change? = [] := by
    intro endpoint notices
    simp [List.filterMap_map, Function.comp_def, Effect.change?]
  have hchanges : ∀ changes : List Change,
      (changes.map Effect.changed).filterMap Effect.change? = changes := by
    intro changes
    simp [List.filterMap_map, Function.comp_def, Effect.change?]
  rw [told, List.filterMap_append, hnotes, hchanges, List.nil_append]

namespace Effect

/-- Notes, and calls to the handle or a telephone, that go with no change of the conference. -/
def isRemark : Effect → Bool
  | .published _ | .changed _ => false
  | .noted (.conference (.hostState _)) | .noted (.conference (.disconnected _)) => false
  | _ => true

theorem isRoutine_of_isRemark {effect : Effect} (h : effect.isRemark = true) :
    effect.isRoutine = true := by
  revert h
  unfold isRemark isRoutine
  repeat' split
  all_goals simp_all

theorem change?_of_isRemark {effect : Effect} (h : effect.isRemark = true) :
    effect.change? = none := by
  cases effect with
  | changed change => cases h
  | _ => rfl

end Effect

namespace Scene

inductive Act : Scene → Scene → Prop
  | remark (effect : Effect) (h : effect.isRemark = true) : Act scene (scene.record effect)
  | operate (number : Nat) (operation : Participant.Operation) (h : operation.isUpdate = false) :
      Act scene (scene.operate number operation)
  | setRoster (roster : Roster Nat) : Act scene (scene.setRoster roster)
  | setHost (host : HostLine) :
      Act scene { scene with conference := { scene.conference with host } }
  | refreshManage : Act scene scene.refreshManage

abbrev Acts : Scene → Scene → Prop :=
  Relation.ReflTransGen Act

theorem Act.routine {scene next : Scene} (h : Act scene next) : Routine scene next := by
  cases h with
  | remark effect heffect => exact routine_record (Effect.isRoutine_of_isRemark heffect) scene
  | operate number operation hoperation => exact routine_operate number operation scene
  | setRoster roster => exact routine_replace _ scene
  | setHost host => exact routine_replace _ scene
  | refreshManage => exact routine_refreshManage scene

namespace Acts

variable {scene middle next : Scene}

theorem routine (h : Acts scene next) : Routine scene next := by
  induction h with
  | refl => exact .refl scene
  | tail _ hlast ih => exact ih.trans hlast.routine

theorem preserves {P : Scene → Prop} (hact : ∀ {scene next}, Act scene next → P scene → P next)
    (h : Acts scene next) (hscene : P scene) : P next := by
  induction h with
  | refl => exact hscene
  | tail _ hlast ih => exact hact hlast ih

theorem operate (h : Acts scene next) (number : Nat) {operation : Participant.Operation}
    (hoperation : operation.isUpdate = false) : Acts scene (next.operate number operation) :=
  h.tail (.operate number operation hoperation)

theorem note (h : Acts scene next) (notice : ConferenceNotice)
    (hremark : (Effect.noted (.conference notice)).isRemark = true) :
    Acts scene (next.note notice) :=
  h.tail (.remark _ hremark)

end Acts

theorem acts_dismantle (entry : Endpoint × Nat) (scene : Scene) :
    Acts scene (scene.dismantle entry) := by
  rw [dismantle_eq_operate]
  have hunobserved : Acts scene (scene.operate entry.2 .unobserve) := .single (.operate _ _ rfl)
  exact (((hunobserved.operate entry.2 rfl).operate entry.2 rfl).operate entry.2 rfl).note _ rfl

theorem acts_dismantleAll (entries : List (Endpoint × Nat)) (scene : Scene) :
    Acts scene (scene.dismantleAll entries) := by
  induction entries generalizing scene with
  | nil => exact .refl
  | cons entry entries ih => exact (acts_dismantle entry scene).trans (ih _)

theorem acts_forget (number : Nat) (scene : Scene) : Acts scene (scene.forget number) := by
  unfold forget
  split
  · exact .refl
  · split
    · exact .refl
    · rename_i roster _
      have herased : Acts scene (scene.setRoster roster) := .single (.setRoster roster)
      exact ((herased.operate number rfl).note _ rfl).tail .refreshManage

/-- A call to a participant is an operation on it, and at most the conference forgets it then. -/
theorem callParticipant_eq_or (number : Nat) (call : ParticipantCall) (scene : Scene) :
    scene.callParticipant number call = scene.operate number (.call call) ∨
      call = .destroy ∧
        scene.callParticipant number call = (scene.operate number (.call call)).forget number := by
  unfold callParticipant operate
  split
  · exact .inl rfl
  · rename_i participant _
    dsimp only
    split
    · rename_i hnotifies
      exact .inr ⟨Participant.eq_destroy_of_notifies hnotifies.1, rfl⟩
    · exact .inl rfl

theorem callParticipant_update (number : Nat) (next : ConnectionState) (scene : Scene) :
    scene.callParticipant number (.update next) = scene.operate number (.call (.update next)) := by
  rcases callParticipant_eq_or number (.update next) scene with h | ⟨habsurd, -⟩
  · exact h
  · cases habsurd

theorem acts_callParticipant {call : ParticipantCall}
    (h : (Participant.Operation.call call).isUpdate = false) (number : Nat) (scene : Scene) :
    Acts scene (scene.callParticipant number call) := by
  have hoperated : Acts scene (scene.operate number (.call call)) := .single (.operate number _ h)
  rcases callParticipant_eq_or number call scene with heq | ⟨-, heq⟩
  · rw [heq]
    exact hoperated
  · rw [heq]
    exact hoperated.trans (acts_forget number _)

theorem acts_dismissAll (scene : Scene) : Acts scene scene.dismissAll.1 := by
  refine Relation.ReflTransGen.tail ?_ .refreshManage
  refine Relation.ReflTransGen.trans ?_ (acts_dismantleAll _ _)
  split
  · exact .single (.setRoster .empty)
  · exact Acts.note (.single (.setRoster .empty)) _ rfl

theorem acts_releaseHost (scene : Scene) : Acts scene scene.releaseHost := by
  simp only [releaseHost, HostLine.release]
  split
  · exact .single (.setHost _)
  · exact .tail (.single (.setHost _)) (.remark _ rfl)

def flagged (scene : Scene) : Scene :=
  { scene with conference := { scene.conference with tornDown := true } }

theorem acts_tearDown {scene : Scene} (h : scene.conference.tornDown = false) :
    ∃ middle, Acts scene.flagged middle ∧ scene.tearDown = middle.announce .destroyed := by
  refine ⟨scene.flagged.dismissAll.1.releaseHost.note .tornDown, ?_, ?_⟩
  · exact Acts.note ((acts_dismissAll _).trans (acts_releaseHost _)) _ rfl
  · simp [tearDown, h, flagged]

/-! What the subscribers hear of an act. -/

theorem changes_record_of_isRemark {effect : Effect} (h : effect.isRemark = true) (scene : Scene) :
    (scene.record effect).changes = scene.changes := by
  simp [changes, Effect.change?_of_isRemark h]

theorem changes_operate (number : Nat) (operation : Participant.Operation) (scene : Scene) :
    (scene.operate number operation).changes =
      scene.changes ++ (scene.participant? number).elim [] fun participant =>
        (participant.perform operation).changes := by
  rw [operate_eq_advance, changes, effects_advance, List.filterMap_append, ← changes, told]
  congr 1
  cases scene.participant? number with
  | none => rfl
  | some participant => exact (participant.perform operation).changes_told

theorem changes_refreshManage (scene : Scene) :
    scene.refreshManage.changes =
      if scene.conference.capabilities.can .manageConference = !scene.conference.roster.isEmpty then
        scene.changes
      else
        scene.changes ++ [.capabilities
          (scene.conference.capabilities.set .manageConference
            (!scene.conference.roster.isEmpty))] := by
  simp only [refreshManage]
  split
  · rw [changes_note]
  · rw [changes_announce]
    exact congrArg (· ++ _) (changes_note (.manageChecked _ _) scene)

theorem changes_setState (next : ConnectionState) (scene : Scene) :
    (scene.setState next).changes =
      if scene.conference.state = next then scene.changes
      else scene.changes ++ [.state scene.conference.state next] := by
  simp only [setState]
  split
  · rfl
  · rw [changes_announce, changes_note]
    rfl

theorem changes_setDisconnected {scene : Scene} (h : scene.conference.cause = none)
    (cause : DisconnectCause) :
    (scene.setDisconnected cause).changes = (scene.setState .disconnected).changes := by
  simp only [setDisconnected, h, Option.isSome_none, Bool.false_eq_true, if_false]
  rw [changes_setState, changes_setState, changes_note]
  rfl

/-! Chains of acts neither hand over a participant nor tell of the host or of the end. -/

theorem routine_dismissAll (scene : Scene) : Routine scene scene.dismissAll.1 :=
  (acts_dismissAll scene).routine

theorem routine_callParticipant (number : Nat) (call : ParticipantCall) (scene : Scene) :
    Routine scene (scene.callParticipant number call) := by
  have hoperated := routine_operate number (.call call) scene
  rcases callParticipant_eq_or number call scene with heq | ⟨-, heq⟩
  · rw [heq]
    exact hoperated
  · rw [heq]
    exact hoperated.trans (acts_forget number _).routine

theorem effects_tearDown {scene : Scene} (h : scene.conference.tornDown = false) :
    ∃ middle, Tells Effect.isRoutine scene middle ∧
      scene.tearDown.effects = middle.effects ++ [.changed .destroyed] := by
  obtain ⟨middle, hacts, heq⟩ := acts_tearDown h
  refine ⟨middle, (Tells.of_effects_eq rfl).trans hacts.routine.tells, ?_⟩
  rw [heq, announce, effects_record]

theorem advances_tearDown (scene : Scene) : Advances scene scene.tearDown := by
  cases hflag : scene.conference.tornDown with
  | true =>
      rw [tearDown_of_tornDown hflag]
      exact .refl scene
  | false =>
      obtain ⟨middle, hacts, heq⟩ := acts_tearDown hflag
      have hflagged : Advances scene scene.flagged := (routine_replace _ scene).advances
      rw [heq]
      exact (hflagged.trans hacts.routine.advances).record _

theorem advances_applyHostState (state : ConnectionState) (scene : Scene) :
    Advances scene (scene.applyHostState state) := by
  have hnote : Advances scene (scene.note (.hostState state)) := (Advances.refl scene).record _
  cases state with
  | active | held => exact hnote.trans (routine_setState _ _).advances
  | disconnected =>
      exact hnote.trans ((advances_setDisconnected _ _).trans (advances_tearDown _))
  | _ => exact hnote

end Scene

end ConferenceBridge
