import ConferenceBridge.Conference.Request

namespace ConferenceBridge

/-! An operation that calls nobody back advances the scene: it puts another conference in place and
goes on with the history. Here every such operation is brought to that form. -/

namespace Participant

def Outcome.told (outcome : Outcome) : List Effect :=
  outcome.notices.map (fun notice => .noted (.participant outcome.participant.endpoint notice)) ++
    outcome.changes.map .changed

def dismantled (participant : Participant) : Participant :=
  { participant with
    state :=
      if participant.destroyed ∨ participant.cause.isSome then participant.state
      else .disconnected
    cause :=
      if participant.destroyed then participant.cause else participant.cause.or (some .aborted)
    attached := false
    destroyed := true
    observed := false }

@[simp] theorem dismantled_dismantled (participant : Participant) :
    participant.dismantled.dismantled = participant.dismantled := by
  simp [dismantled]

theorem dismantled_eq (participant : Participant) :
    (((participant.unobserve.participant.detach).participant.disconnect
      .aborted).participant.destroy).participant = participant.dismantled := by
  obtain ⟨endpoint, displayName, userUri, state, cause, attached, destroyed, observed⟩ :=
    participant
  cases cause <;> cases attached <;> cases destroyed <;> cases observed <;> rfl

theorem notifies_perform_of_not_observed {participant : Participant} {operation : Operation}
    (h : participant.observed = false) :
    (participant.perform operation).notifies = false := by
  unfold perform update disconnect destroy unobserve detach unchanged
  repeat' split
  all_goals simp [h]

end Participant

namespace Effect

/-- Effects that neither hand over a participant nor tell of the host or of the end of the
conference. -/
def isRoutine : Effect → Bool
  | .published _ | .changed .destroyed => false
  | .noted (.conference (.hostState _)) | .noted (.conference (.disconnected _)) => false
  | _ => true

end Effect

theorem Participant.isRoutine_of_mem_told {participant : Participant} {operation : Operation}
    {effect : Effect} (h : effect ∈ (participant.perform operation).told) :
    effect.isRoutine = true := by
  revert h
  unfold perform update disconnect destroy unobserve detach unchanged Outcome.told
  repeat' split
  all_goals
    simp only [List.map_nil, List.map_cons, List.nil_append, List.append_nil, List.cons_append,
      List.not_mem_nil, List.mem_cons, or_false]
  all_goals grind [Effect.isRoutine]

namespace Conference

def modify (number : Nat) (change : Participant → Participant) (conference : Conference) :
    Conference :=
  { conference with participants := conference.participants.modify number change }

def dismantle (numbers : List Nat) (conference : Conference) : Conference :=
  numbers.foldl (fun conference number => conference.modify number .dismantled) conference

def refreshManage (conference : Conference) : Conference :=
  if conference.capabilities.can .manageConference = !conference.roster.isEmpty then conference
  else
    { conference with
      capabilities :=
        conference.capabilities.set .manageConference (!conference.roster.isEmpty) }

def forget (number : Nat) (conference : Conference) : Conference :=
  match conference.participants[number]? with
  | none => conference
  | some participant =>
      match conference.roster.eraseIf? participant.endpoint number with
      | none => conference
      | some roster =>
          ({ conference with roster }.modify number fun participant =>
            (participant.perform .detach).participant).refreshManage

def call (number : Nat) (call : ParticipantCall) (conference : Conference) : Conference :=
  let called := conference.modify number fun participant =>
    (participant.perform (.call call)).participant
  if conference.participants[number]?.any fun participant =>
    (participant.perform (.call call)).notifies
  then called.forget number
  else called

def dismissAll (conference : Conference) : Conference :=
  ({ conference with roster := .empty }.dismantle conference.roster.members).refreshManage

def tearDown (conference : Conference) : Conference :=
  if conference.tornDown then conference
  else
    let conference := { conference with tornDown := true }.dismissAll
    { conference with host := conference.host.release.1 }

theorem getElem?_modify (number other : Nat) (change : Participant → Participant)
    (conference : Conference) :
    (conference.modify number change).participants[other]? =
      conference.participants[other]?.map fun participant =>
        if other = number then change participant else participant := by
  simp only [modify, List.getElem?_modify, Option.map_eq_map, eq_comm]

theorem eq_some_of_modify {number other : Nat} {change : Participant → Participant}
    {conference : Conference} {participant : Participant}
    (h : (conference.modify number change).participants[other]? = some participant) :
    (other = number ∧ ∃ before, conference.participants[number]? = some before ∧
        participant = change before) ∨
      (other ≠ number ∧ conference.participants[other]? = some participant) := by
  rw [getElem?_modify, Option.map_eq_some_iff] at h
  obtain ⟨before, hbefore, hchanged⟩ := h
  by_cases heq : other = number
  · subst heq
    rw [if_pos rfl] at hchanged
    exact .inl ⟨rfl, before, hbefore, hchanged.symm⟩
  · rw [if_neg heq] at hchanged
    exact .inr ⟨heq, hchanged ▸ hbefore⟩

theorem modify_modify (number : Nat) (first second : Participant → Participant)
    (conference : Conference) :
    (conference.modify number first).modify number second =
      conference.modify number (second ∘ first) := by
  simp [modify, List.modify_modify_eq]

theorem modify_eq_set {number : Nat} {participant : Participant} {conference : Conference}
    (h : conference.participants[number]? = some participant)
    (change : Participant → Participant) :
    conference.modify number change =
      { conference with
        participants := conference.participants.set number (change participant) } := by
  unfold modify
  congr 1
  apply List.ext_getElem?
  intro other
  rw [List.getElem?_modify, List.getElem?_set]
  by_cases heq : number = other
  · subst heq
    obtain ⟨hlt, hget⟩ := List.getElem?_eq_some_iff.mp h
    simp [hlt, hget]
  · simp [heq]

theorem modify_of_none {number : Nat} {conference : Conference}
    (h : conference.participants[number]? = none) (change : Participant → Participant) :
    conference.modify number change = conference := by
  unfold modify
  rw [List.modify_eq_self (List.getElem?_eq_none_iff.mp h)]

theorem modify_of_fixed {number : Nat} {participant : Participant} {conference : Conference}
    (h : conference.participants[number]? = some participant)
    {change : Participant → Participant} (hchange : change participant = participant) :
    conference.modify number change = conference := by
  obtain ⟨hlt, rfl⟩ := List.getElem?_eq_some_iff.mp h
  rw [modify_eq_set h, hchange, List.set_getElem_self]

theorem dismantle_eq (numbers : List Nat) (conference : Conference) :
    conference.dismantle numbers =
      { conference with participants := (conference.dismantle numbers).participants } := by
  induction numbers generalizing conference with
  | nil => rfl
  | cons number numbers ih => exact ih (conference.modify number .dismantled)

theorem getElem?_dismantle (numbers : List Nat) (other : Nat) (conference : Conference) :
    (conference.dismantle numbers).participants[other]? =
      conference.participants[other]?.map fun participant =>
        if other ∈ numbers then participant.dismantled else participant := by
  induction numbers generalizing conference with
  | nil => simp [dismantle]
  | cons number numbers ih =>
      have hstep : conference.dismantle (number :: numbers) =
          (conference.modify number .dismantled).dismantle numbers := rfl
      rw [hstep, ih, getElem?_modify, Option.map_map]
      congr 1
      funext participant
      by_cases hhead : other = number <;> by_cases htail : other ∈ numbers <;>
        simp [hhead, htail]

end Conference

namespace Scene

/-- The scene with another conference in place, after something more was seen. -/
def advance (conference : Conference) (told : List Effect) (scene : Scene) : Scene :=
  { scene with conference, history := told.reverse ++ scene.history }

@[simp] theorem conference_advance (conference : Conference) (told : List Effect) (scene : Scene) :
    (scene.advance conference told).conference = conference := rfl

@[simp] theorem register_advance (conference : Conference) (told : List Effect) (scene : Scene) :
    (scene.advance conference told).register = scene.register := rfl

@[simp] theorem dropped_advance (conference : Conference) (told : List Effect) (scene : Scene) :
    (scene.advance conference told).dropped = scene.dropped := rfl

@[simp] theorem effects_advance (conference : Conference) (told : List Effect) (scene : Scene) :
    (scene.advance conference told).effects = scene.effects ++ told := by
  simp [advance, effects]

@[simp] theorem advance_advance (first second : Conference) (told more : List Effect)
    (scene : Scene) :
    (scene.advance first told).advance second more = scene.advance second (told ++ more) := by
  simp [advance]

theorem record_eq_advance (effect : Effect) (scene : Scene) :
    scene.record effect = scene.advance scene.conference [effect] := rfl

def told (number : Nat) (operation : Participant.Operation) (scene : Scene) : List Effect :=
  (scene.participant? number).elim [] fun participant => (participant.perform operation).told

theorem isRoutine_of_mem_told {number : Nat} {operation : Participant.Operation} {scene : Scene}
    {effect : Effect} (h : effect ∈ scene.told number operation) : effect.isRoutine = true := by
  unfold told at h
  cases hparticipant : scene.participant? number with
  | none => simp [hparticipant] at h
  | some participant =>
      rw [hparticipant] at h
      exact Participant.isRoutine_of_mem_told h

theorem settle_eq_advance {number : Nat} {participant : Participant} {scene : Scene}
    (h : scene.participant? number = some participant) (operation : Participant.Operation) :
    scene.settle number (participant.perform operation) =
      scene.advance
        (scene.conference.modify number fun participant =>
          (participant.perform operation).participant)
        (scene.told number operation) := by
  have hchange : scene.conference.modify number
        (fun participant => (participant.perform operation).participant) = _ :=
    Conference.modify_eq_set h _
  rw [hchange, told, h]
  rfl

theorem operate_eq_advance (number : Nat) (operation : Participant.Operation) (scene : Scene) :
    scene.operate number operation =
      scene.advance
        (scene.conference.modify number fun participant =>
          (participant.perform operation).participant)
        (scene.told number operation) := by
  unfold operate
  cases h : scene.participant? number with
  | none =>
      rw [Conference.modify_of_none h, told, h]
      rfl
  | some participant => exact settle_eq_advance h operation

theorem callParticipant_eq_operate {number : Nat} {call : ParticipantCall} {scene : Scene}
    (h : ∀ participant, scene.participant? number = some participant →
      (participant.perform (.call call)).notifies = false) :
    scene.callParticipant number call = scene.operate number (.call call) := by
  unfold callParticipant operate
  cases hparticipant : scene.participant? number with
  | none => rfl
  | some participant => simp [h participant hparticipant]

/-- The conference is not told of a participant that it has taken down itself. -/
theorem dismantle_eq_operate (entry : Endpoint × Nat) (scene : Scene) :
    scene.dismantle entry =
      ((((scene.operate entry.2 .unobserve).operate entry.2 .detach).operate entry.2
        (.call (.disconnect .aborted))).operate entry.2 (.call .destroy)).note
          (.participantRemoved entry.1) := by
  unfold dismantle
  rw [@callParticipant_eq_operate entry.2 (.disconnect .aborted),
    @callParticipant_eq_operate entry.2 .destroy]
  · intro participant hparticipant
    apply Participant.notifies_perform_of_not_observed
    simp only [operate_eq_advance, participant?, conference_advance,
      Conference.getElem?_modify, Option.map_map, Option.map_eq_some_iff] at hparticipant
    obtain ⟨before, -, rfl⟩ := hparticipant
    obtain ⟨endpoint, displayName, userUri, state, cause, attached, destroyed, observed⟩ := before
    cases cause <;> cases attached <;> cases destroyed <;> cases observed <;> rfl
  · intro participant _
    unfold Participant.perform Participant.disconnect Participant.unchanged
    simp only
    split <;> rfl

def Advances (scene next : Scene) : Prop :=
  ∃ told, next = scene.advance next.conference told

namespace Advances

theorem refl (scene : Scene) : Advances scene scene :=
  ⟨[], rfl⟩

theorem trans {scene middle next : Scene} (hfirst : Advances scene middle)
    (hsecond : Advances middle next) : Advances scene next := by
  obtain ⟨told, hmiddle⟩ := hfirst
  obtain ⟨more, hnext⟩ := hsecond
  rw [hmiddle, advance_advance] at hnext
  exact ⟨told ++ more, hnext⟩

theorem record {scene next : Scene} (h : Advances scene next) (effect : Effect) :
    Advances scene (next.record effect) :=
  h.trans ⟨[effect], record_eq_advance effect next⟩

theorem dropped_eq {scene next : Scene} (h : Advances scene next) :
    next.dropped = scene.dropped := by
  obtain ⟨told, hnext⟩ := h
  rw [hnext, dropped_advance]

theorem register_eq {scene next : Scene} (h : Advances scene next) :
    next.register = scene.register := by
  obtain ⟨told, hnext⟩ := h
  rw [hnext, register_advance]

theorem effects_grow {scene next : Scene} (h : Advances scene next) :
    scene.effects <+: next.effects := by
  obtain ⟨told, hnext⟩ := h
  rw [hnext, effects_advance]
  exact List.prefix_append _ _

end Advances

/-- What is newly seen passes a test. -/
def Tells (test : Effect → Bool) (scene next : Scene) : Prop :=
  ∃ told, next.effects = scene.effects ++ told ∧ ∀ effect ∈ told, test effect = true

namespace Tells

variable {test : Effect → Bool} {scene middle next : Scene}

theorem of_effects_eq (h : next.effects = scene.effects) : Tells test scene next :=
  ⟨[], by simp [h], by simp⟩

theorem of_record {effect : Effect} (h : test effect = true) (scene : Scene) :
    Tells test scene (scene.record effect) :=
  ⟨[effect], effects_record effect scene, by simpa using h⟩

theorem trans (hfirst : Tells test scene middle) (hsecond : Tells test middle next) :
    Tells test scene next := by
  obtain ⟨told, hmiddle, htold⟩ := hfirst
  obtain ⟨more, hnext, hmore⟩ := hsecond
  refine ⟨told ++ more, ?_, ?_⟩
  · rw [hnext, hmiddle, List.append_assoc]
  · intro effect heffect
    rcases List.mem_append.mp heffect with hleft | hright
    · exact htold effect hleft
    · exact hmore effect hright

theorem weaken {weaker : Effect → Bool} (h : Tells test scene next)
    (himplies : ∀ {effect}, test effect = true → weaker effect = true) :
    Tells weaker scene next := by
  obtain ⟨told, hnext, htold⟩ := h
  exact ⟨told, hnext, fun effect heffect => himplies (htold effect heffect)⟩

end Tells

/-! Advances that neither hand over a participant nor tell of the host or of the end. -/

def Routine (scene next : Scene) : Prop :=
  ∃ told, next = scene.advance next.conference told ∧ ∀ effect ∈ told, effect.isRoutine = true

namespace Routine

theorem refl (scene : Scene) : Routine scene scene :=
  ⟨[], rfl, by simp⟩

theorem trans {scene middle next : Scene} (hfirst : Routine scene middle)
    (hsecond : Routine middle next) : Routine scene next := by
  obtain ⟨told, hmiddle, htold⟩ := hfirst
  obtain ⟨more, hnext, hmore⟩ := hsecond
  refine ⟨told ++ more, ?_, ?_⟩
  · rw [hmiddle, advance_advance] at hnext
    exact hnext
  · intro effect heffect
    rcases List.mem_append.mp heffect with hleft | hright
    · exact htold effect hleft
    · exact hmore effect hright

theorem of_eq_advance {scene next : Scene} {conference : Conference} {told : List Effect}
    (h : next = scene.advance conference told)
    (htold : ∀ effect ∈ told, effect.isRoutine = true) : Routine scene next := by
  subst h
  exact ⟨told, rfl, htold⟩

theorem advances {scene next : Scene} (h : Routine scene next) : Advances scene next := by
  obtain ⟨told, hnext, -⟩ := h
  exact ⟨told, hnext⟩

theorem tells {scene next : Scene} (h : Routine scene next) :
    Tells Effect.isRoutine scene next := by
  obtain ⟨told, hnext, htold⟩ := h
  exact ⟨told, by rw [hnext, effects_advance], htold⟩

end Routine

theorem routine_record {effect : Effect} (h : effect.isRoutine = true) (scene : Scene) :
    Routine scene (scene.record effect) :=
  .of_eq_advance (record_eq_advance effect scene) (by simpa using h)

theorem Routine.record {scene next : Scene} (h : Routine scene next) {effect : Effect}
    (heffect : effect.isRoutine = true) : Routine scene (next.record effect) :=
  h.trans (routine_record heffect next)

theorem routine_replace (conference : Conference) (scene : Scene) :
    Routine scene { scene with conference } :=
  ⟨[], rfl, by simp⟩

theorem routine_operate (number : Nat) (operation : Participant.Operation) (scene : Scene) :
    Routine scene (scene.operate number operation) :=
  .of_eq_advance (operate_eq_advance number operation scene) fun _ => isRoutine_of_mem_told

@[simp] theorem conference_note (notice : ConferenceNotice) (scene : Scene) :
    (scene.note notice).conference = scene.conference := rfl

@[simp] theorem conference_announce (change : Change) (scene : Scene) :
    (scene.announce change).conference = scene.conference := rfl

@[simp] theorem conference_setRoster (roster : Roster Nat) (scene : Scene) :
    (scene.setRoster roster).conference = { scene.conference with roster } := rfl

@[simp] theorem conference_operate (number : Nat) (operation : Participant.Operation)
    (scene : Scene) :
    (scene.operate number operation).conference =
      scene.conference.modify number fun participant =>
        (participant.perform operation).participant := by
  rw [operate_eq_advance, conference_advance]

@[simp] theorem conference_dismantle (entry : Endpoint × Nat) (scene : Scene) :
    (scene.dismantle entry).conference = scene.conference.modify entry.2 .dismantled := by
  simp only [dismantle_eq_operate, conference_note, conference_operate,
    Conference.modify_modify]
  congr 1
  funext participant
  exact participant.dismantled_eq

theorem dismantleAll_cons (scene : Scene) (entry : Endpoint × Nat)
    (entries : List (Endpoint × Nat)) :
    scene.dismantleAll (entry :: entries) = (scene.dismantle entry).dismantleAll entries :=
  rfl

@[simp] theorem conference_dismantleAll (entries : List (Endpoint × Nat)) (scene : Scene) :
    (scene.dismantleAll entries).conference =
      scene.conference.dismantle (entries.map Prod.snd) := by
  induction entries generalizing scene with
  | nil => rfl
  | cons entry entries ih =>
      rw [dismantleAll_cons, ih, conference_dismantle]
      rfl

theorem routine_refreshManage (scene : Scene) : Routine scene scene.refreshManage := by
  simp only [refreshManage]
  split
  · exact routine_record rfl scene
  · exact ((routine_record rfl scene).trans (routine_replace _ _)).record rfl

@[simp] theorem conference_refreshManage (scene : Scene) :
    scene.refreshManage.conference = scene.conference.refreshManage := by
  simp only [refreshManage, Conference.refreshManage, conference_note]
  split <;> rfl

theorem conference_forget (number : Nat) (scene : Scene) :
    (scene.forget number).conference = scene.conference.forget number := by
  unfold forget Conference.forget participant?
  cases scene.conference.participants[number]? with
  | none => rfl
  | some participant =>
      simp only
      cases scene.conference.roster.eraseIf? participant.endpoint number with
      | none => rfl
      | some roster => simp

theorem conference_callParticipant {scene : Scene} (h : scene.dropped = false) (number : Nat)
    (call : ParticipantCall) :
    (scene.callParticipant number call).conference = scene.conference.call number call := by
  unfold callParticipant Conference.call
  cases hparticipant : scene.participant? number with
  | none =>
      rw [participant?] at hparticipant
      simp [hparticipant, Conference.modify_of_none]
  | some participant =>
      have hsettle := settle_eq_advance hparticipant (.call call)
      rw [participant?] at hparticipant
      simp only [hparticipant, hsettle, Option.any_some, dropped_advance, h, and_true]
      split
      · rw [conference_forget, conference_advance]
      · rw [conference_advance]

@[simp] theorem conference_dismissAll (scene : Scene) :
    scene.dismissAll.1.conference = scene.conference.dismissAll := by
  unfold dismissAll Conference.dismissAll
  rw [conference_refreshManage, conference_dismantleAll]
  congr 2
  split <;> rfl

@[simp] theorem conference_releaseHost (scene : Scene) :
    scene.releaseHost.conference =
      { scene.conference with host := scene.conference.host.release.1 } := by
  simp only [releaseHost, HostLine.release]
  split <;> rfl

@[simp] theorem conference_tearDown (scene : Scene) :
    scene.tearDown.conference = scene.conference.tearDown := by
  simp only [tearDown, Conference.tearDown]
  split
  · rfl
  · simp

theorem tearDown_of_tornDown {scene : Scene} (h : scene.conference.tornDown = true) :
    scene.tearDown = scene := by
  simp [tearDown, h]

/-! The state of the whole conference. -/

theorem routine_setState (next : ConnectionState) (scene : Scene) :
    Routine scene (scene.setState next) := by
  simp only [setState]
  split
  · exact .refl scene
  · exact ((routine_replace _ scene).record rfl).record rfl

@[simp] theorem conference_setState (next : ConnectionState) (scene : Scene) :
    (scene.setState next).conference = { scene.conference with state := next } := by
  simp only [setState]
  split
  · rename_i h
    rw [← h]
  · rfl

theorem setDisconnected_of_cause {cause : DisconnectCause} {scene : Scene}
    (h : scene.conference.cause.isSome = true) : scene.setDisconnected cause = scene := by
  simp [setDisconnected, h]

theorem conference_setDisconnected {scene : Scene} (h : scene.conference.cause = none)
    (cause : DisconnectCause) :
    (scene.setDisconnected cause).conference =
      { scene.conference with cause := some cause, state := .disconnected } := by
  simp [setDisconnected, h]

theorem tells_setDisconnected {scene : Scene} (h : scene.conference.cause = none)
    (cause : DisconnectCause) :
    Tells Effect.isRoutine (scene.note (.disconnected cause)) (scene.setDisconnected cause) := by
  let caused : Scene :=
    { scene with conference := { scene.conference with cause := some cause } }
  have hstep : scene.setDisconnected cause =
      (caused.note (.disconnected cause)).setState .disconnected := by
    simp [setDisconnected, h, caused]
  rw [hstep]
  exact (Tells.of_effects_eq rfl).trans
    (routine_setState .disconnected (caused.note (.disconnected cause))).tells

theorem advances_setDisconnected (cause : DisconnectCause) (scene : Scene) :
    Advances scene (scene.setDisconnected cause) := by
  unfold setDisconnected
  split
  · exact .refl scene
  · exact ((routine_replace _ scene).advances.record _).trans (routine_setState _ _).advances

end Scene

end ConferenceBridge
