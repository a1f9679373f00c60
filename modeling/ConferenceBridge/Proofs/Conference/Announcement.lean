import ConferenceBridge.Proofs.Conference.Order
import ConferenceBridge.Proofs.Conference.Reconciliation
import ConferenceBridge.Proofs.Conference.TearDown

namespace ConferenceBridge

/-! In which order the subscribers hear of things. A participant is announced only when the call
list is done with it, whatever the call list did meanwhile: even if that participant has left by
then, and even if the conference has ended. -/

theorem Effect.isAside_of_isRemark {effect : Effect} (h : effect.isRemark = true) :
    effect.isAside = true := by
  cases effect with
  | published publication => cases h
  | changed change => cases h
  | _ => rfl

theorem Participant.isPassing_of_mem_told {participant : Participant} {operation : Operation}
    {effect : Effect} (h : effect ∈ (participant.perform operation).told) :
    effect.isPassing = true := by
  revert h
  unfold perform update disconnect destroy unobserve detach unchanged Outcome.told
  repeat' split
  all_goals
    simp only [List.map_nil, List.map_cons, List.nil_append, List.append_nil, List.cons_append,
      List.not_mem_nil, List.mem_cons, or_false]
  all_goals grind [Effect.isPassing]

theorem Participant.perform_call_of_isGone {participant : Participant} (h : participant.IsGone)
    (call : ParticipantCall) : participant.perform (.call call) = participant.unchanged := by
  cases call with
  | update next => simp [perform, update, h.destroyed]
  | disconnect cause => simp [perform, disconnect, h.destroyed]
  | destroy => exact perform_destroy_of_isGone h

namespace Scene

theorem tells_isPassing_operate (number : Nat) (operation : Participant.Operation)
    (scene : Scene) : Tells Effect.isPassing scene (scene.operate number operation) := by
  rw [operate_eq_advance]
  refine ⟨_, effects_advance _ _ _, ?_⟩
  intro effect heffect
  unfold told at heffect
  cases hparticipant : scene.participant? number with
  | none => simp [hparticipant] at heffect
  | some participant =>
      rw [hparticipant] at heffect
      exact Participant.isPassing_of_mem_told heffect

theorem Act.tells_isPassing (hact : Act scene next) : Tells Effect.isPassing scene next := by
  cases hact with
  | remark effect heffect =>
      exact .of_record (Effect.isPassing_of_isAside (Effect.isAside_of_isRemark heffect)) scene
  | operate number operation _ => exact tells_isPassing_operate number operation scene
  | setRoster roster => exact .of_effects_eq rfl
  | setHost host => exact .of_effects_eq rfl
  | refreshManage =>
      simp only [Scene.refreshManage]
      split
      · exact .of_record rfl scene
      · exact (Tells.of_record rfl scene).trans (.of_record rfl _)

theorem Acts.tells_isPassing (hacts : Acts scene next) : Tells Effect.isPassing scene next := by
  induction hacts with
  | refl => exact .of_effects_eq rfl
  | tail _ hlast ih => exact ih.trans hlast.tells_isPassing

theorem tells_isPassing_callParticipant (number : Nat) (call : ParticipantCall) (scene : Scene) :
    Tells Effect.isPassing scene (scene.callParticipant number call) := by
  have hoperated := tells_isPassing_operate number (.call call) scene
  rcases callParticipant_eq_or number call scene with heq | ⟨-, heq⟩
  · rw [heq]
    exact hoperated
  · rw [heq]
    exact hoperated.trans (acts_forget number _).tells_isPassing

theorem tells_isPassing_setState (state : ConnectionState) (scene : Scene) :
    Tells Effect.isPassing scene (scene.setState state) := by
  simp only [setState]
  split
  · exact .of_effects_eq rfl
  · exact (Tells.of_record rfl scene).trans (.of_record rfl _)

theorem tells_isPassing_setDisconnected (cause : DisconnectCause) (scene : Scene) :
    Tells Effect.isPassing scene (scene.setDisconnected cause) := by
  unfold setDisconnected
  split
  · exact .of_effects_eq rfl
  · exact (Tells.of_record rfl scene).trans (tells_isPassing_setState _ _)

/-- What holds of a conference whenever nobody is called back within a step. -/
structure Sound (scene : Scene) : Prop where
  held : scene.dropped = false
  coherent : scene.conference.Coherent
  closes : scene.conference.Closes

theorem Sound.of_reaches (h : scene.Sound) (hreach : Reaches scene next) : next.Sound where
  held := (Reaches.dropped_eq hreach).trans h.held
  coherent := (Reaches.evolves hreach h.held).coherent h.coherent
  closes := (Reaches.evolves hreach h.held).closes h.closes

/-- What is seen on the way from one scene to the other, and what it has to do with the end of the
conference. -/
structure Tale (scene next : Scene) (told : List Effect) : Prop where
  effects : next.effects = scene.effects ++ told
  balanced : Effect.Balanced told
  aside : scene.conference.tornDown = true → ∀ effect ∈ told, effect.isAside = true
  ended : .changed .destroyed ∈ told → next.conference.tornDown = true
  concludes : Effect.Concludes told

theorem Tale.trans {scene middle next : Scene} {told more : List Effect}
    (hfirst : Tale scene middle told) (hsecond : Tale middle next more)
    (hstill : scene.conference.tornDown = true → middle.conference.tornDown = true)
    (hmore : middle.conference.tornDown = true → next.conference.tornDown = true) :
    Tale scene next (told ++ more) where
  effects := by rw [hsecond.effects, hfirst.effects, List.append_assoc]
  balanced := hfirst.balanced.append hsecond.balanced
  aside htorn effect heffect := by
    rcases List.mem_append.mp heffect with hleft | hright
    · exact hfirst.aside htorn effect hleft
    · exact hsecond.aside (hstill htorn) effect hright
  ended hmem := by
    rcases List.mem_append.mp hmem with hleft | hright
    · exact hmore (hfirst.ended hleft)
    · exact hsecond.ended hright
  concludes := hfirst.concludes.append hsecond.concludes fun hmem effect heffect =>
    Effect.isEpilogue_of_isAside (hsecond.aside (hfirst.ended hmem) effect heffect)

theorem Tells.tale (h : Tells Effect.isPassing scene next)
    (haside : scene.conference.tornDown = true → Tells Effect.isAside scene next) :
    ∃ told, Tale scene next told := by
  obtain ⟨told, heffects, htold⟩ := h
  have hnever : .changed .destroyed ∉ told := by
    intro hmem
    cases htold _ hmem
  refine ⟨told, heffects, .of_isPlain fun effect heffect =>
    Effect.isPlain_of_isPassing (htold effect heffect), ?_, fun hmem => absurd hmem hnever,
    .of_not_mem hnever⟩
  intro htorn effect heffect
  obtain ⟨same, hsame, hasides⟩ := haside htorn
  rw [heffects, List.append_cancel_left_eq] at hsame
  exact hasides effect (hsame ▸ heffect)

theorem Tells.tale_of_open (h : Tells Effect.isPassing scene next)
    (hopen : scene.conference.tornDown = false) : ∃ told, Tale scene next told := by
  apply h.tale
  intro htorn
  rw [hopen] at htorn
  cases htorn

theorem tale_of_isAside (h : Tells Effect.isAside scene next) : ∃ told, Tale scene next told :=
  (h.weaken Effect.isPassing_of_isAside).tale fun _ => h

theorem Tells.tale_tearDown {middle : Scene} (h : Tells Effect.isPassing scene middle)
    (hopen : scene.conference.tornDown = false) : ∃ told, Tale scene middle.tearDown told := by
  cases hflag : middle.conference.tornDown with
  | true =>
      rw [tearDown_of_tornDown hflag]
      exact h.tale_of_open hopen
  | false =>
      obtain ⟨last, hacts, heq⟩ := acts_tearDown hflag
      have hflagged : Tells Effect.isPassing scene last :=
        (h.trans (.of_effects_eq rfl)).trans hacts.tells_isPassing
      obtain ⟨told, heffects, htold⟩ := hflagged
      have hnever : .changed .destroyed ∉ told := by
        intro hmem
        cases htold _ hmem
      refine ⟨told ++ [.changed .destroyed], ?_, ?_, ?_, ?_, ?_⟩
      · rw [heq, announce, effects_record, heffects, List.append_assoc]
      · apply Effect.Balanced.append
        · exact .of_isPlain fun effect heffect =>
            Effect.isPlain_of_isPassing (htold effect heffect)
        · exact .plain rfl .nil
      · intro htorn
        rw [hopen] at htorn
        cases htorn
      · intro _
        rw [conference_tearDown, Conference.tornDown_tearDown]
      · exact (Effect.Concludes.of_not_mem hnever).append .ending fun hmem => absurd hmem hnever

theorem tale_applyHostState {scene : Scene} (hopen : scene.conference.tornDown = false)
    (state : ConnectionState) : ∃ told, Tale scene (scene.applyHostState state) told := by
  have hnote : Tells Effect.isPassing scene (scene.note (.hostState state)) := .of_record rfl scene
  cases state with
  | active | held => exact (hnote.trans (tells_isPassing_setState _ _)).tale_of_open hopen
  | disconnected =>
      exact (hnote.trans (tells_isPassing_setDisconnected _ _)).tale_tearDown hopen
  | _ => exact hnote.tale_of_open hopen

theorem Sound.isGone {scene : Scene} (h : scene.Sound) (htorn : scene.conference.tornDown = true)
    {number : Nat} {participant : Participant}
    (hparticipant : scene.conference.participants[number]? = some participant) :
    participant.IsGone :=
  h.coherent.unlisted number participant hparticipant (by simp [(h.closes.ended htorn).roster])

theorem Sound.tells_callParticipant {scene : Scene} (h : scene.Sound)
    (htorn : scene.conference.tornDown = true) (number : Nat) (call : ParticipantCall) :
    Tells Effect.isAside scene (scene.callParticipant number call) := by
  apply Tells.of_effects_eq
  cases hparticipant : scene.participant? number with
  | none => simp [callParticipant, hparticipant]
  | some participant =>
      have hgone := h.isGone htorn hparticipant
      have hnothing := Participant.perform_call_of_isGone hgone call
      simp [callParticipant, hparticipant, hnothing, Participant.unchanged, settle, Scene.effects]

theorem Sound.tells_refreshManage {scene : Scene} (h : scene.Sound)
    (htorn : scene.conference.tornDown = true) :
    Tells Effect.isAside scene scene.refreshManage := by
  have hended := h.closes.ended htorn
  have hfits : scene.conference.capabilities.can .manageConference =
      !scene.conference.roster.isEmpty := by
    simp [hended.manage, Roster.isEmpty, hended.roster]
  simp only [refreshManage, hfits, if_true]
  exact .of_record rfl scene

theorem Sound.tells_dismissAll {scene : Scene} (h : scene.Sound)
    (htorn : scene.conference.tornDown = true) :
    Tells Effect.isAside scene scene.dismissAll.1 := by
  have hempty := Roster.eq_empty_of_entries (h.closes.ended htorn).roster
  have hsame : scene.setRoster .empty = scene := by
    rw [← hempty]
    rfl
  have hnobody : scene.dismissAll.1 = scene.refreshManage := by
    simp only [dismissAll, hempty, hsame]
    rfl
  rw [hnobody]
  exact h.tells_refreshManage htorn

structure Narrates (scene next : Scene) : Prop where
  reaches : Reaches scene next
  tale : scene.Sound → ∃ told, Tale scene next told

namespace Narrates

variable {scene middle next : Scene}

theorem refl (scene : Scene) : scene.Narrates scene :=
  ⟨.refl, fun _ => tale_of_isAside (.of_effects_eq rfl)⟩

theorem tornDown (h : scene.Narrates next) (hsound : scene.Sound)
    (htorn : scene.conference.tornDown = true) : next.conference.tornDown = true :=
  (Reaches.evolves h.reaches hsound.held).continues.tornDown htorn

theorem trans (hfirst : scene.Narrates middle) (hsecond : middle.Narrates next) :
    scene.Narrates next := by
  refine ⟨hfirst.reaches.trans hsecond.reaches, fun hsound => ?_⟩
  have hmiddle := hsound.of_reaches hfirst.reaches
  obtain ⟨told, htold⟩ := hfirst.tale hsound
  obtain ⟨more, hmore⟩ := hsecond.tale hmiddle
  exact ⟨told ++ more, htold.trans hmore (hfirst.tornDown hsound) (hsecond.tornDown hmiddle)⟩

theorem move (h : Move scene next) : scene.Narrates next := by
  refine ⟨h.step.reaches, fun hsound => ?_⟩
  cases h with
  | remark effect heffect =>
      exact tale_of_isAside (.of_record (Effect.isAside_of_isRemark heffect) scene)
  | handle handle => exact tale_of_isAside (.of_effects_eq rfl)
  | call number call =>
      exact (tells_isPassing_callParticipant number call scene).tale fun htorn =>
        hsound.tells_callParticipant htorn number call
  | remember state hopen => exact tale_of_isAside (.of_effects_eq rfl)
  | follow state hopen => exact tale_applyHostState hopen state
  | disconnect cause hopen => exact (tells_isPassing_setDisconnected cause scene).tale_of_open hopen
  | tearDown hopen => exact Tells.tale_tearDown (.of_effects_eq rfl) hopen

/-- Whatever the call list does meanwhile stands between the publication and its announcement. -/
theorem enroll {react : React} {entry : Snapshot} {roster : Roster Nat}
    (hreact : ∀ calls scene, Narrates scene (react calls scene))
    (hopen : scene.conference.tornDown = false)
    (habsent : scene.conference.roster.insertIfAbsent entry.endpoint
      scene.conference.participants.length = .stored roster) :
    scene.Narrates (scene.enrollWith react entry roster) := by
  have henrolled : Reaches scene (scene.enroll entry roster) :=
    (Step.enroll entry hopen habsent).reaches
  have hwithin := hreact scene.nextCalls.1 (scene.enroll entry roster)
  refine ⟨henrolled.trans (hwithin.reaches.trans
    ((Step.remark _ rfl).reaches.trans (Step.welcome _).reaches)), fun hsound => ?_⟩
  obtain ⟨window, htale⟩ := hwithin.tale (hsound.of_reaches henrolled)
  let note : Effect := .noted (.conference
    (.participantAdded entry.endpoint (.forPhone scene.conference.host.phone)))
  let announcement : Effect := .changed (.participantAdded entry.endpoint)
  refine ⟨.published (scene.publication entry) :: (window ++ [note]) ++ [announcement], ?_, ?_, ?_,
    ?_, ?_⟩
  · have heffects := htale.effects
    rw [effects_enroll] at heffects
    simp only [enrollWith, announce, Scene.note, effects_record, heffects]
    simp [note, announcement]
  · exact .handover (scene.publication entry) (htale.balanced.append (.plain rfl .nil)) .nil
  · intro htorn
    rw [hopen] at htorn
    cases htorn
  · intro hmem
    apply htale.ended
    simpa [note, announcement] using hmem
  · have hfirst : Effect.Concludes [.published (scene.publication entry)] :=
      .of_not_mem (by simp)
    have hlast : Effect.Concludes [note, announcement] := .of_not_mem (by simp [note, announcement])
    have hrest : Effect.Concludes (window ++ [note, announcement]) := by
      apply htale.concludes.append hlast
      intro _ effect heffect
      rcases List.mem_cons.mp heffect with rfl | hlater
      · rfl
      · rw [List.mem_singleton.mp hlater]
        rfl
    have hwhole := hfirst.append hrest (by simp)
    simpa using hwhole

end Narrates

theorem walkClosed_narrates : WalkClosed Narrates where
  refl := Narrates.refl
  trans := Narrates.trans
  move := Narrates.move
  enroll _ _ hreact hopen habsent := .enroll hreact hopen habsent
  keep {scene} listed hopen :=
    ⟨(Step.keep listed hopen).reaches, fun _ =>
      (acts_keep listed scene).tells_isPassing.tale_of_open hopen⟩
  dismiss htorn :=
    ⟨(Step.dismiss htorn).reaches, fun hsound => tale_of_isAside (hsound.tells_dismissAll htorn)⟩
  refreshManage _ :=
    ⟨Step.refreshManage.reaches, fun hsound =>
      Act.refreshManage.tells_isPassing.tale hsound.tells_refreshManage⟩

theorem narrates_run {requests : List Request} (hstate : ∀ state, .hostState state ∉ requests)
    (scene : Scene) : scene.Narrates (scene.run requests) :=
  walkClosed_narrates.requests.run (fun state hmem => absurd hmem (hstate state))
    (fun register _ scene =>
      ⟨(Step.surroundings scene.handle register).reaches, fun _ =>
        tale_of_isAside (.of_effects_eq rfl)⟩) scene

/-! Nobody is spoken of who was not handed over before. -/

structure Introduces (scene : Scene) : Prop where
  participants : ∀ participant ∈ scene.conference.participants,
    0 < Effect.handovers participant.endpoint scene.effects
  changes : ∀ before change after endpoint, scene.effects = before ++ .changed change :: after →
    change.endpoint? = some endpoint → change ≠ .participantAdded endpoint →
      0 < Effect.handovers endpoint before

namespace Introduces

variable {scene next : Scene}

theorem of_told (h : scene.Introduces) {told : List Effect}
    (heffects : next.effects = scene.effects ++ told)
    (hparticipants : ∀ participant ∈ next.conference.participants,
      0 < Effect.handovers participant.endpoint next.effects)
    (htold : ∀ change endpoint, .changed change ∈ told → change.endpoint? = some endpoint →
      change ≠ .participantAdded endpoint → 0 < Effect.handovers endpoint scene.effects) :
    next.Introduces := by
  refine ⟨hparticipants, ?_⟩
  intro before change after endpoint heq hendpoint hother
  rw [heffects] at heq
  rcases Effect.place_of_append heq with ⟨rest, hbefore, -⟩ | ⟨rest, rfl, hrest⟩
  · exact h.changes before change rest endpoint hbefore hendpoint hother
  · rw [Effect.handovers_append]
    have hmem : .changed change ∈ told := by simp [hrest]
    have hpos := htold change endpoint hmem hendpoint hother
    omega

theorem of_changes_impersonal (h : scene.Introduces) {told : List Effect}
    (heffects : next.effects = scene.effects ++ told)
    (hparticipants : next.conference.participants = scene.conference.participants)
    (htold : ∀ change, .changed change ∈ told → change.endpoint? = none) : next.Introduces := by
  apply h.of_told heffects
  · intro participant hmem
    rw [hparticipants] at hmem
    rw [heffects, Effect.handovers_append]
    have hpos := h.participants participant hmem
    omega
  · intro change endpoint hmem hendpoint
    rw [htold change hmem] at hendpoint
    cases hendpoint

theorem operate (h : scene.Introduces) (number : Nat) (operation : Participant.Operation) :
    (scene.operate number operation).Introduces := by
  have heffects : (scene.operate number operation).effects =
      scene.effects ++ scene.told number operation := by
    rw [operate_eq_advance, effects_advance]
  apply h.of_told heffects
  · intro participant hmem
    obtain ⟨place, hplace⟩ := List.mem_iff_getElem?.mp hmem
    rw [conference_operate, Conference.getElem?_modify, Option.map_eq_some_iff] at hplace
    obtain ⟨before, hbefore, rfl⟩ := hplace
    have hpos := h.participants before (List.mem_of_getElem? hbefore)
    have hendpoint : (if place = number then (before.perform operation).participant
        else before).endpoint = before.endpoint := by
      split
      · exact before.endpoint_perform operation
      · rfl
    rw [hendpoint, heffects, Effect.handovers_append]
    omega
  · intro change endpoint hmem hendpoint _
    cases hparticipant : scene.participant? number with
    | none => simp [told, hparticipant] at hmem
    | some participant =>
        have hchange : change ∈ (participant.perform operation).changes := by
          simpa [told, hparticipant, Participant.Outcome.told] using hmem
        rw [Participant.endpoint?_of_mem_changes hchange, Option.some.injEq] at hendpoint
        exact hendpoint ▸ h.participants participant (List.mem_of_getElem? hparticipant)

theorem enroll (h : scene.Introduces) (entry : Snapshot) (roster : Roster Nat) :
    (scene.enroll entry roster).Introduces := by
  have heffects := effects_enroll entry roster scene
  apply h.of_told heffects
  · intro participant hmem
    rw [heffects, Effect.handovers_append]
    rcases List.mem_append.mp hmem with hbefore | hlast
    · have hpos := h.participants participant hbefore
      omega
    · rw [List.mem_singleton.mp hlast]
      obtain ⟨hone, -⟩ := Effect.counts_publication (scene.publication entry) entry.endpoint
      have hpos : 0 < Effect.handovers entry.endpoint [.published (scene.publication entry)] := by
        rw [hone]
        exact Nat.lt_of_lt_of_eq Nat.one_pos (if_pos rfl).symm
      exact Nat.lt_of_lt_of_le hpos (Nat.le_add_left _ _)
  · intro change endpoint hmem
    simp at hmem

theorem announce (h : scene.Introduces) (endpoint : Endpoint) :
    (scene.announce (.participantAdded endpoint)).Introduces := by
  have heffects : (scene.announce (.participantAdded endpoint)).effects =
      scene.effects ++ [.changed (.participantAdded endpoint)] := effects_record _ scene
  apply h.of_told heffects
  · intro participant hmem
    rw [heffects, Effect.handovers_append]
    have hpos := h.participants participant hmem
    omega
  · intro change other hmem hendpoint hother
    rw [List.mem_singleton, Effect.changed.injEq] at hmem
    subst hmem
    cases hendpoint
    exact absurd rfl hother

end Introduces

theorem Act.introduces (hact : Act scene next) (h : scene.Introduces) : next.Introduces := by
  cases hact with
  | remark effect heffect =>
      apply h.of_changes_impersonal (effects_record effect scene) rfl
      intro change hmem
      rw [List.mem_singleton] at hmem
      subst hmem
      cases heffect
  | operate number operation _ => exact h.operate number operation
  | setRoster roster => exact h.of_changes_impersonal (List.append_nil _).symm rfl (by simp)
  | setHost host => exact h.of_changes_impersonal (List.append_nil _).symm rfl (by simp)
  | refreshManage =>
      simp only [Scene.refreshManage]
      split
      · exact h.of_changes_impersonal (effects_record _ scene) rfl (by simp)
      · have hnoted : (scene.note (.manageChecked
            (scene.conference.capabilities.can .manageConference)
            (!scene.conference.roster.isEmpty))).Introduces :=
          h.of_changes_impersonal (effects_record _ scene) rfl (by simp)
        exact hnoted.of_changes_impersonal (effects_record _ _) rfl (by simp [Change.endpoint?])

theorem Beat.introduces (hbeat : Beat scene next) (h : scene.Introduces) : next.Introduces := by
  cases hbeat with
  | act hact => exact hact.introduces h
  | update number state => exact h.operate number _
  | hostState state => exact h.of_changes_impersonal (effects_record _ scene) rfl (by simp)
  | setState state =>
      simp only [Scene.setState]
      split
      · exact h
      · have hnoted : (Scene.note (.stateChanged scene.conference.state state) { scene with
            conference := { scene.conference with state } }).Introduces :=
          h.of_changes_impersonal (effects_record _ scene) rfl (by simp)
        exact hnoted.of_changes_impersonal (effects_record _ _) rfl (by simp [Change.endpoint?])
  | setCause cause => exact h.of_changes_impersonal (effects_record _ scene) rfl (by simp)
  | flag => exact h.of_changes_impersonal (List.append_nil _).symm rfl (by simp)
  | conclude =>
      exact h.of_changes_impersonal (effects_record _ scene) rfl (by simp [Change.endpoint?])

theorem Reaches.introduces (hreach : Reaches scene next) (h : scene.Introduces) :
    next.Introduces := by
  apply hreach.preserves_of_beats Beat.introduces _ _ _ h
  · intro scene handle register h
    exact h.of_changes_impersonal (List.append_nil _).symm rfl (by simp)
  · intro scene roster entry h
    exact h.enroll entry roster
  · intro scene endpoint h
    exact h.announce endpoint

/-! While nobody calls back everyone is announced at once. -/

theorem Beat.unpublished (hbeat : Beat scene next) :
    next.register = scene.register ∧
      Tells (fun effect => effect.publication?.isNone) scene next := by
  have hpassing : ∀ {scene next : Scene}, Tells Effect.isPassing scene next →
      Tells (fun effect => effect.publication?.isNone) scene next := by
    intro scene next htells
    apply htells.weaken
    intro effect heffect
    cases effect with
    | published publication => cases heffect
    | _ => rfl
  cases hbeat with
  | act hact => exact ⟨hact.routine.advances.register_eq, hpassing hact.tells_isPassing⟩
  | update number state =>
      exact ⟨(routine_operate _ _ scene).advances.register_eq,
        hpassing (tells_isPassing_operate _ _ scene)⟩
  | hostState state => exact ⟨rfl, .of_record rfl scene⟩
  | setState state =>
      exact ⟨(routine_setState state scene).advances.register_eq,
        hpassing (tells_isPassing_setState state scene)⟩
  | setCause cause => exact ⟨rfl, .of_record rfl scene⟩
  | flag => exact ⟨rfl, .of_effects_eq rfl⟩
  | conclude => exact ⟨rfl, .of_record rfl scene⟩

def StaysPrompt (scene next : Scene) : Prop :=
  Silent scene.register → Silent next.register ∧
    (Effect.Prompt scene.effects → Effect.Prompt next.effects)

theorem Beats.staysPrompt (h : Beats scene next) : scene.StaysPrompt next := by
  intro hsilent
  induction h with
  | refl => exact ⟨hsilent, id⟩
  | tail _ hlast ih =>
      obtain ⟨hregister, told, heffects, htold⟩ := hlast.unpublished
      refine ⟨hregister ▸ ih.1, fun hprompt => ?_⟩
      rw [heffects]
      exact (ih.2 hprompt).append (.of_unpublished fun effect heffect => by
        simpa using htold effect heffect)

theorem StaysPrompt.enroll {react : React} (hidle : ∀ scene, react [] scene = scene)
    (entry : Snapshot) (roster : Roster Nat) (scene : Scene) :
    scene.StaysPrompt (scene.enrollWith react entry roster) := by
  intro hsilent
  rw [enrollWith, nextCalls_of_silent hsilent, hidle]
  refine ⟨hsilent.tail, fun hprompt => ?_⟩
  let note : Effect := .noted (.conference
    (.participantAdded entry.endpoint (.forPhone scene.conference.host.phone)))
  have hwhole := hprompt.append (Effect.Prompt.enrolment (scene.publication entry)
    (rfl : note.isAside = true))
  simp only [Scene.announce, Scene.note, effects_record, effects_enroll]
  simpa [publication, note] using hwhole

theorem walkClosed_staysPrompt : WalkClosed StaysPrompt where
  refl _ hsilent := ⟨hsilent, id⟩
  trans hfirst hsecond hsilent :=
    have hmiddle := hfirst hsilent
    have hnext := hsecond hmiddle.1
    ⟨hnext.1, hnext.2 ∘ hmiddle.2⟩
  move hmove := by
    cases hmove with
    | remark effect heffect => exact Beats.staysPrompt (.single (.act (.remark effect heffect)))
    | handle handle => exact fun hsilent => ⟨hsilent, id⟩
    | call number call => exact (beats_callParticipant number call _).staysPrompt
    | remember state hopen => exact Beats.staysPrompt (.single (.act (.setHost _)))
    | follow state hopen => exact (beats_applyHostState state _).staysPrompt
    | disconnect cause hopen => exact (beats_setDisconnected cause _).staysPrompt
    | tearDown hopen => exact (beats_tearDown _).staysPrompt
  enroll entry hidle _ _ _ := .enroll hidle entry _ _
  keep listed _ := (acts_keep listed _).beats.staysPrompt
  dismiss _ := (acts_dismissAll _).beats.staysPrompt
  refreshManage _ := Beats.staysPrompt (.single (.act .refreshManage))

theorem prompt_run {requests : List Request}
    (hsilent : ∀ register, .registerChanged register ∈ requests → Silent register)
    (id : ConferenceId) (config : ConferenceConfig) (handle : Handle) :
    Effect.Prompt ((openOver id config handle).run requests).effects := by
  have hstart : Silent (openOver id config handle).register := by
    intro calls hcalls
    cases hcalls
  have hopened : Effect.Prompt (openOver id config handle).effects :=
    .of_unpublished (by simp [openOver, noteHost, note, record, effects, Effect.publication?])
  refine (walkClosed_staysPrompt.requests.run ?_ ?_ _ hstart).2 hopened
  · exact fun state _ scene => (beats_applyHostState state scene).staysPrompt
  · exact fun register hmem scene _ => ⟨hsilent register hmem, fun hprompt => hprompt⟩

variable {id : ConferenceId} {config : ConferenceConfig} {handle : Handle} {start : Scene}

/-- However deep others call a conference back: everyone who is handed over is announced
afterwards, nobody is spoken of before being handed over, and after the end nothing is told but who
was being handed over then. So subscribers hear of everyone first by the announcement, and of the end
last, exactly if meanwhile nothing is told of the one who is handed over and the conference does not
end. It is so whenever the call list calls nobody back. -/
theorem announced_first_iff (hopen : openOver? id config handle = .ok start)
    (requests : List Request) (hstate : ∀ state, .hostState state ∉ requests) :
    let effects := (start.run requests).effects
    Effect.Balanced effects ∧
    (∀ before change after endpoint, effects = before ++ .changed change :: after →
      change.endpoint? = some endpoint → change ≠ .participantAdded endpoint →
        0 < Effect.handovers endpoint before) ∧
    Effect.Concludes effects ∧
    (Effect.AnnouncedFirst effects ↔
      ∀ publication window, Effect.Window publication window effects →
        ∀ change, .changed change ∈ window → change.endpoint? = some publication.endpoint →
          change = .participantAdded publication.endpoint) ∧
    (Effect.EndsLast effects ↔
      ∀ publication window, Effect.Window publication window effects →
        .changed .destroyed ∉ window) ∧
    ((∀ register, .registerChanged register ∈ requests → Silent register) →
      Effect.AnnouncedFirst effects ∧ Effect.EndsLast effects) := by
  intro effects
  obtain ⟨rfl, -⟩ := eq_openOver_of_openOver? hopen
  have hsound : (openOver id config handle).Sound :=
    ⟨rfl, .of_no_participants rfl rfl, fun _ => rfl, fun h => by cases h⟩
  have hintroduces : ((openOver id config handle).run requests).Introduces := by
    refine Reaches.introduces (reaches_run requests _) ⟨?_, ?_⟩
    · intro participant hmem
      cases hmem
    · intro before change after endpoint heq
      have hmem : .changed change ∈ (openOver id config handle).effects := by simp [heq]
      simp [openOver, noteHost, note, record, Scene.effects] at hmem
  obtain ⟨told, htale⟩ := (narrates_run hstate (openOver id config handle)).tale hsound
  have hopened : ∀ effect ∈ (openOver id config handle).effects, effect.isAside = true := by
    simp [openOver, noteHost, note, record, Scene.effects, Effect.isAside]
  have hbalanced : Effect.Balanced effects := by
    rw [show effects = _ from htale.effects]
    exact (Effect.Balanced.of_isPlain fun effect heffect => Effect.isPlain_of_isPassing
      (Effect.isPassing_of_isAside (hopened effect heffect))).append htale.balanced
  have hconcludes : Effect.Concludes effects := by
    have hnever : .changed .destroyed ∉ (openOver id config handle).effects := by
      intro hmem
      cases hopened _ hmem
    rw [show effects = _ from htale.effects]
    exact (Effect.Concludes.of_not_mem hnever).append htale.concludes fun hmem =>
      absurd hmem hnever
  have hfirst := Effect.announcedFirst_iff hbalanced hintroduces.changes
  have hlast := Effect.endsLast_iff hbalanced hconcludes
  refine ⟨hbalanced, hintroduces.changes, hconcludes, hfirst, hlast, ?_⟩
  intro hsilent
  have hprompt : Effect.Prompt effects := prompt_run hsilent id config handle
  rw [hfirst, hlast]
  constructor
  · intro publication window hwindow change hmem
    cases hprompt.window hwindow _ hmem
  · intro publication window hwindow hmem
    cases hprompt.window hwindow _ hmem

/-- While someone is handed over, the call list reports that the host is active. -/
def answeredCall : List Request :=
  [.registerChanged [[.event (.ofState .active)]],
    .reconcile [⟨⟨"a", by decide⟩, .active, none, none⟩]]

theorem announced_first_iff_answeredCall :
    (∀ state, .hostState state ∉ answeredCall) ∧
      Effect.Balanced (fresh.run answeredCall).effects ∧
      Effect.Concludes (fresh.run answeredCall).effects ∧
      (Effect.EndsLast (fresh.run answeredCall).effects ↔
        ∀ publication window, Effect.Window publication window (fresh.run answeredCall).effects →
          .changed .destroyed ∉ window) := by
  have hstate : ∀ state, .hostState state ∉ answeredCall := by
    intro state hmem
    simp [answeredCall] at hmem
  obtain ⟨hbalanced, -, hconcludes, -, hlast, -⟩ :=
    announced_first_iff openOver?_fresh answeredCall hstate
  exact ⟨hstate, hbalanced, hconcludes, hlast⟩

def endedMeanwhile : List Request :=
  [.registerChanged [[.event .destroyed]],
    .reconcile [⟨⟨"a", by decide⟩, .active, none, none⟩]]

/-- The subscribers hear that someone left before they hear of them, and of the newcomer after the
end. -/
theorem announced_after_end :
    (fresh.run endedMeanwhile).changes =
        [.participantRemoved ⟨"a", by decide⟩, .participantDisconnected ⟨"a", by decide⟩ .aborted,
          .destroyed, .participantAdded ⟨"a", by decide⟩] ∧
      ¬ Effect.AnnouncedFirst (fresh.run endedMeanwhile).effects ∧
      ¬ Effect.EndsLast (fresh.run endedMeanwhile).effects := by
  refine ⟨rfl, fun hfirst => ?_, fun hlast => ?_⟩
  · have hremoved := hfirst ((fresh.run endedMeanwhile).effects.take 5)
      (.participantRemoved ⟨"a", by decide⟩) ((fresh.run endedMeanwhile).effects.drop 6)
      ⟨"a", by decide⟩ rfl rfl (by simp)
    exact absurd hremoved.1 (by decide)
  · have hnothing := hlast ((fresh.run endedMeanwhile).effects.take 12)
      ((fresh.run endedMeanwhile).effects.drop 13) rfl
    exact absurd hnothing (by decide)

end Scene

end ConferenceBridge
