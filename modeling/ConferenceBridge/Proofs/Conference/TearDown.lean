import ConferenceBridge.Proofs.Conference.Frame
import ConferenceBridge.Proofs.Conference.Membership

namespace ConferenceBridge

/-! The end of a conference: whenever it strikes, nobody takes part afterwards, the host is given
back, and nobody comes any more. -/

namespace Conference

theorem can_refreshManage (conference : Conference) :
    conference.refreshManage.capabilities.can .manageConference = !conference.roster.isEmpty := by
  unfold refreshManage
  split
  · assumption
  · exact Capabilities.can_set (by decide) _

@[simp] theorem roster_dismissAll (conference : Conference) :
    conference.dismissAll.roster = .empty := by
  rw [dismissAll, roster_refreshManage, dismantle_eq]

theorem can_dismissAll (conference : Conference) :
    conference.dismissAll.capabilities.can .manageConference = false := by
  rw [dismissAll, can_refreshManage, dismantle_eq]
  rfl

/-- What is left of a conference that was taken down. -/
structure IsEnded (conference : Conference) : Prop where
  roster : conference.roster.entries = []
  manage : conference.capabilities.can .manageConference = false
  released : conference.host.released = true

structure Closes (conference : Conference) : Prop where
  whileOpen : conference.tornDown = false → conference.host.released = false
  ended : conference.tornDown = true → conference.IsEnded

theorem forget_of_nobody {conference : Conference} (h : conference.roster.entries = [])
    (number : Nat) : conference.forget number = conference := by
  unfold forget
  split
  · rfl
  · simp [Roster.eraseIf?, Roster.get?, h]

theorem IsEnded.call {conference : Conference} (h : conference.IsEnded) (number : Nat)
    (call : ParticipantCall) : (conference.call number call).IsEnded := by
  have hcalled : (conference.modify number fun participant =>
      (participant.perform (.call call)).participant).IsEnded :=
    ⟨h.roster, h.manage, h.released⟩
  unfold Conference.call
  dsimp only
  split
  · rw [forget_of_nobody hcalled.roster]
    exact hcalled
  · exact hcalled

theorem Closes.congr {conference next : Conference} (h : conference.Closes)
    (htornDown : next.tornDown = conference.tornDown) (hroster : next.roster = conference.roster)
    (hcapabilities : next.capabilities = conference.capabilities)
    (hreleased : next.host.released = conference.host.released) : next.Closes := by
  constructor
  · rw [htornDown, hreleased]
    exact h.whileOpen
  · intro htorn
    have hended := h.ended (htornDown ▸ htorn)
    exact ⟨hroster ▸ hended.roster, hcapabilities ▸ hended.manage, hreleased.trans hended.released⟩

theorem Closes.of_open {conference next : Conference} (h : conference.Closes)
    (hopen : conference.tornDown = false) (htornDown : next.tornDown = conference.tornDown)
    (hhost : next.host.released = conference.host.released) : next.Closes := by
  constructor
  · intro _
    rw [hhost, h.whileOpen hopen]
  · intro htorn
    rw [htornDown, hopen] at htorn
    cases htorn

theorem isEnded_tearDown {conference : Conference} (h : conference.tornDown = false) :
    conference.tearDown.IsEnded := by
  unfold tearDown
  rw [if_neg (by simp [h])]
  constructor
  · simp [Roster.empty]
  · exact can_dismissAll _
  · simp only [HostLine.release]
    split
    · assumption
    · rfl

theorem Transition.closes (htransition : Transition conference next) (h : conference.Closes) :
    next.Closes := by
  cases htransition with
  | enroll entry hopen habsent => exact h.of_open hopen rfl rfl
  | call number call =>
      have hframe := frame_call number call conference
      cases hflag : conference.tornDown with
      | false => exact h.of_open hflag hframe.tornDown hframe.released
      | true =>
          refine ⟨fun hopen => ?_, fun _ => (h.ended hflag).call number call⟩
          rw [hframe.tornDown, hflag] at hopen
          cases hopen
  | keep listed hopen =>
      have hframe := frame_keep listed conference
      exact h.of_open hopen hframe.tornDown hframe.released
  | dismiss htorn =>
      have hframe := frame_dismissAll conference
      refine ⟨fun hopen => ?_, fun _ => ?_⟩
      · rw [hframe.tornDown, htorn] at hopen
        cases hopen
      · refine ⟨by simp [Roster.empty], can_dismissAll conference, ?_⟩
        rw [hframe.released, (h.ended htorn).released]
  | refreshManage =>
      have hframe := frame_refreshManage conference
      refine ⟨?_, ?_⟩
      · rw [hframe.tornDown, hframe.released]
        exact h.whileOpen
      · intro htorn
        rw [hframe.tornDown] at htorn
        have hended := h.ended htorn
        refine ⟨by rw [roster_refreshManage, hended.roster], ?_, by
          rw [hframe.released, hended.released]⟩
        simp [can_refreshManage, Roster.isEmpty, hended.roster]
  | remember state => exact h.congr rfl rfl rfl rfl
  | setState state hstate => exact h.congr rfl rfl rfl rfl
  | disconnect cause hfirst => exact h.congr rfl rfl rfl rfl
  | tearDown =>
      cases hflag : conference.tornDown with
      | false =>
          refine ⟨fun hopen => ?_, fun _ => isEnded_tearDown hflag⟩
          rw [tornDown_tearDown] at hopen
          cases hopen
      | true =>
          have hsame : conference.tearDown = conference := by
            simp [Conference.tearDown, hflag]
          rw [hsame]
          exact h

theorem Evolves.closes (hevolves : Evolves conference next) (h : conference.Closes) :
    next.Closes :=
  hevolves.preserves Transition.closes h

end Conference

namespace Effect

def isOrdinary : Effect → Bool
  | .published _ | .changed .destroyed => false
  | _ => true

theorem isOrdinary_of_isRoutine {effect : Effect} (h : effect.isRoutine = true) :
    effect.isOrdinary = true := by
  revert h
  unfold isRoutine isOrdinary
  repeat' split
  all_goals simp_all

end Effect

namespace Scene

/-- On the way from one scene to the other nobody comes, and the conference does not end. -/
structure Ordinary (scene next : Scene) : Prop where
  tells : Tells Effect.isOrdinary scene next
  tornDown : next.conference.tornDown = scene.conference.tornDown
  count : next.conference.participants.length = scene.conference.participants.length

namespace Ordinary

theorem refl (scene : Scene) : scene.Ordinary scene :=
  ⟨.of_effects_eq rfl, rfl, rfl⟩

theorem trans {scene middle next : Scene} (hfirst : scene.Ordinary middle)
    (hsecond : middle.Ordinary next) : scene.Ordinary next :=
  ⟨hfirst.tells.trans hsecond.tells, hsecond.tornDown.trans hfirst.tornDown,
    hsecond.count.trans hfirst.count⟩

theorem of_quiet {scene next : Scene} (h : scene.Quiet next) : scene.Ordinary next :=
  ⟨h.tells.weaken Effect.isOrdinary_of_isRoutine, h.frame.tornDown, h.frame.count⟩

theorem of_record {effect : Effect} (h : effect.isOrdinary = true) (scene : Scene) :
    scene.Ordinary (scene.record effect) :=
  ⟨.of_record h scene, rfl, rfl⟩

theorem setState (next : ConnectionState) (scene : Scene) :
    scene.Ordinary (scene.setState next) := by
  refine ⟨(routine_setState next scene).tells.weaken Effect.isOrdinary_of_isRoutine, ?_, ?_⟩
  · rw [conference_setState]
  · rw [conference_setState]

theorem setDisconnected (cause : DisconnectCause) (scene : Scene) :
    scene.Ordinary (scene.setDisconnected cause) := by
  cases hcause : scene.conference.cause with
  | none =>
      have htells := (tells_setDisconnected hcause cause).weaken Effect.isOrdinary_of_isRoutine
      refine ⟨(Tells.of_record rfl scene).trans htells, ?_, ?_⟩
      · rw [conference_setDisconnected hcause]
      · rw [conference_setDisconnected hcause]
  | some first =>
      rw [setDisconnected_of_cause (by simp [hcause])]
      exact .refl scene

end Ordinary

/-- What a step can come to: nothing of consequence here, a creation, or the end, which is seen
last. -/
inductive Fate (scene next : Scene) : Prop
  | ordinary (h : scene.Ordinary next)
  | creation (publication : Publication)
      (heffects : next.effects = scene.effects ++ [.published publication])
      (hopen : scene.conference.tornDown = false) (hstill : next.conference.tornDown = false)
  | ending (middle : Scene) (htells : Tells Effect.isOrdinary scene middle)
      (heffects : next.effects = middle.effects ++ [.changed .destroyed])
      (hopen : scene.conference.tornDown = false) (htorn : next.conference.tornDown = true)
      (hcount : next.conference.participants.length = scene.conference.participants.length)

theorem Fate.ordinary_of_tornDown {scene next : Scene} (h : scene.Fate next)
    (htornDown : scene.conference.tornDown = true) : scene.Ordinary next := by
  cases h with
  | ordinary h => exact h
  | creation publication heffects hopen hstill =>
      rw [hopen] at htornDown
      cases htornDown
  | ending middle htells heffects hopen htorn hcount =>
      rw [hopen] at htornDown
      cases htornDown

theorem Ordinary.fate_tearDown {scene middle : Scene} (h : scene.Ordinary middle) :
    scene.Fate middle.tearDown := by
  cases hflag : middle.conference.tornDown with
  | false =>
      obtain ⟨last, htells, heffects⟩ := effects_tearDown hflag
      refine .ending last (h.tells.trans (htells.weaken Effect.isOrdinary_of_isRoutine)) heffects
        (h.tornDown ▸ hflag) ?_ ?_
      · rw [conference_tearDown, Conference.tornDown_tearDown]
      · rw [conference_tearDown, Conference.count_tearDown, h.count]
  | true =>
      rw [tearDown_of_tornDown hflag]
      exact .ordinary h

theorem fate_applyHostState (state : ConnectionState) (scene : Scene) :
    scene.Fate (scene.applyHostState state) := by
  have hnote : scene.Ordinary (scene.note (.hostState state)) := .of_record rfl scene
  cases state with
  | active | held => exact .ordinary (hnote.trans (.setState _ _))
  | disconnected => exact (hnote.trans (.setDisconnected _ _)).fate_tearDown
  | _ => exact .ordinary hnote

theorem Step.fate (hstep : Step scene next) (hheld : scene.dropped = false) :
    scene.Fate next := by
  cases hstep.course hheld with
  | quiet h => exact .ordinary (.of_quiet h)
  | enroll entry hopen =>
      exact .creation (scene.publication entry) (effects_enroll entry _ scene) hopen hopen
  | follow state => exact fate_applyHostState state scene
  | disconnect cause => exact .ordinary (.setDisconnected cause scene)
  | tearDown => exact (Ordinary.refl scene).fate_tearDown

/-- The conference ends between the two scenes, once, and nobody comes in between. -/
structure EndsBetween (moment scene : Scene) : Prop where
  stillOpen : moment.conference.tornDown = false
  ended : scene.conference.tornDown = true
  notYet : .destroyed ∉ moment.changes
  told : ∃ later, scene.effects = moment.effects ++ later ∧
    (later.filterMap Effect.change?).count .destroyed = 1 ∧
    ∀ publication, .published publication ∉ later
  count : scene.conference.participants.length = moment.conference.participants.length

theorem count_destroyed_eq_zero {told : List Effect}
    (h : ∀ effect ∈ told, effect.isOrdinary = true) :
    (told.filterMap Effect.change?).count .destroyed = 0 := by
  rw [List.count_eq_zero, List.mem_filterMap]
  rintro ⟨effect, heffect, hchange⟩
  have hordinary := h effect heffect
  cases effect with
  | changed change =>
      cases hchange
      cases hordinary
  | _ => cases hchange

theorem not_published_of_isOrdinary {told : List Effect}
    (h : ∀ effect ∈ told, effect.isOrdinary = true) (publication : Publication) :
    .published publication ∉ told := by
  intro hmem
  cases h _ hmem

theorem Ordinary.destroyed_mem_changes {scene next : Scene} (h : scene.Ordinary next) :
    .destroyed ∈ next.changes ↔ .destroyed ∈ scene.changes := by
  obtain ⟨told, heffects, htold⟩ := h.tells
  have hnone := List.count_eq_zero.mp (count_destroyed_eq_zero htold)
  rw [changes, heffects, List.filterMap_append, List.mem_append]
  exact ⟨fun hmem => hmem.resolve_right hnone, .inl⟩

theorem EndsBetween.ordinary {moment scene next : Scene} (h : moment.EndsBetween scene)
    (hordinary : scene.Ordinary next) : moment.EndsBetween next := by
  obtain ⟨later, heffects, hcount, hnobody⟩ := h.told
  obtain ⟨told, hnext, htold⟩ := hordinary.tells
  refine ⟨h.stillOpen, hordinary.tornDown.trans h.ended, h.notYet, ⟨later ++ told, ?_, ?_, ?_⟩,
    hordinary.count.trans h.count⟩
  · rw [hnext, heffects, List.append_assoc]
  · rw [List.filterMap_append, List.count_append, hcount, count_destroyed_eq_zero htold]
  · intro publication hmem
    rcases List.mem_append.mp hmem with hleft | hright
    · exact hnobody publication hleft
    · exact not_published_of_isOrdinary htold publication hright

/-- A conference that was open at first is still open, or some step ended it, and from before that
step nobody came any more. -/
theorem Reaches.ends (hreach : Reaches start scene) (hheld : start.dropped = false)
    (hopen : start.conference.tornDown = false) (hnever : .destroyed ∉ start.changes) :
    (scene.conference.tornDown = false ∧ .destroyed ∉ scene.changes) ∨
      ∃ moment flagged, Reaches start moment ∧ Step moment flagged ∧
        flagged.conference.tornDown = true ∧ Reaches flagged scene ∧
        moment.EndsBetween scene := by
  induction hreach with
  | refl => exact .inl ⟨hopen, hnever⟩
  | @tail scene next hreach hstep ih =>
      have hfate := hstep.fate ((Reaches.dropped_eq hreach).trans hheld)
      rcases ih with ⟨hstill, hnotYet⟩ | ⟨moment, flagged, hmoment, hend, hflag, hsince, hends⟩
      · cases hfate with
        | ordinary h =>
            exact .inl ⟨h.tornDown.trans hstill, fun hmem =>
              hnotYet (h.destroyed_mem_changes.mp hmem)⟩
        | creation publication heffects hbefore hafter =>
            refine .inl ⟨hafter, ?_⟩
            simpa [changes, heffects, Effect.change?] using hnotYet
        | ending middle htells heffects hbefore hafter hcount =>
            obtain ⟨told, hmiddle, htold⟩ := htells
            refine .inr ⟨scene, next, hreach, hstep, hafter, .refl, hbefore, hafter, hnotYet,
              ⟨told ++ [.changed .destroyed], ?_, ?_, ?_⟩, hcount⟩
            · rw [heffects, hmiddle, List.append_assoc]
            · rw [List.filterMap_append, List.count_append, count_destroyed_eq_zero htold]
              rfl
            · intro publication hmem
              rcases List.mem_append.mp hmem with hleft | hright
              · exact not_published_of_isOrdinary htold publication hleft
              · cases List.mem_singleton.mp hright
      · exact .inr ⟨moment, flagged, hmoment, hend, hflag, hsince.tail hstep,
          hends.ordinary (hfate.ordinary_of_tornDown hends.ended)⟩

theorem Reaches.ordinary_of_tornDown (hreach : Reaches scene next) (hheld : scene.dropped = false)
    (htornDown : scene.conference.tornDown = true) : scene.Ordinary next := by
  induction hreach with
  | refl => exact .refl scene
  | tail hbefore hlast ih =>
      have hfate := hlast.fate ((Reaches.dropped_eq hbefore).trans hheld)
      exact ih.trans (hfate.ordinary_of_tornDown (ih.tornDown.trans htornDown))

theorem Ordinary.publications_eq {scene next : Scene} (h : scene.Ordinary next) :
    next.effects.filterMap Effect.publication? = scene.effects.filterMap Effect.publication? := by
  obtain ⟨told, heffects, htold⟩ := h.tells
  have hnobody : told.filterMap Effect.publication? = [] := by
    rw [List.filterMap_eq_nil_iff]
    intro effect heffect
    cases effect with
    | published publication => cases htold _ heffect
    | _ => rfl
  rw [heffects, List.filterMap_append, hnobody, List.append_nil]

variable {id : ConferenceId} {config : ConferenceConfig} {handle : Handle} {start : Scene}

/-- However and whenever a conference is taken down, it is taken down completely, and told of once;
from the step that ends it on nobody is created or handed over any more. -/
theorem tearDown_complete (hopen : openOver? id config handle = .ok start)
    (requests : List Request) :
    let scene := start.run requests
    let conference := scene.conference
    (conference.tornDown = true →
      conference.roster.isEmpty = true ∧
      conference.capabilities.can .manageConference = false ∧
      (∀ participant ∈ conference.participants,
        participant.destroyed = true ∧ participant.conference? conference.id = none) ∧
      conference.host.released = true ∧
      scene.changes.count .destroyed = 1 ∧
      (∃ moment flagged, Reaches start moment ∧ Step moment flagged ∧
        flagged.conference.tornDown = true ∧ Reaches flagged scene ∧
        moment.EndsBetween scene) ∧
      ∀ more : List Request,
        let later := start.run (requests ++ more)
        later.conference.participants.length = conference.participants.length ∧
          later.effects.filterMap Effect.publication? =
            scene.effects.filterMap Effect.publication?) ∧
    (conference.tornDown = false →
      conference.host.released = false ∧ scene.changes.count .destroyed = 0) := by
  intro scene conference
  have hreach : Reaches start scene := reaches_run requests start
  have hheld : scene.dropped = false := dropped_run hopen requests
  have hcoherent : conference.Coherent := coherent_run hopen requests
  have hcloses : conference.Closes :=
    (evolves_run hopen requests).closes ⟨fun _ => rfl, fun h => by cases h⟩
  have hends : (conference.tornDown = false ∧ .destroyed ∉ scene.changes) ∨
      ∃ moment flagged, Reaches start moment ∧ Step moment flagged ∧
        flagged.conference.tornDown = true ∧ Reaches flagged scene ∧
        moment.EndsBetween scene := by
    obtain ⟨rfl, -⟩ := eq_openOver_of_openOver? hopen
    exact hreach.ends rfl rfl (by simp [changes_openOver])
  constructor
  · intro htornDown
    have hended := hcloses.ended htornDown
    rcases hends with ⟨hstill, -⟩ | ⟨moment, flagged, hmoment, hend, hflag, hsince, hbetween⟩
    · rw [htornDown] at hstill
      cases hstill
    · refine ⟨by simp [Roster.isEmpty, hended.roster], hended.manage, ?_, hended.released, ?_,
        ⟨moment, flagged, hmoment, hend, hflag, hsince, hbetween⟩, ?_⟩
      · intro participant hmem
        obtain ⟨number, hnumber⟩ := List.mem_iff_getElem?.mp hmem
        have hgone := hcoherent.unlisted number participant hnumber (by simp [hended.roster])
        exact ⟨hgone.destroyed, by simp [Participant.conference?, hgone.attached]⟩
      · obtain ⟨later, heffects, hcount, -⟩ := hbetween.told
        rw [changes, heffects, List.filterMap_append, List.count_append, hcount, ← changes,
          List.count_eq_zero.mpr hbetween.notYet]
      · intro more later
        have hlater : scene.Ordinary later := by
          have hmore : Reaches scene (scene.run more) := reaches_run more scene
          rw [← run_append] at hmore
          exact hmore.ordinary_of_tornDown hheld htornDown
        exact ⟨hlater.count, hlater.publications_eq⟩
  · intro hstill
    refine ⟨hcloses.whileOpen hstill, ?_⟩
    rcases hends with ⟨-, hnever⟩ | ⟨moment, flagged, -, -, -, -, hbetween⟩
    · exact List.count_eq_zero.mpr hnever
    · have hended := hbetween.ended
      rw [hstill] at hended
      cases hended

def nestedEnd : List Request :=
  [.registerChanged
      [[.event (.participantsChanged [⟨⟨"within", by decide⟩, .active, none, none⟩])],
        [.event (.ofState .disconnected)]],
    .reconcile
      [⟨⟨"before", by decide⟩, .active, none, none⟩, ⟨⟨"behind", by decide⟩, .active, none, none⟩]]

theorem tearDown_complete_nestedEnd :
    (fresh.run nestedEnd).conference.tornDown = true ∧
      (fresh.run nestedEnd).conference.roster.isEmpty = true ∧
      (fresh.run nestedEnd).conference.participants.length = 2 ∧
      (fresh.run (nestedEnd ++ nestedEnd)).conference.participants.length = 2 ∧
      (fresh.run nestedEnd).changes.count .destroyed = 1 ∧
      fresh.conference.tornDown = false ∧ fresh.changes.count .destroyed = 0 := by
  obtain ⟨hroster, -, -, -, honce, -, hlater⟩ :=
    (tearDown_complete openOver?_fresh nestedEnd).1 rfl
  obtain ⟨-, hnever⟩ := (tearDown_complete openOver?_fresh []).2 rfl
  exact ⟨rfl, hroster, rfl, (hlater nestedEnd).1, honce, rfl, hnever⟩

end Scene

end ConferenceBridge
