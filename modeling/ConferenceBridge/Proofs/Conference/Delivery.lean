import ConferenceBridge.Proofs.Conference.Disconnection
import ConferenceBridge.Proofs.Conference.Inertia
import ConferenceBridge.Proofs.Conference.Outward

namespace ConferenceBridge

/-! Events that reach a conference through a queue. A task processes them, and gives up as soon as
the conference is torn down; told directly, the conference would have ignored the rest. -/

namespace Scene

variable {scene next : Scene}

/-- Both are the same, and the same was seen of them, apart from the log. -/
structure Coincides (scene next : Scene) : Prop where
  same : { next with history := scene.history } = scene
  outward : next.outward = scene.outward

namespace Coincides

theorem refl (scene : Scene) : scene.Coincides scene :=
  ⟨rfl, rfl⟩

theorem note (scene : Scene) (notice : ConferenceNotice) :
    scene.Coincides (scene.note notice) :=
  ⟨rfl, outward_note notice scene⟩

theorem symm (h : scene.Coincides next) : next.Coincides scene where
  same := by rw [← h.same]
  outward := h.outward.symm

theorem trans {middle : Scene} (hfirst : scene.Coincides middle)
    (hsecond : middle.Coincides next) : scene.Coincides next where
  same := by rw [← hfirst.same, ← hsecond.same]
  outward := hsecond.outward.trans hfirst.outward

end Coincides

def processAll (events : List HostEvent) (scene : Scene) : Scene :=
  events.foldl (fun scene event => scene.process event) scene

theorem processAll_append (first second : List HostEvent) (scene : Scene) :
    scene.processAll (first ++ second) = (scene.processAll first).processAll second :=
  List.foldl_append

theorem coincides_processAll_of_tornDown (htorn : scene.conference.tornDown = true)
    (events : List HostEvent) :
    scene.Coincides (scene.processAll events) ∧
      (scene.processAll events).conference.tornDown = true := by
  induction events generalizing scene with
  | nil => exact ⟨.refl scene, htorn⟩
  | cons event events ih =>
      have hignored := process_of_tornDown htorn event
      obtain ⟨hsame, hstill⟩ := @ih (scene.note (.eventIgnored event)) htorn
      rw [processAll, List.foldl_cons, hignored]
      exact ⟨(Coincides.note scene _).trans hsame, hstill⟩

theorem stillOpen_of_processAll {first second : List HostEvent}
    (h : (scene.processAll (first ++ second)).conference.tornDown = false) :
    (scene.processAll first).conference.tornDown = false := by
  rw [processAll_append] at h
  cases htorn : (scene.processAll first).conference.tornDown with
  | false => rfl
  | true =>
      rw [(coincides_processAll_of_tornDown htorn second).2] at h
      cases h

theorem stillOpen_of_concat {taken before after : List HostEvent} {event other : HostEvent}
    (hopen : taken ≠ [] → (scene.processAll taken).conference.tornDown = false)
    (hplace : taken ++ [event] = before ++ other :: after) (hsome : before ≠ []) :
    (scene.processAll before).conference.tornDown = false := by
  have hlength := congrArg List.length hplace
  simp only [List.length_append, List.length_cons, List.length_nil] at hlength
  obtain ⟨middle, rfl⟩ : before <+: taken :=
    List.prefix_of_prefix_length_le ⟨_, hplace.symm⟩ (List.prefix_append _ _) (by omega)
  exact stillOpen_of_processAll (hopen (List.append_ne_nil_of_left_ne_nil hsome _))

theorem coincides_processQueue (events : List HostEvent) (scene : Scene) :
    (scene.processQueue events).Coincides (scene.processAll events) := by
  induction events generalizing scene with
  | nil => exact (Coincides.note scene _).symm
  | cons event events ih =>
      unfold processQueue
      dsimp only
      split
      · rename_i htorn
        exact (Coincides.note _ _).symm.trans (coincides_processAll_of_tornDown htorn events).1
      · exact ih (scene.process event)

theorem processQueue_append {first : List HostEvent}
    (h : first ≠ [] → (scene.processAll first).conference.tornDown = false)
    (second : List HostEvent) :
    scene.processQueue (first ++ second) = (scene.processAll first).processQueue second := by
  induction first generalizing scene with
  | nil => rfl
  | cons event first ih =>
      have hopen := h (List.cons_ne_nil _ _)
      have hfirst : (scene.process event).conference.tornDown = false :=
        @stillOpen_of_processAll scene [event] first hopen
      rw [List.cons_append, processQueue, hfirst]
      exact ih fun _ => hopen

end Scene

/-- A queue between one who sends events and the task that processes them. -/
structure Pump where
  scene : Scene
  capacity : Nat
  unsent : List HostEvent
  waiting : List HostEvent := []
  taken : List HostEvent := []
  closed : Bool := false
  ended : Bool := false

namespace Pump

variable {pump next : Pump} {scene : Scene} {events : List HostEvent}

def opened (scene : Scene) (events : List HostEvent) : Pump where
  scene := scene
  capacity := scene.conference.config.hostCapacity.toNat
  unsent := events

def receive (event : HostEvent) (rest : List HostEvent) (pump : Pump) : Pump :=
  let scene := pump.scene.process event
  { pump with
    scene := if scene.conference.tornDown then scene.note .queueEnded else scene
    waiting := rest
    taken := pump.taken ++ [event]
    ended := scene.conference.tornDown }

/-- What may happen next. The sender waits while the queue is full, and goes when everything is
sent; what it sends after the end of the task is lost. -/
inductive Step (pump : Pump) : Pump → Prop
  | send {event : HostEvent} {rest : List HostEvent} (hunsent : pump.unsent = event :: rest)
      (hruns : pump.ended = false) (hroom : pump.waiting.length < pump.capacity) :
      Step pump { pump with unsent := rest, waiting := pump.waiting ++ [event] }
  | lose {event : HostEvent} {rest : List HostEvent} (hunsent : pump.unsent = event :: rest)
      (hended : pump.ended = true) : Step pump { pump with unsent := rest }
  | close (hsent : pump.unsent = []) (hopen : pump.closed = false) :
      Step pump { pump with closed := true }
  | receive {event : HostEvent} {rest : List HostEvent} (hwaiting : pump.waiting = event :: rest)
      (hruns : pump.ended = false) : Step pump (pump.receive event rest)
  | finish (hempty : pump.waiting = []) (hclosed : pump.closed = true)
      (hruns : pump.ended = false) :
      Step pump { pump with scene := pump.scene.note .queueEnded, ended := true }

def Reaches : Pump → Pump → Prop :=
  Relation.ReflTransGen Step

def remaining (pump : Pump) : Nat :=
  2 * pump.unsent.length + pump.waiting.length + (!pump.closed).toNat + (!pump.ended).toNat

theorem Step.remaining_lt (h : pump.Step next) : next.remaining < pump.remaining := by
  cases h with
  | send hunsent hruns hroom =>
      simp only [remaining, hunsent, List.length_cons, List.length_append, List.length_nil]
      omega
  | lose hunsent hended =>
      simp only [remaining, hunsent, List.length_cons]
      omega
  | close hsent hopen =>
      simp [remaining, hopen]
  | @receive event rest hwaiting hruns =>
      have hlast := (!(pump.receive event rest).ended).toNat_le
      simp only [remaining, Pump.receive, hwaiting, hruns, List.length_cons, Bool.not_false,
        Bool.toNat_true] at hlast ⊢
      omega
  | finish hempty hclosed hruns =>
      simp [remaining, hruns]

theorem wellFounded_step : WellFounded fun next pump : Pump => pump.Step next :=
  Subrelation.wf Step.remaining_lt (measure remaining).wf

structure Keeps (scene : Scene) (events : List HostEvent) (pump : Pump) : Prop where
  capacity : pump.capacity = scene.conference.config.hostCapacity.toNat
  closed : pump.closed = true → pump.unsent = []
  /-- While the task runs nothing is lost, and nothing overtakes anything. -/
  order : pump.ended = false → pump.taken ++ pump.waiting ++ pump.unsent = events
  running : pump.ended = false → pump.scene = scene.processAll pump.taken
  stillOpen : pump.ended = false → pump.taken ≠ [] →
    (scene.processAll pump.taken).conference.tornDown = false
  ending : pump.ended = true → pump.scene = scene.processQueue events ∧
    (pump.closed = true ∨ events ≠ [] ∧ (scene.processAll events).conference.tornDown = true)
  untouched : ∀ before event after, pump.taken = before ++ event :: after → before ≠ [] →
    (scene.processAll before).conference.tornDown = false

theorem keeps_opened (scene : Scene) (events : List HostEvent) :
    Keeps scene events (opened scene events) where
  capacity := rfl
  closed h := by cases h
  order _ := rfl
  running _ := rfl
  stillOpen _ h := absurd rfl h
  ending h := by cases h
  untouched before event after h := by
    have hnone : before ++ event :: after = [] := h.symm
    simp at hnone

open Scene in
theorem Keeps.receive (h : Keeps scene events pump) {event : HostEvent} {rest : List HostEvent}
    (hwaiting : pump.waiting = event :: rest) (hruns : pump.ended = false) :
    Keeps scene events (pump.receive event rest) := by
  have hbefore := h.stillOpen hruns
  have horder : (pump.taken ++ [event]) ++ (rest ++ pump.unsent) = events := by
    rw [← h.order hruns, hwaiting]
    simp
  have hscene : pump.scene.process event = scene.processAll (pump.taken ++ [event]) := by
    rw [processAll_append, h.running hruns]
    rfl
  have huntouched : ∀ before other after, pump.taken ++ [event] = before ++ other :: after →
      before ≠ [] → (scene.processAll before).conference.tornDown = false :=
    fun _ _ _ => stillOpen_of_concat hbefore
  cases htorn : (pump.scene.process event).conference.tornDown with
  | false =>
      have hrest : (pump.receive event rest).scene = pump.scene.process event := by
        simp [Pump.receive, htorn]
      refine ⟨h.capacity, h.closed, fun _ => ?_, fun _ => hrest.trans hscene,
        fun _ _ => hscene ▸ htorn, fun hended => ?_, huntouched⟩
      · rw [← horder, List.append_assoc]
        rfl
      · cases htorn.symm.trans hended
  | true =>
      have hended : (pump.receive event rest).ended = true := htorn
      have hgivesUp : (pump.receive event rest).scene = scene.processQueue events := by
        have hqueue := processQueue_append hbefore (event :: (rest ++ pump.unsent))
        rw [← horder, List.append_assoc]
        refine Eq.trans ?_ hqueue.symm
        rw [← h.running hruns]
        simp [Pump.receive, processQueue, htorn]
      have hruns (hruns : (pump.receive event rest).ended = false) : False := by
        cases hended.symm.trans hruns
      refine ⟨h.capacity, h.closed, fun h => (hruns h).elim, fun h => (hruns h).elim,
        fun h => (hruns h).elim, fun _ => ⟨hgivesUp, .inr ⟨?_, ?_⟩⟩, huntouched⟩
      · rw [← horder]
        simp
      · rw [hscene] at htorn
        rw [← horder, processAll_append]
        exact (coincides_processAll_of_tornDown htorn _).2

open Scene in
theorem Keeps.step (h : Keeps scene events pump) (hstep : pump.Step next) :
    Keeps scene events next := by
  cases hstep with
  | @send event rest hunsent hruns hroom =>
      have horder := h.order hruns
      refine ⟨h.capacity, fun hclosed => ?_, fun _ => ?_, h.running, h.stillOpen, h.ending,
        h.untouched⟩
      · rw [h.closed hclosed] at hunsent
        cases hunsent
      · rw [hunsent] at horder
        simpa using horder
  | @lose event rest hunsent hended =>
      have hstopped (hruns : pump.ended = false) : False := by
        rw [hended] at hruns
        cases hruns
      refine ⟨h.capacity, fun hclosed => ?_, fun hruns => (hstopped hruns).elim, h.running,
        h.stillOpen, h.ending, h.untouched⟩
      rw [h.closed hclosed] at hunsent
      cases hunsent
  | close hsent hopen =>
      exact ⟨h.capacity, fun _ => hsent, h.order, h.running, h.stillOpen,
        fun hended => ⟨(h.ending hended).1, .inl rfl⟩, h.untouched⟩
  | @receive event rest hwaiting hruns =>
      exact h.receive hwaiting hruns
  | finish hempty hclosed hruns =>
      have hall : pump.taken = events := by
        have horder := h.order hruns
        rwa [hempty, h.closed hclosed, List.append_nil, List.append_nil] at horder
      have hlast := processQueue_append (h.stillOpen hruns) []
      refine ⟨h.capacity, h.closed, nofun, nofun, nofun, fun _ => ⟨?_, .inl hclosed⟩,
        h.untouched⟩
      rw [List.append_nil, hall] at hlast
      rw [hlast, h.running hruns, hall]
      rfl

theorem Reaches.keeps (h : (opened scene events).Reaches pump) : Keeps scene events pump := by
  induction h with
  | refl => exact keeps_opened scene events
  | tail _ hstep ih => exact ih.step hstep

/-- A task that has not ended can go on, or waits for the sender; and the sender can go on. -/
theorem Keeps.step_of_runs (h : Keeps scene events pump)
    (hcapacity : 0 < scene.conference.config.hostCapacity.toNat) (hruns : pump.ended = false) :
    (∃ next, pump.Step next ∧ next.closed = pump.closed) ∨
      pump.unsent = [] ∧ pump.waiting = [] ∧ pump.closed = false := by
  cases hwaiting : pump.waiting with
  | cons event rest => exact .inl ⟨_, .receive hwaiting hruns, rfl⟩
  | nil =>
      cases hunsent : pump.unsent with
      | cons event rest =>
          have hroom : pump.waiting.length < pump.capacity := by
            rw [hwaiting, h.capacity]
            exact hcapacity
          exact .inl ⟨_, .send hunsent hruns hroom, rfl⟩
      | nil =>
          cases hclosed : pump.closed with
          | true => exact .inl ⟨_, .finish hwaiting hclosed hruns, hclosed⟩
          | false => exact .inr ⟨rfl, rfl, rfl⟩

theorem Keeps.ended_of_stuck (h : Keeps scene events pump)
    (hcapacity : 0 < scene.conference.config.hostCapacity.toNat)
    (hstuck : ∀ next, ¬ pump.Step next) : pump.ended = true := by
  cases hended : pump.ended with
  | true => rfl
  | false =>
      rcases h.step_of_runs hcapacity hended with ⟨next, hstep, -⟩ | ⟨hsent, -, hopen⟩
      · exact absurd hstep (hstuck next)
      · exact absurd (.close hsent hopen) (hstuck _)

open Scene in
theorem Keeps.ended_iff_of_open (h : Keeps scene events pump)
    (hcapacity : 0 < scene.conference.config.hostCapacity.toNat) (hopen : pump.closed = false)
    (hstuck : ∀ next, pump.Step next → next.closed = true) :
    pump.scene.Coincides (scene.processAll events) ∧
      (pump.ended = true ↔
        events ≠ [] ∧ (scene.processAll events).conference.tornDown = true) := by
  cases hended : pump.ended with
  | true =>
      obtain ⟨hscene, hclosed | htorn⟩ := h.ending hended
      · cases hopen.symm.trans hclosed
      · rw [hscene]
        exact ⟨coincides_processQueue events scene, fun _ => htorn, fun _ => rfl⟩
  | false =>
      rcases h.step_of_runs hcapacity hended with ⟨next, hstep, hkept⟩ | ⟨hsent, hempty, -⟩
      · cases (hkept.symm.trans (hstuck next hstep)).symm.trans hopen
      · have hall : pump.taken = events := by
          have horder := h.order hended
          rwa [hempty, hsent, List.append_nil, List.append_nil] at horder
        have hscene := h.running hended
        have hstill := h.stillOpen hended
        rw [hall] at hscene hstill
        rw [hscene]
        refine ⟨.refl _, nofun, fun ⟨hsome, htorn⟩ => ?_⟩
        cases htorn.symm.trans (hstill hsome)

end Pump

namespace Scene

variable {id : ConferenceId} {config : ConferenceConfig} {handle : Handle} {start : Scene}

theorem hostCapacity_pos (hopen : openOver? id config handle = .ok start)
    (requests : List Request) :
    0 < (start.run requests).conference.config.hostCapacity.toNat := by
  obtain ⟨rfl, hvalid⟩ := eq_openOver_of_openOver? hopen
  have hconfig : ((openOver id config handle).run requests).conference.config = config :=
    (continues_run hopen [] requests).config
  obtain ⟨-, hcapacity, -⟩ := ConferenceConfig.validate_eq_ok_iff.mp hvalid
  rw [hconfig, Nat.pos_iff_ne_zero]
  intro hzero
  exact hcapacity (UInt64.toNat_inj.mp hzero)

/-- Whoever sends events through a queue and goes then, and waits for the task, finds the conference
as if it had been told each event directly; only the log tells the difference. The wait always ends.
Behind an event that left the conference torn down the task takes no other. So it ends by itself if
the conference does, even while the sender stays, and otherwise waits for more. -/
theorem queue_delivers (hopen : openOver? id config handle = .ok start) (requests : List Request)
    (events : List HostEvent) :
    let scene := start.run requests
    let direct := scene.processAll events
    (WellFounded fun next pump : Pump => pump.Step next) ∧
      ∀ pump : Pump, (Pump.opened scene events).Reaches pump →
        ((∀ next, ¬ pump.Step next) → pump.ended = true) ∧
          (pump.ended = true →
            pump.scene = scene.processQueue events ∧ pump.scene.Coincides direct) ∧
          (∀ before event after, pump.taken = before ++ event :: after → before ≠ [] →
            (scene.processAll before).conference.tornDown = false) ∧
          (pump.closed = false → (∀ next, pump.Step next → next.closed = true) →
            pump.scene.Coincides direct ∧
              (pump.ended = true ↔ events ≠ [] ∧ direct.conference.tornDown = true)) := by
  intro scene direct
  refine ⟨Pump.wellFounded_step, fun pump hreaches => ?_⟩
  have hcapacity := hostCapacity_pos hopen requests
  have hkeeps := Pump.Reaches.keeps hreaches
  refine ⟨hkeeps.ended_of_stuck hcapacity, fun hended => ?_, hkeeps.untouched,
    hkeeps.ended_iff_of_open hcapacity⟩
  obtain ⟨hscene, -⟩ := hkeeps.ending hended
  rw [hscene]
  exact ⟨rfl, coincides_processQueue events scene⟩

def endsAtFirst : List Request :=
  [.registerChanged [[.event .destroyed]]]

def news : List HostEvent :=
  [.participantsChanged [⟨⟨"handedOver", by decide⟩, .active, none, none⟩], .ofState .active]

theorem queue_delivers_news :
    let scene := fresh.run endsAtFirst
    ∃ pump : Pump, (Pump.opened scene news).Reaches pump ∧ pump.closed = false ∧
      pump.ended = true ∧ pump.waiting = [.ofState .active] ∧
        pump.scene.Coincides (scene.processAll news) := by
  intro scene
  have hreaches := (((Relation.ReflTransGen.refl : (Pump.opened scene news).Reaches _).tail
    (.send rfl rfl (by decide))).tail (.send rfl rfl (by decide))).tail (.receive rfl rfl)
  have hended : (scene.process (.participantsChanged
      [⟨⟨"handedOver", by decide⟩, .active, none, none⟩])).conference.tornDown = true := by decide
  obtain ⟨-, hdelivers⟩ := queue_delivers openOver?_fresh endsAtFirst news
  exact ⟨_, hreaches, rfl, hended, rfl, ((hdelivers _ hreaches).2.1 hended).2⟩

end Scene

end ConferenceBridge
