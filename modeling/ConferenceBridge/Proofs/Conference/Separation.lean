import ConferenceBridge.Proofs.Conference.PeopleSide

namespace ConferenceBridge

/-! The host and the participants do not get in each other's way: of what is asked of a conference,
the host's side follows the reports of the host alone, and the participants' side what is done to the
participants alone. -/

def HostEvent.deeds : HostEvent → List Request
  | .participantsChanged entries => [.event (.participantsChanged entries)]
  | event => if event.isEnding then [.event .destroyed] else []

def Request.deeds : Request → List Request
  | .event reported => reported.deeds
  | .queue events => events.flatMap HostEvent.deeds
  | .hostState state => if state = .disconnected then [.event .destroyed] else []
  | .reconcile entries => [.reconcile entries]
  | .participant number call => [.participant number call]
  | _ => []

/-- All that these requests do to the participants, one after the other. -/
def deeds (requests : List Request) : List Request :=
  requests.flatMap Request.deeds

namespace Scene

def answer (scene : Scene) : Request → List Reconciliation
  | .reconcile entries => [(scene.reconcile entries).2]
  | _ => []

def answers : List Request → Scene → List Reconciliation
  | [], _ => []
  | request :: requests, scene => scene.answer request ++ answers requests (scene.serve request)

theorem answers_append (requests more : List Request) (scene : Scene) :
    answers (requests ++ more) scene = answers requests scene ++ answers more (scene.run requests) := by
  induction requests generalizing scene with
  | nil => rfl
  | cons request requests ih => simp [answers, ih]

end Scene

theorem HostEvent.deeds_of_not_listing {event : HostEvent} (h : event.isListing = false) :
    event.deeds = if event.isEnding then [.event .destroyed] else [] := by
  cases event with
  | participantsChanged entries => cases h
  | _ => rfl

theorem HostEvent.eq_event_of_mem_deeds {event : HostEvent} {request : Request}
    (h : request ∈ event.deeds) : ∃ heard, request = .event heard := by
  cases hlisting : event.isListing with
  | true =>
      cases event with
      | participantsChanged entries => exact ⟨_, List.mem_singleton.mp h⟩
      | _ => cases hlisting
  | false =>
      rw [deeds_of_not_listing hlisting] at h
      split at h
      · exact ⟨_, List.mem_singleton.mp h⟩
      · cases h

theorem HostEvent.isHeard_of_mem_deeds {event : HostEvent} :
    ∀ request ∈ event.deeds, request.isHeard = true := by
  intro request hrequest
  obtain ⟨heard, rfl⟩ := eq_event_of_mem_deeds hrequest
  rfl

theorem HostEvent.isHeard_of_mem_flatMap_deeds (events : List HostEvent) :
    ∀ request ∈ events.flatMap HostEvent.deeds, request.isHeard = true := by
  intro request hrequest
  obtain ⟨event, -, hdeed⟩ := List.mem_flatMap.mp hrequest
  exact isHeard_of_mem_deeds request hdeed

theorem HostEvent.quiet_of_mem_deeds {event : HostEvent} :
    ∀ request ∈ event.deeds, request.Quiet := by
  intro request hrequest
  obtain ⟨heard, rfl⟩ := eq_event_of_mem_deeds hrequest
  trivial

theorem Request.quiet_of_mem_deeds {request : Request} :
    ∀ deed ∈ request.deeds, deed.Quiet := by
  intro deed h
  cases request with
  | event event => exact HostEvent.quiet_of_mem_deeds deed h
  | queue events =>
      obtain ⟨event, -, hdeed⟩ := List.mem_flatMap.mp h
      exact HostEvent.quiet_of_mem_deeds deed hdeed
  | hostState state =>
      simp only [Request.deeds] at h
      split at h
      · obtain rfl := List.mem_singleton.mp h
        trivial
      · cases h
  | reconcile entries =>
      obtain rfl := List.mem_singleton.mp h
      trivial
  | participant number call =>
      obtain rfl := List.mem_singleton.mp h
      trivial
  | _ => cases h

namespace Scene

variable {first second scene next : Scene}

theorem answers_of_isHeard {requests : List Request}
    (h : ∀ request ∈ requests, request.isHeard = true) (scene : Scene) :
    answers requests scene = [] := by
  induction requests generalizing scene with
  | nil => rfl
  | cons request requests ih =>
      have hnone : scene.answer request = [] := by
        cases request with
        | reconcile entries => cases h _ List.mem_cons_self
        | _ => rfl
      rw [answers, hnone, ih (fun other hother => h other (.tail _ hother))]
      rfl

namespace SamePeople

theorem process (h : first.SamePeople second) (hcalm : first.Calm) (hotherCalm : second.Calm)
    (event : HostEvent) : (first.process event).SamePeople (second.run event.deeds) := by
  cases hlisting : event.isListing with
  | true =>
      cases event with
      | participantsChanged entries => exact h.process_listing hcalm hotherCalm entries
      | _ => cases hlisting
  | false =>
      cases hends : event.isEnding with
      | true =>
          have hended : (second.process .destroyed).SamePeople second.tearDown :=
            (refl second).process_ending rfl
          rw [HostEvent.deeds_of_not_listing hlisting, if_pos hends]
          exact (h.process_ending hends).trans hended.symm
      | false =>
          rw [HostEvent.deeds_of_not_listing hlisting, hends, if_neg Bool.false_ne_true]
          exact (samePeople_process hlisting hends first).trans h

theorem of_rests (h : first.SamePeople second) (hrests : second.Rests next)
    (hdropped : next.dropped = second.dropped) : first.SamePeople next :=
  h.trans (SamePeople.of_conference_eq hrests.conference hdropped hrests.changes_eq).symm

theorem processQueue (h : first.SamePeople second) (hstill : first.Still)
    (hotherStill : second.Still) (events : List HostEvent) :
    (first.processQueue events).SamePeople (second.run (events.flatMap HostEvent.deeds)) := by
  induction events generalizing first second with
  | nil => exact (noted .queueEnded first).trans h
  | cons event events ih =>
      have hprocessed := h.process hstill.toCalm hotherStill.toCalm event
      have hafter : (second.run event.deeds).Still := hotherStill.run HostEvent.quiet_of_mem_deeds
      rw [List.flatMap_cons, run_append]
      simp only [Scene.processQueue]
      split
      · rename_i htorn
        have hover := rests_run_of_isHeard (hprocessed.tornDown ▸ htorn)
          (HostEvent.isHeard_of_mem_flatMap_deeds events)
        exact ((noted .queueEnded _).trans hprocessed).of_rests hover
          (Reaches.dropped_eq (reaches_run _ _))
      · exact ih hprocessed (hstill.process event).1 hafter

theorem serve (h : first.SamePeople second) (hstill : first.Still) (hotherStill : second.Still)
    (request : Request) :
    (first.serve request).SamePeople (second.run request.deeds) ∧
      first.answer request = answers request.deeds second := by
  cases request with
  | event event =>
      refine ⟨h.process hstill.toCalm hotherStill.toCalm event, ?_⟩
      exact (answers_of_isHeard HostEvent.isHeard_of_mem_deeds second).symm
  | queue events =>
      refine ⟨h.processQueue hstill hotherStill events, ?_⟩
      exact (answers_of_isHeard (HostEvent.isHeard_of_mem_flatMap_deeds events) second).symm
  | hostState state =>
      by_cases hend : state = .disconnected
      · subst hend
        have hended : (second.process .destroyed).SamePeople second.tearDown :=
          (refl second).process_ending rfl
        exact ⟨h.applyHostState_disconnected.trans hended.symm, rfl⟩
      · simp only [Request.deeds, hend, if_false]
        exact ⟨(samePeople_applyHostState hend first).trans h, rfl⟩
  | reconcile entries =>
      obtain ⟨hafter, hresult⟩ := h.reconcileWith hstill.toCalm hotherStill.toCalm
        (reactAt_nil first.register.length) (reactAt_nil second.register.length) entries
      exact ⟨hafter, congrArg (fun result => [result]) hresult⟩
  | action action =>
      have huntouched := untouched_act first hstill.idle action
      have hsame : (first.act action).1.SamePeople first := .of_conference_eq huntouched.conference
        huntouched.advances.dropped_eq (changes_act hstill.idle action)
      exact ⟨hsame.trans h, rfl⟩
  | participant number call => exact ⟨h.callParticipant number call, rfl⟩
  | handleChanged handle =>
      exact ⟨⟨h.config, h.tornDown, h.capabilities, h.roster, h.participants, h.dropped, h.told⟩, rfl⟩
  | registerChanged register =>
      exact ⟨⟨h.config, h.tornDown, h.capabilities, h.roster, h.participants, h.dropped, h.told⟩, rfl⟩

/-- As for the participants' side, a run comes to the same as what is done to them in it. -/
theorem run (h : first.SamePeople second) (hstill : first.Still) (hotherStill : second.Still)
    {requests : List Request} (hquiet : ∀ request ∈ requests, request.Quiet) :
    (first.run requests).SamePeople (second.run (deeds requests)) ∧
      answers requests first = answers (deeds requests) second := by
  induction requests generalizing first second with
  | nil => exact ⟨h, rfl⟩
  | cons request requests ih =>
      obtain ⟨hserved, hanswer⟩ := h.serve hstill hotherStill request
      obtain ⟨hnext, -⟩ := hstill.serve (hquiet request List.mem_cons_self)
      have hotherNext : (second.run request.deeds).Still :=
        hotherStill.run Request.quiet_of_mem_deeds
      obtain ⟨hrest, hanswers⟩ := ih hserved hnext hotherNext
        fun other hother => hquiet other (.tail _ hother)
      have hdeeds : deeds (request :: requests) = request.deeds ++ deeds requests :=
        List.flatMap_cons
      rw [hdeeds, run_append, answers_append, answers, hanswer, hanswers]
      exact ⟨hrest, rfl⟩

end SamePeople

variable {id : ConferenceId} {config : ConferenceConfig} {handle : Handle} {start : Scene}

theorem still_openOver (hopen : openOver? id config handle = .ok start) (hidle : handle.Idle) :
    start.Still ∧ start.handle = handle := by
  obtain ⟨rfl, -⟩ := eq_openOver_of_openOver? hopen
  exact ⟨⟨calm_openOver id config handle, hidle⟩, rfl⟩

/-- Two runs of a conference that nobody calls back. If the host reports the same in both, and the
handle gives the same cause whenever a report makes the conference ask for one, then both come to the
same host's side, whatever lists, calls to participants and user actions stand between the reports. If
both do the same to the participants, then both come to the same participants' side with the same
answers, whatever the host reports in between without ending the conference. -/
theorem sides_apart (hopen : openOver? id config handle = .ok start) (hidle : handle.Idle)
    {first second : List Request} (hfirst : ∀ request ∈ first, request.Quiet)
    (hsecond : ∀ request ∈ second, request.Quiet) :
    (reports handle first = reports handle second →
      (start.run first).SameHost (start.run second)) ∧
    (deeds first = deeds second →
      (start.run first).SamePeople (start.run second) ∧
        answers first start = answers second start) := by
  obtain ⟨hstill, rfl⟩ := still_openOver hopen hidle
  constructor
  · intro hreports
    have hone := (SameHost.refl start).run hstill hfirst
    have hother := (SameHost.refl start).run hstill hsecond
    rw [← hreports] at hother
    exact hone.trans hother.symm
  · intro hdeeds
    obtain ⟨hone, hanswers⟩ := (SamePeople.refl start).run hstill hstill hfirst
    obtain ⟨hother, hsame⟩ := (SamePeople.refl start).run hstill hstill hsecond
    rw [← hdeeds] at hother hsame
    exact ⟨hone.trans hother.symm, hanswers.trans hsame.symm⟩

def crowded : List Request :=
  [.reconcile [⟨⟨"visitor", by decide⟩, .active, none, none⟩], .event (.ofState .active),
    .action (.command .hold), .participant 0 (.disconnect .busy), .event (.ofState .disconnected)]

def hostAlone : List Request :=
  [.queue [.ofState .active, .ofState .disconnected]]

def peopleAlone : List Request :=
  [.reconcile [⟨⟨"visitor", by decide⟩, .active, none, none⟩], .participant 0 (.disconnect .busy),
    .event .destroyed]

theorem sides_apart_crowded :
    (fresh.run crowded).SameHost (fresh.run hostAlone) ∧
      (fresh.run crowded).SamePeople (fresh.run peopleAlone) ∧
      answers crowded fresh = answers peopleAlone fresh ∧
      (fresh.run crowded).hostChanges.length = 3 ∧ (fresh.run crowded).peopleChanges.length = 6 := by
  have hidle : fresh.handle.Idle := fun _ => rfl
  have hcrowded : ∀ request ∈ crowded, request.Quiet := by simp [crowded, Request.Quiet]
  have hhost : ∀ request ∈ hostAlone, request.Quiet := by simp [hostAlone, Request.Quiet]
  have hpeople : ∀ request ∈ peopleAlone, request.Quiet := by simp [peopleAlone, Request.Quiet]
  have hreports : reports fresh.handle crowded = reports fresh.handle hostAlone := rfl
  have hdeeds : deeds crowded = deeds peopleAlone := rfl
  obtain ⟨hsame, hanswers⟩ := (sides_apart openOver?_fresh hidle hcrowded hpeople).2 hdeeds
  exact ⟨(sides_apart openOver?_fresh hidle hcrowded hhost).1 hreports, hsame, hanswers, rfl, rfl⟩

end Scene

end ConferenceBridge
