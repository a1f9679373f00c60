import ConferenceBridge.Proofs.Conference.HostSide

namespace ConferenceBridge

/-! What is left of a run when only the reports of the host stay in it: the host's side comes out the
same. -/

/-- Nobody is called back while the handle is asked for something. -/
def Handle.Idle (handle : Handle) : Prop :=
  ∀ command, (handle.answer command).allCalls = []

def Handle.answering (cause : SignallingCause) : Handle where
  label := ""
  phone := ⟨0⟩
  cause := cause

namespace HostEvent

def isListing : HostEvent → Bool
  | .participantsChanged _ => true
  | _ => false

/-- What an event reports of the host. The end of the call makes the conference ask the handle for a
cause, so what it answers then belongs to the report. -/
def report (cause : SignallingCause) : HostEvent → List Request
  | .participantsChanged _ => []
  | .stateChanged code =>
      if code = 6 then [.handleChanged (.answering cause), .event (.stateChanged code)]
      else [.event (.stateChanged code)]
  | event => [.event event]

end HostEvent

namespace Request

/-- Neither the handle nor the call list will call the conference back from now on. -/
def Quiet : Request → Prop
  | .handleChanged handle => handle.Idle
  | .registerChanged register => Silent register
  | _ => True

def handleAfter (handle : Handle) : Request → Handle
  | .handleChanged next => next
  | _ => handle

def report (cause : SignallingCause) : Request → List Request
  | .event reported => reported.report cause
  | .queue events => events.flatMap (HostEvent.report cause)
  | .hostState .disconnected => [.handleChanged (.answering cause), .hostState .disconnected]
  | .hostState state => [.hostState state]
  | _ => []

end Request

def Request.isHeard : Request → Bool
  | .event _ | .handleChanged _ => true
  | _ => false

theorem HostEvent.isHeard_of_mem_flatMap_report (cause : SignallingCause)
    (events : List HostEvent) :
    ∀ request ∈ events.flatMap (HostEvent.report cause), request.isHeard = true := by
  intro request hrequest
  obtain ⟨event, -, hreport⟩ := List.mem_flatMap.mp hrequest
  cases event with
  | participantsChanged entries => cases hreport
  | stateChanged code =>
      simp only [HostEvent.report] at hreport
      split at hreport
      · rw [List.mem_cons, List.mem_singleton] at hreport
        rcases hreport with rfl | rfl <;> rfl
      · obtain rfl := List.mem_singleton.mp hreport
        rfl
  | disconnected _ | destroyed =>
      obtain rfl := List.mem_singleton.mp hreport
      rfl

def reports (handle : Handle) : List Request → List Request
  | [] => []
  | request :: requests =>
      request.report handle.cause ++ reports (request.handleAfter handle) requests

namespace Scene

variable {scene next first second : Scene}

structure Still (scene : Scene) : Prop extends Calm scene where
  idle : scene.handle.Idle

theorem changes_pass (hidle : scene.handle.Idle) (command : HostCommand) :
    (scene.pass command).1.changes = scene.changes := by
  unfold Scene.pass
  split
  · exact changes_noteHost _ scene
  · simp only [hidle command, List.foldl_nil]
    rw [changes_noteHost]
    exact changes_record_of_isRemark rfl scene

theorem changes_act (hidle : scene.handle.Idle) (action : UserAction) :
    (scene.act action).1.changes = scene.changes := by
  cases action with
  | command command =>
      simp only [Scene.act, Scene.command]
      split
      · have hasked : (scene.note .hangUpAsked).handle.Idle := hidle
        rw [changes_pass hasked, changes_note]
      · exact changes_pass hidle command
  | split endpoint => exact changes_note _ scene
  | merge connection =>
      simp only [Scene.act, Scene.merge]
      split
      · exact changes_note _ scene
      · split <;> rw [changes_note] <;> exact changes_record_of_isRemark rfl scene
  | offer connection => exact changes_note _ scene

theorem sparesHost_act (hidle : scene.handle.Idle) (action : UserAction) :
    scene.SparesHost (scene.act action).1 := by
  have huntouched := untouched_act scene hidle action
  exact .of_conference_eq huntouched.conference huntouched.advances (changes_act hidle action)

theorem advances_process {event : HostEvent} (h : event.isListing = false) (scene : Scene) :
    Advances scene (scene.process event) := by
  have hnoted : ∀ notice, Advances scene (scene.note notice) :=
    fun notice => (Advances.refl scene).record _
  unfold process processWith
  split
  · exact hnoted _
  · cases event with
    | stateChanged code =>
        simp only
        split
        · exact hnoted _
        · exact (routine_replace _ scene).advances.trans (advances_applyHostState _ _)
    | disconnected cause => exact advances_setDisconnected _ scene
    | destroyed => exact (hnoted .hostDestroyed).trans (advances_tearDown _)
    | participantsChanged entries => cases h

theorem sparesHost_process_listing (hcalm : scene.Calm) (entries : List Snapshot) :
    scene.SparesHost (scene.process (.participantsChanged entries)) ∧
      (scene.process (.participantsChanged entries)).Calm := by
  have hnoted : ∀ notice, (scene.note notice).Calm :=
    fun notice => hcalm.advances ((Advances.refl scene).record _)
  unfold process processWith
  split
  · exact ⟨sparesHost_note _ scene, hnoted _⟩
  · obtain ⟨hspares, hafter⟩ := sparesHost_reconcileWith (reactAt_nil _)
      (hnoted (.listReceived entries.length)) entries
    exact ⟨(sparesHost_note _ scene).trans hspares, hafter⟩

theorem Still.process (h : scene.Still) (event : HostEvent) :
    (scene.process event).Still ∧ (scene.process event).handle = scene.handle := by
  obtain ⟨hcalm, hhandle⟩ : (scene.process event).Calm ∧
      (scene.process event).handle = scene.handle := by
    cases hlisting : event.isListing with
    | false =>
        have hadvances := advances_process hlisting scene
        exact ⟨h.toCalm.advances hadvances, hadvances.handle_eq⟩
    | true =>
        cases event with
        | participantsChanged entries =>
            obtain ⟨hspares, hcalm⟩ := sparesHost_process_listing h.toCalm entries
            exact ⟨hcalm, hspares.handle⟩
        | _ => cases hlisting
  refine ⟨⟨hcalm, ?_⟩, hhandle⟩
  rw [hhandle]
  exact h.idle

theorem Still.advances (h : scene.Still) (hadvances : Advances scene next) :
    next.Still ∧ next.handle = scene.handle :=
  ⟨⟨h.toCalm.advances hadvances, hadvances.handle_eq ▸ h.idle⟩, hadvances.handle_eq⟩

theorem Still.processQueue (h : scene.Still) (events : List HostEvent) :
    (scene.processQueue events).Still ∧ (scene.processQueue events).handle = scene.handle := by
  induction events generalizing scene with
  | nil => exact h.advances ((Advances.refl scene).record _)
  | cons event events ih =>
      obtain ⟨hstill, hhandle⟩ := h.process event
      simp only [Scene.processQueue]
      split
      · obtain ⟨hnoted, hsame⟩ := hstill.advances ((Advances.refl _).record
          (.noted (.conference .queueEnded)))
        exact ⟨hnoted, hsame.trans hhandle⟩
      · obtain ⟨hrest, hsame⟩ := ih hstill
        exact ⟨hrest, hsame.trans hhandle⟩

theorem Still.serve (h : scene.Still) {request : Request} (hquiet : request.Quiet) :
    (scene.serve request).Still ∧
      (scene.serve request).handle = request.handleAfter scene.handle := by
  cases request with
  | event event => exact h.process event
  | queue events => exact h.processQueue events
  | hostState state => exact h.advances (advances_applyHostState state scene)
  | reconcile entries =>
      obtain ⟨hspares, hcalm⟩ := sparesHost_reconcileWith (reactAt_nil _) h.toCalm entries
      exact ⟨⟨hcalm, hspares.handle ▸ h.idle⟩, hspares.handle⟩
  | action action => exact h.advances (untouched_act scene h.idle action).advances
  | participant number call => exact h.advances (routine_callParticipant number call scene).advances
  | handleChanged handle => exact ⟨⟨⟨h.silent, h.held⟩, hquiet⟩, rfl⟩
  | registerChanged register => exact ⟨⟨⟨hquiet, h.held⟩, h.idle⟩, rfl⟩

theorem Still.run (h : scene.Still) {requests : List Request}
    (hquiet : ∀ request ∈ requests, request.Quiet) : (scene.run requests).Still := by
  induction requests generalizing scene with
  | nil => exact h
  | cons request requests ih =>
      obtain ⟨hstill, -⟩ := h.serve (hquiet request List.mem_cons_self)
      exact ih hstill fun other hother => hquiet other (.tail _ hother)

namespace SameHost

theorem handle (h : first.SameHost second) (handle : Handle) :
    first.SameHost { second with handle } :=
  ⟨h.state, h.cause, h.tornDown, h.lastState, h.released, h.told⟩

theorem process_of_not_listing (h : first.SameHost second) {event : HostEvent}
    (hlisting : event.isListing = false)
    (hanswer : event = .stateChanged 6 → first.handle.cause = second.handle.cause) :
    (first.process event).SameHost (second.process event) := by
  unfold Scene.process processWith
  rw [h.tornDown]
  split
  · exact h.note _ _
  · cases event with
    | stateChanged code =>
        cases hcode : ConnectionState.ofCode? code with
        | none =>
            simp only [hcode]
            exact h.note _ _
        | some state =>
            simp only [hcode]
            refine (h.remember state).applyHostState state ?_
            rintro rfl
            have hsix : (HostEvent.stateChanged code).isEnding = true :=
              HostEvent.isEnding_of_ofCode? hcode
            exact hanswer (congrArg HostEvent.stateChanged (beq_iff_eq.mp hsix))
    | disconnected cause => exact h.setDisconnected cause.disconnectCause
    | destroyed => exact (h.note _ _).tearDown
    | participantsChanged entries => cases hlisting

theorem process (h : first.SameHost second) (hcalm : first.Calm) (event : HostEvent) :
    (first.process event).SameHost (second.run (event.report first.handle.cause)) := by
  cases event with
  | participantsChanged entries => exact h.left (sparesHost_process_listing hcalm entries).1
  | stateChanged code =>
      simp only [HostEvent.report]
      split
      · exact (h.handle (.answering first.handle.cause)).process_of_not_listing rfl fun _ => rfl
      · rename_i hcode
        refine h.process_of_not_listing rfl fun hsix => absurd ?_ hcode
        exact HostEvent.stateChanged.inj hsix
  | disconnected cause => exact h.process_of_not_listing rfl (fun hsix => by cases hsix)
  | destroyed => exact h.process_of_not_listing rfl (fun hsix => by cases hsix)

theorem of_rests (h : first.SameHost second) (hrests : second.Rests next) : first.SameHost next := by
  refine ⟨?_, ?_, ?_, ?_, ?_, ?_⟩
  all_goals try rw [hrests.conference]
  · exact h.state
  · exact h.cause
  · exact h.tornDown
  · exact h.lastState
  · exact h.released
  · rw [h.told, hostChanges_eq_of_changes_eq hrests.changes_eq]

end SameHost

theorem rests_run_of_isHeard (htorn : scene.conference.tornDown = true) {requests : List Request}
    (h : ∀ request ∈ requests, request.isHeard = true) : scene.Rests (scene.run requests) := by
  induction requests generalizing scene with
  | nil => exact .refl scene
  | cons request requests ih =>
      have hserved : scene.Rests (scene.serve request) := by
        cases request with
        | event event =>
            rw [Scene.serve, process_of_tornDown htorn]
            exact .note scene _
        | handleChanged handle => exact ⟨rfl, [], by simp [Scene.serve, effects]⟩
        | _ => cases h _ List.mem_cons_self
      have hstill : (scene.serve request).conference.tornDown = true := by
        rw [hserved.conference, htorn]
      exact hserved.trans (ih hstill fun other hother => h other (.tail _ hother))

namespace SameHost

theorem processQueue (h : first.SameHost second) (hstill : first.Still) (events : List HostEvent) :
    (first.processQueue events).SameHost
      (second.run (events.flatMap (HostEvent.report first.handle.cause))) := by
  induction events generalizing first second with
  | nil => exact h.left (sparesHost_note .queueEnded first)
  | cons event events ih =>
      have hprocessed := h.process hstill.toCalm event
      obtain ⟨hstill, hhandle⟩ := hstill.process event
      rw [List.flatMap_cons, run_append]
      simp only [Scene.processQueue]
      split
      · rename_i htorn
        have hover := rests_run_of_isHeard (hprocessed.tornDown ▸ htorn)
          (HostEvent.isHeard_of_mem_flatMap_report first.handle.cause events)
        exact (hprocessed.left (sparesHost_note .queueEnded _)).of_rests hover
      · have hrest := ih hprocessed hstill
        rwa [hhandle] at hrest

theorem serve (h : first.SameHost second) (hstill : first.Still) (request : Request) :
    (first.serve request).SameHost (second.run (request.report first.handle.cause)) := by
  cases request with
  | event event => exact h.process hstill.toCalm event
  | queue events => exact h.processQueue hstill events
  | hostState state =>
      by_cases hend : state = .disconnected
      · subst hend
        exact (h.handle (.answering first.handle.cause)).applyHostState .disconnected fun _ => rfl
      · have hreport : (Request.hostState state).report first.handle.cause = [.hostState state] := by
          cases state <;> first | rfl | exact absurd rfl hend
        rw [hreport]
        exact h.applyHostState state fun hdisconnected => absurd hdisconnected hend
  | reconcile entries =>
      exact h.left (sparesHost_reconcileWith (reactAt_nil _) hstill.toCalm entries).1
  | action action => exact h.left (sparesHost_act hstill.idle action)
  | participant number call => exact h.left (sparesHost_callParticipant hstill.held number call)
  | handleChanged handle => exact (h.symm.handle handle).symm
  | registerChanged register =>
      exact ⟨h.state, h.cause, h.tornDown, h.lastState, h.released, h.told⟩

/-- As for the host's side, a run comes to the same as the reports in it. -/
theorem run (h : first.SameHost second) (hstill : first.Still) {requests : List Request}
    (hquiet : ∀ request ∈ requests, request.Quiet) :
    (first.run requests).SameHost (second.run (reports first.handle requests)) := by
  induction requests generalizing first second with
  | nil => exact h
  | cons request requests ih =>
      have hserved := h.serve hstill request
      obtain ⟨hstill, hhandle⟩ := hstill.serve (hquiet request List.mem_cons_self)
      rw [run_cons, reports, run_append, ← hhandle]
      exact ih hserved hstill fun other hother => hquiet other (.tail _ hother)

end SameHost

end Scene

end ConferenceBridge
