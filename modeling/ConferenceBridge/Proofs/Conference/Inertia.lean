import ConferenceBridge.Proofs.Conference.Announcement

namespace ConferenceBridge

/-! What still reaches a conference after its end. Reports, lists and calls to participants find
nobody there any more: they are noted at most. -/

/-- Reports of the host, lists, and calls to participants; and whatever becomes of the handle and the
call list meanwhile. Not so what a user asks for, and a host state that is applied by hand. -/
def Request.isReport : Request → Bool
  | .hostState _ | .action _ => false
  | _ => true

namespace Scene

variable {scene middle next : Scene}

/-- Nothing but notes was added. -/
structure Rests (scene next : Scene) : Prop where
  conference : next.conference = scene.conference
  told : ∃ notices : List Notice, next.effects = scene.effects ++ notices.map .noted

namespace Rests

theorem refl (scene : Scene) : scene.Rests scene :=
  ⟨rfl, [], by simp⟩

theorem note (scene : Scene) (notice : ConferenceNotice) : scene.Rests (scene.note notice) :=
  ⟨rfl, [.conference notice], effects_record _ _⟩

theorem trans (hfirst : scene.Rests middle) (hsecond : middle.Rests next) : scene.Rests next := by
  obtain ⟨notices, hmiddle⟩ := hfirst.told
  obtain ⟨more, hnext⟩ := hsecond.told
  refine ⟨hsecond.conference.trans hfirst.conference, notices ++ more, ?_⟩
  rw [hnext, hmiddle, List.append_assoc, List.map_append]

theorem changes_eq (h : scene.Rests next) : next.changes = scene.changes := by
  obtain ⟨notices, hnext⟩ := h.told
  have hnever : (notices.map Effect.noted).filterMap Effect.change? = [] := by
    simp [List.filterMap_map, Function.comp_def, Effect.change?]
  rw [changes, hnext, List.filterMap_append, hnever, List.append_nil, ← changes]

end Rests

/-! Each of these requests asks first whether the conference has ended, except for the calls to
participants. These find that everyone is gone. -/

section Ended

variable (htorn : scene.conference.tornDown = true)

include htorn

theorem process_of_tornDown (event : HostEvent) :
    scene.process event = scene.note (.eventIgnored event) := by
  simp [process, processWith, htorn]

theorem reconcile_of_tornDown (entries : List Snapshot) :
    scene.reconcile entries = (scene.note .reconcileIgnored, {}) := by
  simp [reconcile, reconcileWith, htorn]

theorem Sound.callParticipant_eq (h : scene.Sound) (number : Nat) (call : ParticipantCall) :
    scene.callParticipant number call = scene := by
  unfold callParticipant
  cases hparticipant : scene.participant? number with
  | none => rfl
  | some participant =>
      have hrefused := Participant.perform_call_of_isGone (h.isGone htorn hparticipant) call
      have hsame : scene.settle number participant.unchanged = scene := by
        obtain ⟨hlt, rfl⟩ := List.getElem?_eq_some_iff.mp hparticipant
        simp [settle, Participant.unchanged]
      simp only [hrefused, hsame]
      simp [Participant.unchanged]

theorem Sound.accepts_eq_false (h : scene.Sound) (number : Nat) (call : ParticipantCall) :
    scene.accepts number (.call call) = false := by
  unfold accepts
  cases hparticipant : scene.participant? number with
  | none => rfl
  | some participant =>
      simp [Participant.perform_call_of_isGone (h.isGone htorn hparticipant),
        Participant.unchanged]

theorem rests_processQueue (events : List HostEvent) : scene.Rests (scene.processQueue events) := by
  cases events with
  | nil => exact .note scene .queueEnded
  | cons event events =>
      have hnoted : scene.processQueue (event :: events) =
          (scene.note (.eventIgnored event)).note .queueEnded := by
        simp [processQueue, process_of_tornDown htorn, htorn]
      rw [hnoted]
      exact (Rests.note scene _).trans (.note _ _)

theorem Sound.rests_serve (h : scene.Sound) {request : Request}
    (hreport : request.isReport = true) : scene.Rests (scene.serve request) := by
  cases request with
  | event event =>
      rw [serve, process_of_tornDown htorn]
      exact .note scene _
  | queue events => exact rests_processQueue htorn events
  | reconcile entries =>
      rw [serve, reconcile_of_tornDown htorn]
      exact .note scene _
  | participant number call =>
      rw [serve, h.callParticipant_eq htorn]
      exact .refl scene
  | handleChanged handle => exact ⟨rfl, [], by simp [serve, effects]⟩
  | registerChanged register => exact ⟨rfl, [], by simp [serve, effects]⟩
  | hostState state => cases hreport
  | action action => cases hreport

theorem Sound.rests_run (h : scene.Sound) {requests : List Request}
    (hreports : ∀ request ∈ requests, request.isReport = true) : scene.Rests (scene.run requests) := by
  induction requests generalizing scene with
  | nil => exact .refl scene
  | cons request requests ih =>
      have hserved := h.rests_serve htorn (hreports request List.mem_cons_self)
      have hstill : (scene.serve request).conference.tornDown = true := by
        rw [hserved.conference, htorn]
      have hsound : (scene.serve request).Sound := h.of_reaches (reaches_run [request] scene)
      exact hserved.trans (ih hstill hsound fun other hother => hreports other (.tail _ hother))

end Ended

variable {id : ConferenceId} {config : ConferenceConfig} {handle : Handle} {start : Scene}

theorem sound_run (hopen : openOver? id config handle = .ok start) (requests : List Request) :
    (start.run requests).Sound where
  held := dropped_run hopen requests
  coherent := coherent_run hopen requests
  closes := (evolves_run hopen requests).closes ⟨fun _ => rfl, fun h => by cases h⟩

/-- Once a conference has ended, however it came to that, reports, lists and calls to participants
change nothing of it or of anyone who ever took part. Nothing is told, nobody is handed over, and the
handle is not asked; lists are answered with an empty result, and calls with a refusal. -/
theorem ended_at_rest (hopen : openOver? id config handle = .ok start) (requests more : List Request)
    (htorn : (start.run requests).conference.tornDown = true)
    (hreports : ∀ request ∈ more, request.isReport = true) :
    let scene := start.run requests
    let later := start.run (requests ++ more)
    later.conference = scene.conference ∧
      later.conference.roster.isEmpty = true ∧
      later.changes = scene.changes ∧
      (∃ notices : List Notice, later.effects = scene.effects ++ notices.map .noted) ∧
      (∀ entries, (later.reconcile entries).2 = {}) ∧
      ∀ number call, later.accepts number (.call call) = false := by
  intro scene later
  have hrests : scene.Rests later := by
    have hmore := (sound_run hopen requests).rests_run htorn hreports
    rwa [← run_append] at hmore
  have hstill : later.conference.tornDown = true := by
    rw [hrests.conference]
    exact htorn
  have hsound : later.Sound := sound_run hopen (requests ++ more)
  refine ⟨hrests.conference, ?_, hrests.changes_eq, hrests.told, ?_,
    hsound.accepts_eq_false hstill⟩
  · simp [Roster.isEmpty, (hsound.closes.ended hstill).roster]
  · intro entries
    rw [reconcile_of_tornDown hstill]

/-- The conference ends while its first participant is handed over. Later the call list would end it
again, if it were asked. -/
def endedInside : List Request :=
  [.registerChanged [[.event .destroyed]],
    .reconcile [⟨⟨"inside", by decide⟩, .active, none, none⟩],
    .registerChanged [[.event .destroyed]]]

def lateReports : List Request :=
  [.queue [.ofState .active, .disconnected .normal],
    .reconcile [⟨⟨"late", by decide⟩, .active, none, none⟩],
    .participant 0 (.update .held), .participant 0 .destroy]

theorem ended_at_rest_lateReports :
    (fresh.run (endedInside ++ lateReports)).conference = (fresh.run endedInside).conference ∧
      (fresh.run (endedInside ++ lateReports)).changes = (fresh.run endedInside).changes ∧
      (fresh.run endedInside).conference.participants.length = 1 := by
  have htorn : (fresh.run endedInside).conference.tornDown = true := rfl
  have hreports : ∀ request ∈ lateReports, request.isReport = true := by
    simp [lateReports, Request.isReport]
  obtain ⟨hconference, -, hchanges, -⟩ :=
    ended_at_rest openOver?_fresh endedInside lateReports htorn hreports
  exact ⟨hconference, hchanges, rfl⟩

end Scene

end ConferenceBridge
