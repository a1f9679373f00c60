import ConferenceBridge.Proofs.Conference.HostReport
import Mathlib.Data.List.Destutter

namespace ConferenceBridge

/-! A conference mirrors its host as long as the call goes on: it is active or held as the host last
was, and its subscribers hear each turn once. -/

namespace ConnectionState

/-- The host is connected; before that a conference has no state of its own. -/
def isEstablished : ConnectionState → Bool
  | active | held => true
  | _ => false

theorem ofCode?_eq_none_iff {code : Int32} : ofCode? code = none ↔ code < 0 ∨ 6 < code := by
  have hcodes : ofCode? code = none ↔ ∀ state ∈ all, state.code.toInt ≠ code.toInt := by
    simp [ofCode?, Int32.toInt_inj]
  have hends : code < 0 ∨ 6 < code ↔ code.toInt < 0 ∨ 6 < code.toInt :=
    or_congr Int32.lt_iff_toInt_lt Int32.lt_iff_toInt_lt
  have hall : all.map (·.code.toInt) = [0, 1, 2, 3, 4, 5, 6] := by decide
  have hmapped : (∀ state ∈ all, state.code.toInt ≠ code.toInt) ↔
      code.toInt ∉ all.map (·.code.toInt) := by
    simp
  rw [hcodes, hends, hmapped, hall]
  simp only [List.mem_cons, List.not_mem_nil, or_false]
  omega

end ConnectionState

namespace HostEvent

def code? : HostEvent → Option Int32
  | stateChanged code => some code
  | _ => none

def goesOn : HostEvent → Bool
  | disconnected _ => false
  | event => !event.isEnding

end HostEvent

namespace Request

def codes : Request → List Int32
  | .event reported => reported.code?.toList
  | .queue events => events.filterMap HostEvent.code?
  | _ => []

def goesOn : Request → Bool
  | .event reported => reported.goesOn
  | .queue events => events.all HostEvent.goesOn
  | .hostState _ => false
  | _ => true

end Request

/-- What is told of a state that runs through all of these, one after the other. -/
def transitions (states : List ConnectionState) : List Change :=
  let turns := states.destutter (· ≠ ·)
  (turns.zip turns.tail).map fun (previous, next) => .state previous next

theorem transitions_singleton (state : ConnectionState) : transitions [state] = [] := rfl

theorem transitions_cons_cons (previous next : ConnectionState) (states : List ConnectionState) :
    transitions (previous :: next :: states) =
      (if previous = next then [] else [.state previous next]) ++ transitions (next :: states) := by
  have hhead (first : ConnectionState) (rest : List ConnectionState) :
      ∃ more, rest.destutter' (· ≠ ·) first = first :: more := by
    induction rest generalizing first with
    | nil => exact ⟨[], rfl⟩
    | cons second rest ih =>
        by_cases hsame : first = second
        · simpa [hsame] using ih second
        · simp [hsame]
  obtain ⟨more, hmore⟩ := hhead next states
  by_cases hsame : previous = next
  · subst hsame
    simp [transitions, List.destutter_cons']
  · simp [transitions, List.destutter_cons', hsame, hmore]

theorem transitions_append (first : ConnectionState) (states more : List ConnectionState) :
    transitions (first :: (states ++ more)) =
      transitions (first :: states) ++ transitions (states.getLast?.getD first :: more) := by
  induction states generalizing first with
  | nil => rfl
  | cons second states ih =>
      rw [List.cons_append, transitions_cons_cons, transitions_cons_cons, ih, List.append_assoc,
        List.getLast?_cons]
      rfl

theorem HostEvent.report_of_goesOn {event : HostEvent} (h : event.goesOn = true)
    (cause : SignallingCause) :
    event.report cause = event.code?.toList.map fun code => .event (.stateChanged code) := by
  cases event with
  | stateChanged code =>
      have hsix : code ≠ 6 := by simpa [HostEvent.goesOn, HostEvent.isEnding] using h
      simp [HostEvent.report, HostEvent.code?, hsix]
  | participantsChanged entries => rfl
  | disconnected _ | destroyed => cases h

theorem HostEvent.ne_six_of_goesOn {event : HostEvent} (h : event.goesOn = true) :
    ∀ code ∈ event.code?.toList, code ≠ 6 := by
  intro code hcode
  cases event with
  | stateChanged reported =>
      obtain rfl : code = reported := List.mem_singleton.mp hcode
      simpa [HostEvent.goesOn, HostEvent.isEnding] using h
  | _ => cases hcode

theorem Request.codes_queue (events : List HostEvent) :
    (Request.queue events).codes = events.flatMap fun event => event.code?.toList :=
  List.filterMap_eq_flatMap_toList _ _

theorem Request.report_of_goesOn {request : Request} (h : request.goesOn = true)
    (cause : SignallingCause) :
    request.report cause = request.codes.map fun code => .event (.stateChanged code) := by
  cases request with
  | event event => exact HostEvent.report_of_goesOn h cause
  | queue events =>
      rw [Request.codes_queue, List.map_flatMap]
      exact List.flatMap_congr fun event hevent =>
        HostEvent.report_of_goesOn (List.all_eq_true.mp h event hevent) cause
  | hostState state => cases h
  | _ => rfl

theorem Request.ne_six_of_goesOn {request : Request} (h : request.goesOn = true) :
    ∀ code ∈ request.codes, code ≠ 6 := by
  cases request with
  | event event => exact HostEvent.ne_six_of_goesOn h
  | queue events =>
      intro code hcode
      rw [Request.codes_queue, List.mem_flatMap] at hcode
      obtain ⟨event, hevent, hcode⟩ := hcode
      exact HostEvent.ne_six_of_goesOn (List.all_eq_true.mp h event hevent) code hcode
  | _ =>
      intro code hcode
      cases hcode

theorem reports_of_goesOn {requests : List Request}
    (h : ∀ request ∈ requests, request.goesOn = true) (handle : Handle) :
    reports handle requests =
      (requests.flatMap Request.codes).map fun code => .event (.stateChanged code) := by
  induction requests generalizing handle with
  | nil => rfl
  | cons request requests ih =>
      rw [reports, ih fun other hother => h other (.tail _ hother),
        Request.report_of_goesOn (h request List.mem_cons_self), List.flatMap_cons,
        List.map_append]

def established (codes : List Int32) : List ConnectionState :=
  (codes.filterMap ConnectionState.ofCode?).filter ConnectionState.isEstablished

theorem established_append (codes more : List Int32) :
    established (codes ++ more) = established codes ++ established more := by
  simp [established]

namespace Scene

/-- What these codes make of a conference. -/
structure Mirrors (scene next : Scene) (codes : List Int32) : Prop where
  stillOpen : next.conference.tornDown = false
  uncaused : next.conference.cause = none
  state : next.conference.state = (established codes).getLast?.getD scene.conference.state
  lastState : next.conference.host.lastState =
    (codes.filterMap ConnectionState.ofCode?).getLast?.or scene.conference.host.lastState
  told : next.hostChanges =
    scene.hostChanges ++ transitions (scene.conference.state :: established codes)

variable {scene middle next : Scene}

theorem hostChanges_note (notice : ConferenceNotice) (scene : Scene) :
    (scene.note notice).hostChanges = scene.hostChanges :=
  hostChanges_eq_of_changes_eq (changes_note notice scene)

theorem hostChanges_setState (next : ConnectionState) (scene : Scene) :
    (scene.setState next).hostChanges =
      scene.hostChanges ++ transitions [scene.conference.state, next] := by
  rw [transitions_cons_cons, transitions_singleton, List.append_nil, hostChanges, changes_setState]
  split
  · exact (List.append_nil _).symm
  · exact List.filter_append ..

namespace Mirrors

theorem refl (hopen : scene.conference.tornDown = false) (hcause : scene.conference.cause = none) :
    scene.Mirrors scene [] where
  stillOpen := hopen
  uncaused := hcause
  state := rfl
  lastState := rfl
  told := (List.append_nil _).symm

theorem trans {codes more : List Int32} (hfirst : scene.Mirrors middle codes)
    (hsecond : middle.Mirrors next more) : scene.Mirrors next (codes ++ more) where
  stillOpen := hsecond.stillOpen
  uncaused := hsecond.uncaused
  state := by
    rw [hsecond.state, hfirst.state, established_append, List.getLast?_append]
    cases (established more).getLast? <;> rfl
  lastState := by
    rw [hsecond.lastState, hfirst.lastState, List.filterMap_append, List.getLast?_append,
      Option.or_assoc]
  told := by
    rw [hsecond.told, hfirst.told, hfirst.state, established_append, List.append_assoc,
      ← transitions_append]

theorem process (hopen : scene.conference.tornDown = false)
    (hcause : scene.conference.cause = none) {code : Int32} (hsix : code ≠ 6) :
    scene.Mirrors (scene.process (.stateChanged code)) [code] := by
  unfold Scene.process processWith
  rw [hopen]
  simp only [Bool.false_eq_true, if_false]
  cases hcode : ConnectionState.ofCode? code with
  | none =>
      have hnever : established [code] = [] := by simp [established, hcode]
      exact ⟨hopen, hcause, by rw [hnever]; rfl, by simp [hcode],
        by simp [hnever, transitions_singleton, hostChanges]⟩
  | some state =>
      have hstate : established [code] = [state].filter ConnectionState.isEstablished := by
        simp [established, hcode]
      have hnoted : ((scene.remember state).note (.hostState state)).hostChanges =
          scene.hostChanges :=
        hostChanges_note _ _
      cases state with
      | active | held =>
          refine ⟨by simp [applyHostState, hopen], by simp [applyHostState, hcause],
            by simp [applyHostState, hstate, ConnectionState.isEstablished],
            by simp [applyHostState, HostLine.remember, hcode], ?_⟩
          rw [hstate, ← hnoted]
          exact hostChanges_setState _ _
      | disconnected =>
          have hending := HostEvent.isEnding_of_ofCode? hcode
          exact absurd (beq_iff_eq.mp hending) hsix
      | _ =>
          refine ⟨by simp [applyHostState, hopen], by simp [applyHostState, hcause],
            by simp [applyHostState, hstate, ConnectionState.isEstablished],
            by simp [applyHostState, HostLine.remember, hcode], ?_⟩
          rw [hstate, ← hnoted]
          exact (List.append_nil _).symm

theorem run (hopen : scene.conference.tornDown = false) (hcause : scene.conference.cause = none)
    {codes : List Int32} (hsix : ∀ code ∈ codes, code ≠ 6) :
    scene.Mirrors (scene.run (codes.map fun code => .event (.stateChanged code))) codes := by
  induction codes generalizing scene with
  | nil => exact refl hopen hcause
  | cons code codes ih =>
      have hfirst := process hopen hcause (hsix code List.mem_cons_self)
      exact hfirst.trans <| ih hfirst.stillOpen hfirst.uncaused fun other hother =>
        hsix other (.tail _ hother)

end Mirrors

theorem process_of_invalid {code : Int32} (h : ConnectionState.ofCode? code = none)
    (scene : Scene) : ∃ notice, scene.process (.stateChanged code) = scene.note notice := by
  unfold process processWith
  split
  · exact ⟨_, rfl⟩
  · simp only [h]
    exact ⟨_, rfl⟩

/-- As long as the call goes on, whatever is asked besides, a conference is active or held as its
host last was, remembers the last valid code, has no cause, and tells each turn once. An invalid
code is noted and does nothing. -/
theorem host_mirrored {id : ConferenceId} {config : ConferenceConfig} {handle : Handle}
    {start : Scene} (hopen : openOver? id config handle = .ok start) (hidle : handle.Idle)
    {requests : List Request} (hquiet : ∀ request ∈ requests, request.Quiet)
    (hgoesOn : ∀ request ∈ requests, request.goesOn = true) :
    let scene := start.run requests
    let codes := requests.flatMap Request.codes
    scene.conference.state = (established codes).getLast?.getD .new ∧
      scene.conference.host.lastState = (codes.filterMap ConnectionState.ofCode?).getLast? ∧
      scene.conference.cause = none ∧
      scene.hostChanges = transitions (.new :: established codes) ∧
      ∀ code, (ConnectionState.ofCode? code = none ↔ code < 0 ∨ 6 < code) ∧
        (ConnectionState.ofCode? code = none → ∀ other : Scene,
          ∃ notice, other.process (.stateChanged code) = other.note notice) := by
  obtain ⟨rfl, -⟩ := eq_openOver_of_openOver? hopen
  have hstill : (openOver id config handle).Still := ⟨calm_openOver id config handle, hidle⟩
  have hsix : ∀ code ∈ requests.flatMap Request.codes, code ≠ 6 := by
    intro code hcode
    obtain ⟨request, hrequest, hcode⟩ := List.mem_flatMap.mp hcode
    exact Request.ne_six_of_goesOn (hgoesOn request hrequest) code hcode
  have hsame := (SameHost.refl (openOver id config handle)).run hstill hquiet
  rw [reports_of_goesOn hgoesOn] at hsame
  have hmirrors : Mirrors (openOver id config handle) _ _ := .run rfl rfl hsix
  refine ⟨hsame.state.trans hmirrors.state, ?_, hsame.cause.trans hmirrors.uncaused,
    hsame.told.trans hmirrors.told,
    fun code => ⟨ConnectionState.ofCode?_eq_none_iff, process_of_invalid⟩⟩
  rw [hsame.lastState, hmirrors.lastState]
  exact Option.or_none

def putOnHold : List Request :=
  [.queue [.ofState .dialing, .ofState .active], .action (.command .hold),
    .event (.stateChanged 17), .event (.ofState .active),
    .event (.participantsChanged [⟨⟨"onHold", by decide⟩, .active, none, none⟩]),
    .participant 0 (.disconnect .busy), .event (.ofState .held), .event (.ofState .ringing)]

theorem host_mirrored_putOnHold :
    (fresh.run putOnHold).conference.state = .held ∧
      (fresh.run putOnHold).conference.host.lastState = some .ringing ∧
      (fresh.run putOnHold).conference.cause = none ∧
      (fresh.run putOnHold).hostChanges = [.state .new .active, .state .active .held] ∧
      ∃ notice, (fresh.run putOnHold).process (.stateChanged (-1)) =
        (fresh.run putOnHold).note notice := by
  have hquiet : ∀ request ∈ putOnHold, request.Quiet := by simp [putOnHold, Request.Quiet]
  obtain ⟨hstate, hlast, hcause, htold, hinvalid⟩ :=
    host_mirrored openOver?_fresh (fun _ => rfl) hquiet (by decide)
  exact ⟨hstate.trans (by decide), hlast.trans (by decide), hcause, htold.trans (by decide),
    (hinvalid (-1)).2 ((hinvalid (-1)).1.mpr (by decide)) _⟩

end Scene

end ConferenceBridge
