import ConferenceBridge.Proofs.Conference.Destruction
import ConferenceBridge.Proofs.Conference.HostSide
import ConferenceBridge.Proofs.Conference.Management
import Mathlib.Tactic.ByContra

namespace ConferenceBridge

/-! What a reconcile that nobody interrupts makes of a conference: of its roster, of everyone who
took part at some time, and of the right to manage. Nothing else of it changes. -/

namespace Snapshot

theorem reports_eq_nil {endpoint : Endpoint} {entries : List Snapshot}
    (h : endpoint ∉ entries.map (·.endpoint)) : reports endpoint entries = [] := by
  rw [reports, List.map_eq_nil_iff, List.filter_eq_nil_iff]
  intro entry hentry heq
  exact h (List.mem_map.mpr ⟨entry, hentry, by simpa using heq⟩)

theorem exists_last {endpoint : Endpoint} {entries : List Snapshot}
    (h : endpoint ∈ entries.map (·.endpoint)) :
    ∃ last, (reports endpoint entries).getLast? = some last := by
  obtain ⟨entry, hentry, rfl⟩ := List.mem_map.mp h
  have hreport : entry.state ∈ reports entry.endpoint entries :=
    List.mem_map_of_mem (List.mem_filter.mpr ⟨hentry, by simp⟩)
  exact ⟨_, List.getLast?_eq_some_getLast (List.ne_nil_of_mem hreport)⟩

theorem exists_first {endpoint : Endpoint} {entries : List Snapshot}
    (h : endpoint ∈ entries.map (·.endpoint)) :
    ∃ first, entries.find? (·.endpoint = endpoint) = some first := by
  obtain ⟨entry, hentry, rfl⟩ := List.mem_map.mp h
  exact Option.isSome_iff_exists.mp (List.find?_isSome.mpr ⟨entry, hentry, by simp⟩)

end Snapshot

namespace Participant

theorem Undergoes.eq_of_isGone {before after : Participant} (h : before.Undergoes after)
    (hgone : before.IsGone) : after = before := by
  induction h with
  | refl => rfl
  | tail _ hlast ih =>
      obtain ⟨operation, rfl⟩ := hlast
      rw [ih]
      cases operation with
      | call call => rw [perform_call_of_isGone hgone]; rfl
      | unobserve => simp [perform, unobserve, unchanged, hgone.observed]
      | detach => simp [perform, detach, unchanged, hgone.attached]

end Participant

namespace Conference

def member? (conference : Conference) (endpoint : Endpoint) : Option Participant :=
  (conference.roster.get? endpoint).bind fun number => conference.participants[number]?

section Member

variable {conference : Conference} {endpoint : Endpoint}

theorem member?_eq_none (h : endpoint ∉ conference.roster.endpoints) :
    conference.member? endpoint = none := by
  rw [member?, Roster.get?_eq_none_iff.mpr h, Option.bind_none]

theorem member?_eq_some {number : Nat} {participant : Participant}
    (hmem : (endpoint, number) ∈ conference.roster.entries)
    (hparticipant : conference.participants[number]? = some participant) :
    conference.member? endpoint = some participant := by
  rw [member?, Roster.get?_eq_some_iff.mpr hmem, Option.bind_some, hparticipant]

theorem stateAt?_eq_map (conference : Conference) (endpoint : Endpoint) :
    conference.stateAt? endpoint = (conference.member? endpoint).map (·.state) := by
  rw [stateAt?, member?, Option.map_bind]
  rfl

theorem Coherent.exists_member (h : conference.Coherent)
    (hknown : endpoint ∈ conference.roster.endpoints) :
    ∃ number participant, (endpoint, number) ∈ conference.roster.entries ∧
      conference.participants[number]? = some participant ∧
      conference.member? endpoint = some participant := by
  obtain ⟨⟨_, number⟩, hmem, rfl⟩ := List.mem_map.mp hknown
  obtain ⟨participant, hparticipant, -⟩ := h.listed _ _ hmem
  exact ⟨number, participant, hmem, hparticipant, member?_eq_some hmem hparticipant⟩

end Member

/-- Others take part, and nothing else is different. -/
def Regroups (before after : Conference) : Prop :=
  after = { before with roster := after.roster, participants := after.participants }

namespace Regroups

variable {before middle after : Conference}

theorem refl (conference : Conference) : conference.Regroups conference := rfl

theorem trans (hfirst : before.Regroups middle) (hsecond : middle.Regroups after) :
    before.Regroups after := by
  rw [Regroups, hsecond, hfirst]

end Regroups

/-! A list that names exactly those who take part. -/

section Same

variable {conference : Conference} {entries : List Snapshot}
  (hsame : ∀ endpoint, endpoint ∈ conference.roster.endpoints ↔ endpoint ∈ entries.map (·.endpoint))

include hsame

theorem newEndpoints_eq_nil : conference.newEndpoints entries = [] := by
  rw [List.eq_nil_iff_forall_not_mem]
  intro endpoint hnew
  obtain ⟨hlisted, habsent⟩ := mem_newEndpoints.mp hnew
  exact habsent ((hsame endpoint).mpr hlisted)

theorem vanished_eq_nil : conference.vanished entries = [] := by
  rw [vanished, List.filter_eq_nil_iff]
  intro entry hentry
  simpa using (hsame entry.1).mp (List.mem_map_of_mem hentry)

end Same

theorem regroups_bringUp (newcomers : List Newcomer) (conference : Conference) :
    conference.Regroups (conference.bringUp newcomers) := by
  rw [Regroups, roster_bringUp]
  exact bringUp_eq newcomers conference

theorem regroups_keep (listed : List Endpoint) (conference : Conference) :
    conference.Regroups (conference.keep listed) := by
  rw [Regroups, keep, dismantle_eq]

end Conference

namespace Entered

variable {before : Conference} {done : List Snapshot} {walk : Walk}

theorem getElem?_bringUp (h : Entered before done walk) (hbefore : before.Coherent)
    {endpoint : Endpoint} {number : Nat} {participant : Participant}
    (hmem : (endpoint, number) ∈ before.roster.entries)
    (hparticipant : before.participants[number]? = some participant) :
    (walk.scene.conference.bringUp walk.newcomers).participants[number]? =
      some (participant.heard (Snapshot.reports endpoint done)) := by
  have hold : number ∉ walk.newcomers.map (·.number) := by
    rw [h.numbers, List.mem_range'_1]
    have hlt := number_lt hbefore hmem
    omega
  rw [Conference.getElem?_bringUp_of_not_mem hold]
  exact h.known endpoint number participant hmem hparticipant

end Entered

structure Proceeds (before : Conference) (done : List Snapshot) (walk : Walk) : Prop
    extends Entered before done walk where
  regroups : before.Regroups walk.scene.conference

namespace Proceeds

variable {before : Conference} {done : List Snapshot} {walk : Walk}

theorem enter (h : Proceeds before done walk) (hbefore : before.Coherent) {react : React}
    (hidle : ∀ scene, react [] scene = scene) (entry : Snapshot) :
    Proceeds before (done ++ [entry]) (walk.enterWith react entry) := by
  refine ⟨h.toEntered.enter hbefore hidle entry, h.regroups.trans ?_⟩
  cases hknown : walk.knows entry.endpoint with
  | true =>
      rw [Walk.enterWith_of_known h.stillOpen react hknown]
      exact .refl _
  | false =>
      cases hinsert : walk.scene.conference.roster.insertIfAbsent entry.endpoint
          walk.scene.conference.participants.length with
      | present number =>
          rw [Walk.enterWith_of_present h.stillOpen react hknown hinsert,
            Scene.callParticipant_update, Scene.conference_operate]
          rfl
      | stored roster =>
          rw [Walk.enterWith_of_absent h.stillOpen react hknown hinsert, Scene.enrollWith,
            Scene.nextCalls_of_silent h.silent, hidle]
          rfl

theorem foldl (h : Proceeds before done walk) (hbefore : before.Coherent) {react : React}
    (hidle : ∀ scene, react [] scene = scene) (entries : List Snapshot) :
    Proceeds before (done ++ entries) (entries.foldl (Walk.enterWith react) walk) :=
  Walk.foldl_enterWith (fun h entry => h.enter hbefore hidle entry) h entries

end Proceeds

theorem Roster.isEmpty_eq {roster : Roster Nat} {entries : List Snapshot}
    (h : ∀ endpoint, endpoint ∈ roster.endpoints ↔ endpoint ∈ entries.map (·.endpoint)) :
    roster.isEmpty = entries.isEmpty := by
  rw [Bool.eq_iff_iff, Roster.isEmpty, List.isEmpty_iff, List.isEmpty_iff]
  constructor
  · intro hroster
    rw [← List.map_eq_nil_iff (f := Snapshot.endpoint), List.eq_nil_iff_forall_not_mem]
    intro endpoint hlisted
    have hmem := (h endpoint).mpr hlisted
    rw [Roster.endpoints, hroster] at hmem
    cases hmem
  · rintro rfl
    rw [← List.map_eq_nil_iff (f := Prod.fst), List.eq_nil_iff_forall_not_mem]
    exact fun endpoint hmem => List.not_mem_nil ((h endpoint).mp hmem)

theorem Reconciles.isEmpty_eq {before after : Conference} {entries : List Snapshot}
    {result : Reconciliation} (h : Reconciles before after entries result)
    (hsame : result.membershipChanged = false) : before.roster.isEmpty = entries.isEmpty := by
  obtain ⟨hadded, hremoved⟩ : result.added = [] ∧ result.removed = [] := by
    simpa [Reconciliation.membershipChanged] using hsame
  apply Roster.isEmpty_eq
  intro endpoint
  constructor
  · intro hmem
    by_contra hmissing
    have hgone := (h.removed.2 endpoint).mpr ⟨hmem, hmissing⟩
    rw [hremoved] at hgone
    cases hgone
  · intro hlisted
    by_contra habsent
    have hnew := Conference.mem_newEndpoints.mpr ⟨hlisted, habsent⟩
    rw [← h.added, hadded] at hnew
    cases hnew

namespace Scene

/-- A conference that somebody holds, as each request leaves it behind, and that nobody will call
back. -/
structure Receptive (scene : Scene) : Prop extends Calm scene where
  stillOpen : scene.conference.tornDown = false
  coherent : scene.conference.Coherent
  synced : scene.conference.Synced
  initial : scene.conference.config.initialState ≠ .disconnected

def walkThrough (entries : List Snapshot) (scene : Scene) : Walk :=
  entries.foldl (Walk.enterWith (reactAt scene.register.length)) { scene }

def kept (entries : List Snapshot) (scene : Scene) : Scene :=
  (scene.walkThrough entries).bringUp.keep (scene.walkThrough entries).reported

namespace Receptive

variable {scene : Scene} (h : scene.Receptive) (entries : List Snapshot)

include h

theorem start : Proceeds scene.conference [] { scene } :=
  ⟨.start h.silent h.held h.stillOpen h.coherent, .refl _⟩

theorem proceeds : Proceeds scene.conference entries (scene.walkThrough entries) :=
  h.start.foldl h.coherent (reactAt_nil _) entries

theorem reconcile_eq : scene.reconcile entries =
    (scene.walkThrough entries).finish (scene.walkThrough entries).bringUp := by
  have hwalk := h.proceeds entries
  have hstill : (scene.walkThrough entries).bringUp.conference.tornDown = false := by
    rw [Walk.conference_bringUp hwalk.held, (Conference.frame_bringUp _ _).tornDown]
    exact hwalk.stillOpen
  simp only [walkThrough] at hstill ⊢
  simp only [reconcile, reconcileWith, h.stillOpen, hstill, Bool.false_eq_true, if_false]

theorem reconciles : Reconciles scene.conference (scene.reconcile entries).1.conference entries
    (scene.reconcile entries).2 :=
  reconciles_reconcile h.held h.stillOpen h.silent h.coherent h.initial entries

theorem conference_kept : (scene.kept entries).conference =
    ((scene.walkThrough entries).scene.conference.bringUp
      (scene.walkThrough entries).newcomers).keep (scene.walkThrough entries).reported := by
  rw [kept, conference_keep, Walk.conference_bringUp (h.proceeds entries).held]

theorem regroups_kept : scene.conference.Regroups (scene.kept entries).conference := by
  rw [h.conference_kept]
  exact (h.proceeds entries).regroups.trans <|
    (Conference.regroups_bringUp _ _).trans (Conference.regroups_keep _ _)

theorem isEmpty_kept : (scene.kept entries).conference.roster.isEmpty = entries.isEmpty := by
  have hreconciles := h.reconciles entries
  rw [h.reconcile_eq] at hreconciles
  rw [kept, conference_keep, ← (Walk.conference_finish _ _).1]
  exact Roster.isEmpty_eq hreconciles.endpoints

/-- The right to manage is looked over in the end, unless nobody came or left; then it fits. -/
theorem eq_refreshManage_or : ∃ notice,
    (scene.reconcile entries).1 = (scene.kept entries).refreshManage.note notice ∨
      (scene.kept entries).conference.Synced ∧
        (scene.reconcile entries).1 = (scene.kept entries).note notice := by
  have hreconciles := h.reconciles entries
  rw [h.reconcile_eq] at hreconciles ⊢
  obtain ⟨notice, hnotice⟩ :=
    (scene.walkThrough entries).exists_finish (scene.walkThrough entries).bringUp
  refine ⟨notice, ?_⟩
  rw [hnotice]
  split
  · exact .inl rfl
  · rename_i hsame
    refine .inr ⟨?_, rfl⟩
    rw [Conference.Synced, h.isEmpty_kept, ← hreconciles.isEmpty_eq (Bool.eq_false_iff.mpr hsame),
      h.regroups_kept entries]
    exact h.synced

theorem conference_reconcile :
    (scene.reconcile entries).1.conference = (scene.kept entries).conference.refreshManage := by
  obtain ⟨notice, hfinish | ⟨hsynced, hfinish⟩⟩ := h.eq_refreshManage_or entries
  · rw [hfinish, conference_note, conference_refreshManage]
  · rw [hfinish, conference_note, Conference.refreshManage]
    exact (if_pos hsynced).symm

theorem regroups_reconcile :
    let after := (scene.reconcile entries).1.conference
    after = { scene.conference with
      roster := after.roster
      participants := after.participants
      capabilities := after.capabilities } := by
  dsimp only
  rw [h.conference_reconcile, Conference.refreshManage]
  split <;> rw [h.regroups_kept entries]

theorem capabilities_reconcile : (scene.reconcile entries).1.conference.capabilities =
    if scene.conference.roster.isEmpty = entries.isEmpty then scene.conference.capabilities
    else scene.conference.capabilities.set .manageConference (!entries.isEmpty) := by
  have hsame : (scene.kept entries).conference.capabilities = scene.conference.capabilities := by
    rw [h.regroups_kept entries]
  rw [h.conference_reconcile, Conference.refreshManage, hsame, h.isEmpty_kept, h.synced]
  simp only [Bool.not_inj_iff]
  split
  · exact hsame
  · rfl

/-- The next list finds the conference as this one did. -/
theorem reconcile : (scene.reconcile entries).1.Receptive := by
  have hreach : Reaches scene (scene.reconcile entries).1 := reaches_run [.reconcile entries] scene
  obtain ⟨-, hcalm⟩ := sparesHost_reconcileWith (reactAt_nil _) h.toCalm entries
  refine ⟨hcalm, ?_, (Reaches.evolves hreach h.held).coherent h.coherent,
    synced_reconcileWith h.synced _ entries, ?_⟩
  · rw [h.regroups_reconcile]
    exact h.stillOpen
  · rw [h.regroups_reconcile]
    exact h.initial

/-! Everyone who ever took part. -/

variable {entries : List Snapshot} {number : Nat} {participant : Participant}

theorem participant?_of_listed
    (hparticipant : scene.participant? number = some participant)
    (hmem : (participant.endpoint, number) ∈ scene.conference.roster.entries)
    (hlisted : participant.endpoint ∈ entries.map (·.endpoint)) :
    (scene.reconcile entries).1.participant? number =
      some (participant.heard (Snapshot.reports participant.endpoint entries)) :=
  ((h.reconciles entries).known _ _ _ (Roster.get?_eq_some_iff.mpr hmem) hparticipant hlisted).2

theorem participant?_of_vanished
    (hparticipant : scene.participant? number = some participant)
    (hmem : (participant.endpoint, number) ∈ scene.conference.roster.entries)
    (hmissing : participant.endpoint ∉ entries.map (·.endpoint)) :
    (scene.reconcile entries).1.participant? number = some participant.dismantled := by
  have hwalk := h.proceeds entries
  have hbrought := hwalk.getElem?_bringUp h.coherent hmem hparticipant
  have hleaves : number ∈ (((scene.walkThrough entries).scene.conference.bringUp
      (scene.walkThrough entries).newcomers).roster.splitBy
        (scene.walkThrough entries).reported).2.map Prod.snd := by
    rw [Conference.roster_bringUp, hwalk.leaving_eq]
    exact List.mem_map_of_mem (List.mem_filter.mpr ⟨hmem, by simpa using hmissing⟩)
  rw [participant?, h.conference_reconcile, Conference.participants_refreshManage,
    h.conference_kept, Conference.keep, Conference.getElem?_dismantle, hbrought, Option.map_some,
    if_pos hleaves, Snapshot.reports_eq_nil hmissing]
  rfl

theorem participant?_of_gone
    (hparticipant : scene.participant? number = some participant)
    (hgone : (participant.endpoint, number) ∉ scene.conference.roster.entries) :
    (scene.reconcile entries).1.participant? number = some participant := by
  have hreach : Reaches scene (scene.reconcile entries).1 := reaches_run [.reconcile entries] scene
  obtain ⟨later, hlater, hundergoes⟩ :=
    (Reaches.evolves hreach h.held).undergoes number participant hparticipant
  rw [participant?, hlater,
    hundergoes.eq_of_isGone (h.coherent.unlisted number participant hparticipant hgone)]

theorem participant?_reconcile (hparticipant : scene.participant? number = some participant) :
    (scene.reconcile entries).1.participant? number =
      some (if (participant.endpoint, number) ∈ scene.conference.roster.entries then
        if participant.endpoint ∈ entries.map (·.endpoint) then
          participant.heard (Snapshot.reports participant.endpoint entries)
        else participant.dismantled
      else participant) := by
  split
  · rename_i hmem
    split
    · rename_i hlisted
      exact h.participant?_of_listed hparticipant hmem hlisted
    · rename_i hmissing
      exact h.participant?_of_vanished hparticipant hmem hmissing
  · rename_i hgone
    exact h.participant?_of_gone hparticipant hgone

/-- Those who take part afterwards are listed. Whoever took part before has heard the list; whoever
is new came with the first entry and is in the state listed last. -/
theorem member?_reconcile (endpoint : Endpoint) :
    (scene.reconcile entries).1.conference.member? endpoint =
      (entries.find? (·.endpoint = endpoint)).map fun first =>
        (scene.conference.member? endpoint).elim
          { Participant.ofSnapshot first scene.conference.config.initialState with
            state := ((Snapshot.reports endpoint entries).getLast?).getD first.state }
          (·.heard (Snapshot.reports endpoint entries)) := by
  by_cases hlisted : endpoint ∈ entries.map (·.endpoint)
  · obtain ⟨first, hfirst⟩ := Snapshot.exists_first hlisted
    rw [hfirst, Option.map_some]
    by_cases hknown : endpoint ∈ scene.conference.roster.endpoints
    · obtain ⟨number, participant, hmem, hparticipant, hmember⟩ := h.coherent.exists_member hknown
      obtain ⟨hnumber, hheard⟩ := (h.reconciles entries).known _ _ _
        (Roster.get?_eq_some_iff.mpr hmem) hparticipant hlisted
      rw [hmember, Conference.member?_eq_some (Roster.get?_eq_some_iff.mp hnumber) hheard,
        Option.elim_some]
    · obtain ⟨last, hlast⟩ := Snapshot.exists_last hlisted
      obtain ⟨number, -, hnumber, hcreated⟩ := (h.reconciles entries).fresh _ _ _
        (Roster.get?_eq_none_iff.mpr hknown) hfirst hlast
      rw [Conference.member?_eq_none hknown, hlast,
        Conference.member?_eq_some (Roster.get?_eq_some_iff.mp hnumber) hcreated, Option.elim_none,
        Option.getD_some]
  · have hnone : entries.find? (·.endpoint = endpoint) = none := by
      rw [List.find?_eq_none]
      intro entry hentry heq
      exact hlisted (List.mem_map.mpr ⟨entry, hentry, by simpa using heq⟩)
    rw [hnone, Conference.member?_eq_none fun hmem =>
      hlisted (((h.reconciles entries).endpoints endpoint).mp hmem)]
    rfl

theorem stateAt?_reconcile {endpoint : Endpoint} {last : ConnectionState}
    (hlast : (Snapshot.reports endpoint entries).getLast? = some last) :
    (scene.reconcile entries).1.conference.stateAt? endpoint =
      some ((scene.conference.stateAt? endpoint).elim last
        fun state => state.after (Snapshot.reports endpoint entries)) := by
  have hlisted : endpoint ∈ entries.map (·.endpoint) := by
    by_contra hmissing
    rw [Snapshot.reports_eq_nil hmissing] at hlast
    cases hlast
  obtain ⟨first, hfirst⟩ := Snapshot.exists_first hlisted
  rw [Conference.stateAt?_eq_map, h.member?_reconcile, hfirst, Conference.stateAt?_eq_map, hlast]
  cases scene.conference.member? endpoint <;> rfl

theorem roster_reconcile (hsame : ∀ endpoint, endpoint ∈ scene.conference.roster.endpoints ↔
    endpoint ∈ entries.map (·.endpoint)) :
    (scene.reconcile entries).1.conference.roster = scene.conference.roster := by
  have hwalk := h.proceeds entries
  have hnobody : (scene.walkThrough entries).newcomers = [] := by
    rw [← List.map_eq_nil_iff (f := Newcomer.endpoint), hwalk.endpoints,
      Conference.newEndpoints_eq_nil hsame]
  have hentries := hwalk.roster
  rw [hnobody, List.map_nil, List.append_nil] at hentries
  rw [h.conference_reconcile, Conference.roster_refreshManage, h.conference_kept,
    Conference.roster_keep, Conference.roster_bringUp]
  apply Roster.eq_of_entries
  refine (List.filter_eq_self.mpr ?_).trans hentries
  intro entry hentry
  rw [hentries] at hentry
  rw [decide_eq_true_iff, hwalk.reported, ← hsame]
  exact List.mem_map_of_mem hentry

end Receptive

variable {id : ConferenceId} {config : ConferenceConfig} {handle : Handle} {start : Scene}

/-- Whatever happened before, new participants start in a state in which nobody talks and nobody
has gone. -/
theorem initialState_run (hopen : openOver? id config handle = .ok start)
    (requests : List Request) :
    let initial := (start.run requests).conference.config.initialState
    initial ≠ .active ∧ initial ≠ .disconnected := by
  obtain ⟨-, hvalid⟩ := eq_openOver_of_openOver? hopen
  obtain ⟨-, -, hinitial⟩ := ConferenceConfig.validate_eq_ok_iff.mp hvalid
  rw [(evolves_run hopen requests).continues.config]
  exact hinitial

theorem receptive_run (hopen : openOver? id config handle = .ok start) (requests : List Request)
    (hstill : (start.run requests).conference.tornDown = false)
    (hsilent : Silent (start.run requests).register) : (start.run requests).Receptive where
  silent := hsilent
  held := dropped_run hopen requests
  stillOpen := hstill
  coherent := coherent_run hopen requests
  synced := by
    obtain ⟨rfl, -⟩ := eq_openOver_of_openOver? hopen
    have hstart : (openOver id config handle).conference.Synced := Capabilities.can_afterTurns 0
    exact synced_run rfl hstart requests
  initial := (initialState_run hopen requests).2

end Scene

end ConferenceBridge
