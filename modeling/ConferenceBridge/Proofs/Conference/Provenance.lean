import ConferenceBridge.Proofs.Conference.Publication
import ConferenceBridge.Proofs.Conference.Separation
import ConferenceBridge.Proofs.Conference.Transcript
import Mathlib

namespace ConferenceBridge

/-! Where the endpoints in a conference come from. Whoever is on the roster was handed over under
that endpoint, and as long as nobody calls back, whoever is handed over was listed before. -/

def HostEvent.endpoints : HostEvent → List Endpoint
  | participantsChanged entries => entries.map (·.endpoint)
  | _ => []

def Request.endpoints : Request → List Endpoint
  | event reported => reported.endpoints
  | queue events => events.flatMap HostEvent.endpoints
  | reconcile entries => entries.map (·.endpoint)
  | _ => []

namespace Conference

variable {conference : Conference} {earlier entries : List Snapshot} {publication : Publication}

theorem listed_of_mem_walkTranscript
    (h : .published publication ∈ conference.walkTranscript earlier entries) :
    publication.endpoint ∈ entries.map (·.endpoint) := by
  induction entries generalizing earlier with
  | nil => cases h
  | cons entry entries ih =>
      rw [walkTranscript, List.mem_append] at h
      rw [List.map_cons, List.mem_cons]
      rcases h with hfirst | hlater
      · left
        unfold entryTranscript at hfirst
        split at hfirst
        · cases Effect.eq_of_mem_ofStates hfirst
        · split at hfirst
          · cases hfirst
          · rw [List.mem_pair] at hfirst
            rcases hfirst with hcomes | htold
            · cases hcomes
              rfl
            · cases htold
      · exact .inr (ih hlater)

theorem listed_of_mem_transcript {leaving : List (Endpoint × Nat)}
    (h : .published publication ∈ conference.transcript entries leaving) :
    publication.endpoint ∈ entries.map (·.endpoint) := by
  rw [transcript, List.append_assoc, List.append_assoc, List.mem_append] at h
  rcases h with hwalk | hafter
  · exact listed_of_mem_walkTranscript hwalk
  · rw [← List.append_assoc] at hafter
    cases unpublished_after_walk hafter

end Conference

namespace Scene

variable {scene next : Scene}

theorem publications_eq_outward (scene : Scene) :
    scene.publications = scene.outward.filterMap Effect.publication? := by
  rw [publications, outward, List.filterMap_filter]
  congr 1
  funext effect
  cases effect <;> rfl

theorem publications_note (notice : ConferenceNotice) (scene : Scene) :
    (scene.note notice).publications = scene.publications := by
  rw [publications_eq_outward, outward_note, publications_eq_outward]

/-- Everyone who is handed over on the way is listed in the meantime. -/
def Admits (listed : List Endpoint) (scene next : Scene) : Prop :=
  ∀ publication ∈ next.publications,
    publication ∈ scene.publications ∨ publication.endpoint ∈ listed

theorem Admits.of_eq (h : next.publications = scene.publications) (listed : List Endpoint) :
    scene.Admits listed next :=
  fun _ hmem => .inl (h ▸ hmem)

theorem Admits.trans {middle : Scene} {first second : List Endpoint}
    (hfirst : scene.Admits first middle) (hsecond : middle.Admits second next) :
    scene.Admits (first ++ second) next := by
  intro publication hmem
  rcases hsecond publication hmem with hbefore | hlisted
  · exact (hfirst publication hbefore).imp_right (List.mem_append_left _)
  · exact .inr (List.mem_append_right _ hlisted)

theorem beats_process {event : HostEvent} (h : event.isListing = false) (scene : Scene) :
    Beats scene (scene.process event) := by
  have hnoted : ∀ notice, (Effect.noted (.conference notice)).isRemark = true →
      Beats scene (scene.note notice) :=
    fun notice hremark => .single (.act (.remark _ hremark))
  unfold process processWith
  split
  · exact hnoted _ rfl
  · cases event with
    | stateChanged code =>
        simp only
        split
        · exact hnoted _ rfl
        · exact .trans (.single (.act (.setHost _))) (beats_applyHostState _ _)
    | disconnected cause => exact beats_setDisconnected _ scene
    | destroyed => exact (hnoted _ rfl).trans (beats_tearDown _)
    | participantsChanged entries => cases h

theorem Receptive.admits_reconcile (h : scene.Receptive) (entries : List Snapshot) :
    scene.Admits (entries.map (·.endpoint)) (scene.reconcile entries).1 := by
  intro publication hmem
  rw [publications_eq_outward, h.outward_reconcile, List.filterMap_append, List.mem_append,
    ← publications_eq_outward] at hmem
  refine hmem.imp_right fun hnew => ?_
  obtain ⟨effect, heffect, hpublished⟩ := List.mem_filterMap.mp hnew
  cases effect with
  | published other =>
      cases hpublished
      exact Conference.listed_of_mem_transcript heffect
  | _ => cases hpublished

theorem Receptive.note (h : scene.Receptive) (notice : ConferenceNotice) :
    (scene.note notice).Receptive :=
  ⟨⟨h.silent, h.held⟩, h.stillOpen, h.coherent, h.synced, h.initial⟩

theorem publications_eq_of_untouched (h : scene.Recorded) (hnext : next.Recorded)
    (huntouched : scene.Untouched next) : next.publications = scene.publications := by
  obtain ⟨told, heffects⟩ := huntouched.advances.effects_grow
  have happend : next.publications = scene.publications ++ told.filterMap Effect.publication? := by
    rw [publications, ← heffects, List.filterMap_append, publications]
  have hcount : next.publications.length = scene.publications.length := by
    rw [hnext, h, huntouched.conference]
  rw [happend, List.length_append, Nat.add_eq_left, List.length_eq_zero_iff] at hcount
  rw [happend, hcount, List.append_nil]

variable {id : ConferenceId} {config : ConferenceConfig} {handle : Handle} {start : Scene}

theorem recorded_run (hopen : openOver? id config handle = .ok start) (requests : List Request) :
    (start.run requests).Recorded := by
  obtain ⟨rfl, -⟩ := eq_openOver_of_openOver? hopen
  exact (reaches_run requests _).recorded (recorded_openOver id config handle)

section Quiet

variable (hopen : openOver? id config handle = .ok start) (hidle : handle.Idle)
  {requests : List Request}

include hopen hidle

theorem still_run (hquiet : ∀ request ∈ requests, request.Quiet) : (start.run requests).Still :=
  (still_openOver hopen hidle).1.run hquiet

theorem admits_process (hquiet : ∀ request ∈ requests, request.Quiet) (event : HostEvent) :
    (start.run requests).Admits event.endpoints ((start.run requests).process event) := by
  cases hlisting : event.isListing with
  | false => exact .of_eq (beats_process hlisting _).publications_eq _
  | true =>
      cases event with
      | participantsChanged entries =>
          cases htorn : (start.run requests).conference.tornDown with
          | true =>
              rw [process_of_tornDown htorn]
              exact .of_eq (publications_note _ _) _
          | false =>
              have hreceptive := receptive_run hopen requests htorn
                (still_run hopen hidle hquiet).silent
              have hlisted := (hreceptive.note (.listReceived entries.length)).admits_reconcile
                entries
              intro publication hmem
              simp only [process, processWith, htorn, Bool.false_eq_true, if_false] at hmem
              exact (hlisted publication hmem).imp_left (publications_note _ _ ▸ ·)
      | _ => cases hlisting

theorem admits_processQueue (hquiet : ∀ request ∈ requests, request.Quiet)
    (events : List HostEvent) :
    (start.run requests).Admits (events.flatMap HostEvent.endpoints)
      ((start.run requests).processQueue events) := by
  induction events generalizing requests with
  | nil => exact .of_eq (publications_note _ _) _
  | cons event events ih =>
      have hfirst := admits_process hopen hidle hquiet event
      have hserved :
          (start.run requests).process event = start.run (requests ++ [.event event]) := by
        rw [run_append]
        rfl
      simp only [processQueue]
      split
      · exact hfirst.trans (.of_eq (publications_note _ _) _)
      · refine hfirst.trans ?_
        rw [hserved]
        refine ih fun request hrequest => ?_
        rw [List.mem_append, List.mem_singleton] at hrequest
        rcases hrequest with hearlier | rfl
        · exact hquiet request hearlier
        · trivial

theorem admits_serve (hquiet : ∀ request ∈ requests, request.Quiet) (request : Request) :
    (start.run requests).Admits request.endpoints ((start.run requests).serve request) := by
  have hstill := still_run hopen hidle hquiet
  cases request with
  | event event => exact admits_process hopen hidle hquiet event
  | queue events => exact admits_processQueue hopen hidle hquiet events
  | hostState state => exact .of_eq (beats_applyHostState state _).publications_eq _
  | reconcile entries =>
      cases htorn : (start.run requests).conference.tornDown with
      | true =>
          rw [serve, reconcile_of_tornDown htorn]
          exact .of_eq (publications_note _ _) _
      | false => exact (receptive_run hopen requests htorn hstill.silent).admits_reconcile entries
  | action action =>
      have hacted := recorded_run hopen (requests ++ [.action action])
      rw [run_append] at hacted
      exact .of_eq (publications_eq_of_untouched (recorded_run hopen requests) hacted
        (untouched_act _ hstill.idle action)) _
  | participant number call => exact .of_eq (beats_callParticipant number call _).publications_eq _
  | handleChanged handle => exact .of_eq rfl _
  | registerChanged register => exact .of_eq rfl _

theorem listed_of_mem_publications (hquiet : ∀ request ∈ requests, request.Quiet)
    {publication : Publication} (hmem : publication ∈ (start.run requests).publications) :
    publication.endpoint ∈ requests.flatMap Request.endpoints := by
  induction requests using List.reverseRecOn generalizing publication with
  | nil =>
      obtain ⟨rfl, -⟩ := eq_openOver_of_openOver? hopen
      cases hmem
  | append_singleton requests request ih =>
      have hearlier : ∀ other ∈ requests, other.Quiet :=
        fun other hother => hquiet other (List.mem_append_left _ hother)
      rw [List.flatMap_append, List.flatMap_singleton, List.mem_append]
      rw [run_append] at hmem
      exact (admits_serve hopen hidle hearlier request publication hmem).imp_left (ih hearlier)

end Quiet

theorem introduces_run (hopen : openOver? id config handle = .ok start) (requests : List Request) :
    (start.run requests).Introduces := by
  obtain ⟨rfl, -⟩ := eq_openOver_of_openOver? hopen
  refine (reaches_run requests _).introduces ⟨fun participant hmem => ?_, ?_⟩
  · cases hmem
  intro before change after endpoint heffects
  have hmem : .changed change ∈ (openOver id config handle).effects := by simp [heffects]
  simp [openOver, noteHost, note, record, Scene.effects] at hmem

/-- Whoever is on the roster was handed over, whatever happened. -/
theorem exists_publication_of_mem_roster (hopen : openOver? id config handle = .ok start)
    (requests : List Request) {endpoint : Endpoint}
    (h : endpoint ∈ (start.run requests).conference.roster.endpoints) :
    ∃ publication ∈ (start.run requests).publications, publication.endpoint = endpoint := by
  obtain ⟨⟨_, number⟩, hentry, rfl⟩ := List.mem_map.mp h
  obtain ⟨participant, hparticipant, hendpoint, -⟩ :=
    (coherent_run hopen requests).listed _ number hentry
  have hhanded := (introduces_run hopen requests).participants participant
    (List.mem_of_getElem? hparticipant)
  obtain ⟨effect, heffect, hany⟩ := List.countP_pos_iff.mp hhanded
  cases hpublished : effect.publication? with
  | none => simp [hpublished] at hany
  | some publication =>
      refine ⟨publication, List.mem_filterMap.mpr ⟨effect, heffect, hpublished⟩, ?_⟩
      simpa [hpublished, hendpoint] using hany

def met (scene : Scene) : List Endpoint :=
  scene.conference.roster.endpoints ++ scene.publications.map (·.endpoint)

theorem listed_of_mem_met (hopen : openOver? id config handle = .ok start) (hidle : handle.Idle)
    {requests : List Request} (hquiet : ∀ request ∈ requests, request.Quiet) {endpoint : Endpoint}
    (hmet : endpoint ∈ (start.run requests).met) :
    endpoint ∈ requests.flatMap Request.endpoints := by
  rw [met, List.mem_append] at hmet
  obtain ⟨publication, hmem, rfl⟩ : ∃ publication ∈ (start.run requests).publications,
      publication.endpoint = endpoint := by
    rcases hmet with hroster | hpublished
    · exact exists_publication_of_mem_roster hopen requests hroster
    · exact List.mem_map.mp hpublished
  exact listed_of_mem_publications hopen hidle hquiet hmem

end Scene

end ConferenceBridge
