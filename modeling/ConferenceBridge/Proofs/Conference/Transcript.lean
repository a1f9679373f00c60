import ConferenceBridge.Proofs.Conference.Outcome
import ConferenceBridge.Proofs.Conference.Outward
import Mathlib.Data.List.Nodup

namespace ConferenceBridge

/-! All that is seen of a reconcile that nobody interrupts, one thing after the other. It is read
off the conference as it was before, and the list. -/

namespace Conference

def arrival (earlier : List Snapshot) (entry : Snapshot) (conference : Conference) :
    Publication where
  number := conference.participants.length + (conference.newEndpoints earlier).length
  account := .forPhone conference.host.phone
  endpoint := entry.endpoint
  state := conference.config.initialState
  displayName := entry.displayName

/-- An entry, after the earlier ones: whoever took part before follows it at once, and whoever is
new comes with the first. -/
def entryTranscript (conference : Conference) (earlier : List Snapshot) (entry : Snapshot) :
    List Effect :=
  match conference.stateAt? entry.endpoint with
  | some state =>
      let state := state.after (Snapshot.reports entry.endpoint earlier)
      Effect.ofStates entry.endpoint state (state.hear entry.state)
  | none =>
      if entry.endpoint ∈ earlier.map (·.endpoint) then []
      else
        [.published (conference.arrival earlier entry), .changed (.participantAdded entry.endpoint)]

def walkTranscript (conference : Conference) : (earlier entries : List Snapshot) → List Effect
  | _, [] => []
  | earlier, entry :: entries =>
      conference.entryTranscript earlier entry ++
        conference.walkTranscript (earlier ++ [entry]) entries

def bringUpTranscript (conference : Conference) (entries : List Snapshot) : List Effect :=
  (conference.newEndpoints entries).flatMap fun endpoint =>
    (Snapshot.reports endpoint entries).getLast?.elim []
      (Effect.ofStates endpoint conference.config.initialState)

def leaveTranscript (conference : Conference) (leaving : List (Endpoint × Nat)) : List Effect :=
  leaving.flatMap fun entry =>
    .changed (.participantRemoved entry.1) ::
      if (conference.participants[entry.2]?.bind Participant.cause).isSome then []
      else [.changed (.participantDisconnected entry.1 .aborted)]

def manageTranscript (conference : Conference) (entries : List Snapshot) : List Effect :=
  if conference.roster.isEmpty = entries.isEmpty then []
  else
    [.changed (.capabilities
      (conference.capabilities.set .manageConference (!entries.isEmpty)))]

def transcript (conference : Conference) (entries : List Snapshot)
    (leaving : List (Endpoint × Nat)) : List Effect :=
  conference.walkTranscript [] entries ++ conference.bringUpTranscript entries ++
    conference.leaveTranscript leaving ++ conference.manageTranscript entries

theorem walkTranscript_concat (conference : Conference) (earlier entries : List Snapshot)
    (entry : Snapshot) :
    conference.walkTranscript earlier (entries ++ [entry]) =
      conference.walkTranscript earlier entries ++
        conference.entryTranscript (earlier ++ entries) entry := by
  induction entries generalizing earlier with
  | nil => simp [walkTranscript]
  | cons first entries ih =>
      rw [List.cons_append, walkTranscript, ih, walkTranscript]
      simp only [List.append_assoc, List.singleton_append]

theorem entryTranscript_of_known {conference : Conference} {entry : Snapshot}
    {state : ConnectionState} (h : conference.stateAt? entry.endpoint = some state)
    (earlier : List Snapshot) :
    conference.entryTranscript earlier entry =
      Effect.ofStates entry.endpoint (state.after (Snapshot.reports entry.endpoint earlier))
        ((state.after (Snapshot.reports entry.endpoint earlier)).hear entry.state) := by
  rw [entryTranscript, h]

theorem entryTranscript_of_again {conference : Conference} {earlier : List Snapshot}
    {entry : Snapshot} (h : entry.endpoint ∈ conference.newEndpoints earlier) :
    conference.entryTranscript earlier entry = [] := by
  obtain ⟨hmem, habsent⟩ := mem_newEndpoints.mp h
  rw [entryTranscript, stateAt?_eq_none habsent]
  exact if_pos hmem

theorem leaveTranscript_congr {first second : Conference} {leaving : List (Endpoint × Nat)}
    (h : ∀ entry ∈ leaving, first.participants[entry.2]?.bind Participant.cause =
      second.participants[entry.2]?.bind Participant.cause) :
    first.leaveTranscript leaving = second.leaveTranscript leaving := by
  apply List.flatMap_congr
  intro entry hentry
  rw [h entry hentry]

theorem Coherent.nodup_members {conference : Conference} (h : conference.Coherent) :
    conference.roster.members.Nodup := by
  refine List.Nodup.map_on ?_ conference.roster.nodup.of_map
  rintro ⟨endpoint, number⟩ hfirst ⟨other, same⟩ hsecond rfl
  obtain ⟨participant, hparticipant, rfl, -⟩ := h.listed endpoint number hfirst
  rw [h.endpoint_of_mem hparticipant hsecond]

end Conference

namespace Scene

variable {scene next : Scene}

theorem outward_dismantle {endpoint : Endpoint} {number : Nat} {participant : Participant}
    (h : scene.participant? number = some participant) (hendpoint : participant.endpoint = endpoint)
    (hlive : participant.IsLive) :
    (scene.dismantle (endpoint, number)).outward =
      scene.outward ++ scene.conference.leaveTranscript [(endpoint, number)] := by
  have hunobserved := participant?_operate h .unobserve
  have hdetached := participant?_operate hunobserved .detach
  have hdisconnected := participant?_operate hdetached (.call (.disconnect .aborted))
  rw [dismantle_eq_operate, outward_note, outward_operate hdisconnected, outward_operate hdetached,
    outward_operate hunobserved, outward_operate h, Conference.leaveTranscript]
  have hcause : scene.conference.participants[number]?.bind Participant.cause = participant.cause :=
    congrArg (·.bind Participant.cause) h
  obtain ⟨hdestroyed, hattached, hobserved⟩ := hlive
  cases hfirst : participant.cause <;>
    simp [Participant.perform, Participant.unobserve, Participant.detach, Participant.disconnect,
      Participant.destroy, Participant.unchanged, *]

theorem outward_dismantleAll {leaving : List (Endpoint × Nat)}
    (hlive : ∀ entry ∈ leaving, ∃ participant, scene.participant? entry.2 = some participant ∧
      participant.endpoint = entry.1 ∧ participant.IsLive)
    (hnodup : (leaving.map Prod.snd).Nodup) :
    (scene.dismantleAll leaving).outward =
      scene.outward ++ scene.conference.leaveTranscript leaving := by
  induction leaving generalizing scene with
  | nil => exact (List.append_nil _).symm
  | cons entry leaving ih =>
      rw [List.map_cons, List.nodup_cons] at hnodup
      obtain ⟨participant, hparticipant, hendpoint, hfirst⟩ := hlive entry List.mem_cons_self
      have hothers : ∀ other ∈ leaving,
          (scene.dismantle entry).participant? other.2 = scene.participant? other.2 := by
        intro other hother
        have hne : other.2 ≠ entry.2 := fun heq => hnodup.1 (heq ▸ List.mem_map_of_mem hother)
        rw [participant?, conference_dismantle, Conference.getElem?_modify, participant?]
        simp [hne]
      rw [dismantleAll_cons, ih _ hnodup.2, outward_dismantle hparticipant hendpoint hfirst, List.append_assoc]
      · congr 1
        rw [Conference.leaveTranscript_congr fun other hother =>
          congrArg (·.bind Participant.cause) (hothers other hother)]
        simp [Conference.leaveTranscript]
      · intro other hother
        rw [hothers other hother]
        exact hlive other (List.mem_cons_of_mem _ hother)

end Scene

namespace Walk

/-- Newcomers that are in their initial state leave it one after the other. -/
theorem outward_bringUp {walk : Walk} {initial : ConnectionState}
    (hinitial : initial ≠ .disconnected)
    (hfresh : ∀ newcomer ∈ walk.newcomers, ∃ participant,
      walk.scene.participant? newcomer.number = some participant ∧
        participant.endpoint = newcomer.endpoint ∧ participant.destroyed = false ∧
        participant.state = initial)
    (hnodup : (walk.newcomers.map (·.number)).Nodup) :
    walk.bringUp.outward = walk.scene.outward ++ walk.newcomers.flatMap fun newcomer =>
      Effect.ofStates newcomer.endpoint initial newcomer.state := by
  unfold bringUp
  generalize walk.scene = scene, walk.newcomers = newcomers at hfresh hnodup
  induction newcomers generalizing scene with
  | nil => exact (List.append_nil _).symm
  | cons newcomer newcomers ih =>
      rw [List.map_cons, List.nodup_cons] at hnodup
      obtain ⟨participant, hparticipant, hendpoint, hlive, hstate⟩ :=
        hfresh newcomer List.mem_cons_self
      have hopen : initial.hear newcomer.state = newcomer.state := by
        rw [ConnectionState.hear, if_neg]
        simpa [ConnectionState.isFinal] using hinitial
      rw [List.foldl_cons, ih _ _ hnodup.2, Scene.callParticipant_update,
        Scene.outward_operate hparticipant, List.append_assoc]
      · congr 1
        rw [List.flatMap_cons]
        congr 1
        refine (Participant.changes_update hlive _).trans ?_
        rw [hendpoint, hstate, hopen]
      · intro other hother
        have hne : other.number ≠ newcomer.number := fun heq =>
          hnodup.1 (heq ▸ List.mem_map_of_mem hother)
        rw [Scene.callParticipant_update, Scene.participant?, Scene.conference_operate,
          Conference.getElem?_modify, ← Scene.participant?]
        simpa [hne] using hfresh other (List.mem_cons_of_mem _ hother)

/-- A reconcile that has come so far has told this much. -/
structure Recounts (before : Scene) (done : List Snapshot) (walk : Walk) : Prop
    extends Proceeds before.conference done walk where
  told : walk.scene.outward = before.outward ++ before.conference.walkTranscript [] done

namespace Recounts

variable {before : Scene} {done : List Snapshot} {walk : Walk}

theorem start (h : before.Receptive) : Recounts before [] { scene := before } where
  toProceeds := h.start
  told := (List.append_nil _).symm

theorem told_concat (h : Recounts before done walk) {entry : Snapshot} {told : List Effect}
    (htold : told = walk.scene.outward ++ before.conference.entryTranscript done entry) :
    told = before.outward ++ before.conference.walkTranscript [] (done ++ [entry]) := by
  rw [Conference.walkTranscript_concat, List.nil_append, ← List.append_assoc, ← h.told, htold]

theorem entryTranscript_of_absent (h : Recounts before done walk) {entry : Snapshot}
    (habsent : entry.endpoint ∉ walk.scene.conference.roster.endpoints)
    (hnever : entry.endpoint ∉ before.conference.newEndpoints done) :
    before.conference.entryTranscript done entry =
      [.published (walk.scene.publication entry),
        .changed (.participantAdded entry.endpoint)] := by
  have hbefore : entry.endpoint ∉ before.conference.roster.endpoints := by
    intro hmem
    apply habsent
    rw [Roster.endpoints, h.roster, List.map_append]
    exact List.mem_append_left _ hmem
  have hfirst : entry.endpoint ∉ done.map (·.endpoint) := fun hmem =>
    hnever (Conference.mem_newEndpoints.mpr ⟨hmem, hbefore⟩)
  have harrival : before.conference.arrival done entry = walk.scene.publication entry := by
    have hhost : walk.scene.conference.host = before.conference.host := by rw [h.regroups]
    rw [Conference.arrival, Scene.publication, h.count, hhost, h.config, ← h.endpoints,
      List.length_map]
  rw [Conference.entryTranscript, Conference.stateAt?_eq_none hbefore, ← harrival]
  exact if_neg hfirst

theorem enter (h : Recounts before done walk) (hbefore : before.conference.Coherent)
    {react : React} (hidle : ∀ scene, react [] scene = scene) (entry : Snapshot) :
    Recounts before (done ++ [entry]) (walk.enterWith react entry) := by
  have hproceeds := h.toProceeds.enter hbefore hidle entry
  cases hknown : walk.knows entry.endpoint with
  | true =>
      have hnew := (h.knows_iff _).mp hknown
      rw [enterWith_of_known h.stillOpen react hknown] at hproceeds ⊢
      refine ⟨hproceeds, h.told_concat ?_⟩
      rw [Conference.entryTranscript_of_again hnew, List.append_nil]
  | false =>
      have hnever : entry.endpoint ∉ before.conference.newEndpoints done := fun hmem =>
        Bool.false_ne_true (hknown.symm.trans ((h.knows_iff _).mpr hmem))
      cases hinsert : walk.scene.conference.roster.insertIfAbsent entry.endpoint
          walk.scene.conference.participants.length with
      | present number =>
          have hmem := h.mem_before (Roster.present_of_insertIfAbsent hinsert) hnever
          rw [enterWith_of_present h.stillOpen react hknown hinsert] at hproceeds ⊢
          rw [Scene.callParticipant_update] at hproceeds ⊢
          refine ⟨hproceeds, h.told_concat ?_⟩
          obtain ⟨participant, hparticipant, hendpoint, hlive⟩ := hbefore.listed _ _ hmem
          have hheard := h.known _ _ _ hmem hparticipant
          rw [Scene.outward_operate hheard, Conference.entryTranscript_of_known
            (Conference.stateAt?_eq_some hmem hparticipant), ← hendpoint]
          congr 1
          exact @Participant.changes_update (participant.heard _) hlive.destroyed entry.state
      | stored roster =>
          have habsent := (Roster.stored_of_insertIfAbsent hinsert).1
          rw [enterWith_of_absent h.stillOpen react hknown hinsert] at hproceeds ⊢
          rw [Scene.enrollWith, Scene.nextCalls_of_silent h.silent, hidle] at hproceeds ⊢
          refine ⟨hproceeds, h.told_concat ?_⟩
          rw [Scene.outward_announce, Scene.outward_note, Scene.outward_enroll,
            h.entryTranscript_of_absent habsent hnever, List.append_assoc]
          rfl

theorem foldl (h : Recounts before done walk) (hbefore : before.conference.Coherent)
    {react : React} (hidle : ∀ scene, react [] scene = scene) (entries : List Snapshot) :
    Recounts before (done ++ entries) (entries.foldl (Walk.enterWith react) walk) :=
  Walk.foldl_enterWith (fun h entry => h.enter hbefore hidle entry) h entries

/-- The call list is called if an entry brings someone new, and then has nothing to do. -/
theorem visits_eq (h : Recounts before done walk) (hbefore : before.conference.Coherent)
    (entry : Snapshot) :
    (walk.visits entry = [] ∧
      ∀ effect ∈ before.conference.entryTranscript done entry, effect.publication? = none) ∨
    ∃ roster, walk.scene.conference.roster.insertIfAbsent entry.endpoint
        walk.scene.conference.participants.length = .stored roster ∧
      walk.visits entry = [⟨[], walk.scene.enroll entry roster⟩] ∧
      before.conference.entryTranscript done entry =
        [.published (walk.scene.publication entry),
          .changed (.participantAdded entry.endpoint)] := by
  cases hknown : walk.knows entry.endpoint with
  | true =>
      refine .inl ⟨visits_of_known hknown, ?_⟩
      rw [Conference.entryTranscript_of_again ((h.knows_iff _).mp hknown)]
      exact List.forall_mem_nil _
  | false =>
      have hnever : entry.endpoint ∉ before.conference.newEndpoints done := fun hmem =>
        Bool.false_ne_true (hknown.symm.trans ((h.knows_iff _).mpr hmem))
      cases hinsert : walk.scene.conference.roster.insertIfAbsent entry.endpoint
          walk.scene.conference.participants.length with
      | present number =>
          refine .inl ⟨visits_of_present h.stillOpen hknown hinsert, ?_⟩
          have hmem := h.mem_before (Roster.present_of_insertIfAbsent hinsert) hnever
          obtain ⟨participant, hparticipant, -, -⟩ := hbefore.listed _ _ hmem
          rw [Conference.entryTranscript_of_known
            (Conference.stateAt?_eq_some hmem hparticipant)]
          intro effect heffect
          rw [Effect.eq_of_mem_ofStates heffect]
          rfl
      | stored roster =>
          have habsent := (Roster.stored_of_insertIfAbsent hinsert).1
          refine .inr ⟨roster, rfl, ?_, h.entryTranscript_of_absent habsent hnever⟩
          rw [visits_of_absent h.stillOpen hknown hinsert, Scene.nextCalls_of_silent h.silent]

theorem calls_eq_nil (h : Recounts before done walk) (hbefore : before.conference.Coherent)
    {react : React} (hidle : ∀ scene, react [] scene = scene) (entries : List Snapshot) :
    ∀ visit ∈ gather (Walk.enterWith react) Walk.visits entries walk, visit.calls = [] := by
  induction entries generalizing done walk with
  | nil => exact List.forall_mem_nil _
  | cons entry entries ih =>
      rw [gather, List.forall_mem_append]
      refine ⟨?_, ih (h.enter hbefore hidle entry)⟩
      rcases h.visits_eq hbefore entry with ⟨hnone, -⟩ | ⟨roster, -, hone, -⟩
      · rw [hnone]
        exact List.forall_mem_nil _
      · rw [hone]
        exact List.forall_mem_singleton.mpr rfl

theorem exists_visit (h : Recounts before done walk) (hbefore : before.conference.Coherent)
    {react : React} (hidle : ∀ scene, react [] scene = scene) {entries : List Snapshot}
    {earlier later : List Effect} {publication : Publication}
    (hplace : before.conference.walkTranscript done entries =
      earlier ++ .published publication :: later) :
    ∃ visit ∈ gather (Walk.enterWith react) Walk.visits entries walk,
      visit.found.outward = walk.scene.outward ++ (earlier ++ [.published publication]) ∧
      Scene.HandsOver publication visit.found := by
  induction entries generalizing done walk earlier with
  | nil => simp [Conference.walkTranscript] at hplace
  | cons entry entries ih =>
      have hentered := h.enter hbefore hidle entry
      have htold : (walk.enterWith react entry).scene.outward =
          walk.scene.outward ++ before.conference.entryTranscript done entry := by
        rw [hentered.told, h.told, Conference.walkTranscript_concat, List.nil_append,
          List.append_assoc]
      rw [gather]
      rw [Conference.walkTranscript] at hplace
      rcases Effect.place_of_append hplace with ⟨rest, hfirst, -⟩ | ⟨rest, hearlier, hlater⟩
      · rcases h.visits_eq hbefore entry with ⟨-, hnobody⟩ | ⟨roster, hinsert, hone, hbrings⟩
        · have hnever := hnobody (.published publication) (by simp [hfirst])
          cases hnever
        · obtain ⟨rfl, rfl⟩ : earlier = [] ∧ walk.scene.publication entry = publication := by
            rw [hbrings] at hfirst
            cases earlier with
            | nil => exact ⟨rfl, Effect.published.inj (List.cons.inj hfirst).1⟩
            | cons first earlier => simp [List.cons_eq_append_iff] at hfirst
          rw [hone]
          exact ⟨_, List.mem_cons_self, Scene.outward_enroll entry roster walk.scene,
            Scene.handsOver_enroll hinsert⟩
      · obtain ⟨visit, hvisit, hseen, hhands⟩ := ih hentered hlater
        refine ⟨visit, List.mem_append_right _ hvisit, ?_, hhands⟩
        rw [hseen, htold, hearlier]
        simp only [List.append_assoc]

theorem nodup_numbers (h : Recounts before done walk) : (walk.newcomers.map (·.number)).Nodup := by
  rw [h.numbers]
  exact List.nodup_range'

theorem outward_bringUp (h : Recounts before done walk)
    (hinitial : before.conference.config.initialState ≠ .disconnected) :
    walk.bringUp.outward = walk.scene.outward ++ before.conference.bringUpTranscript done := by
  have hlast : before.conference.bringUpTranscript done =
      walk.newcomers.flatMap fun newcomer => Effect.ofStates newcomer.endpoint
        before.conference.config.initialState newcomer.state := by
    rw [Conference.bringUpTranscript, ← h.endpoints, List.flatMap_map]
    apply List.flatMap_congr
    intro newcomer hnewcomer
    rw [(h.fresh newcomer hnewcomer).1, Option.elim_some]
  rw [hlast]
  apply Walk.outward_bringUp hinitial _ h.nodup_numbers
  intro newcomer hnewcomer
  obtain ⟨-, first, hfirst, hcreated⟩ := h.fresh newcomer hnewcomer
  have hendpoint : first.endpoint = newcomer.endpoint := by simpa using List.find?_some hfirst
  exact ⟨_, hcreated, hendpoint, rfl, rfl⟩

theorem outward_keep (h : Recounts before done walk) (hbefore : before.conference.Coherent) :
    (walk.bringUp.keep walk.reported).outward =
      walk.bringUp.outward ++
        before.conference.leaveTranscript (before.conference.vanished done) := by
  have hleaving : (walk.bringUp.conference.roster.splitBy walk.reported).2 =
      before.conference.vanished done := by
    rw [Walk.conference_bringUp h.held, Conference.roster_bringUp, h.leaving_eq]
  have hthere : ∀ entry ∈ before.conference.vanished done, ∃ participant,
      before.participant? entry.2 = some participant ∧
        walk.bringUp.participant? entry.2 =
          some (participant.heard (Snapshot.reports entry.1 done)) ∧
        participant.endpoint = entry.1 ∧ participant.IsLive := by
    intro entry hentry
    have hmem := (List.mem_filter.mp hentry).1
    obtain ⟨participant, hparticipant, hendpoint, hlive⟩ := hbefore.listed entry.1 entry.2 hmem
    refine ⟨participant, hparticipant, ?_, hendpoint, hlive⟩
    rw [Scene.participant?, Walk.conference_bringUp h.held]
    exact h.getElem?_bringUp hbefore hmem hparticipant
  rw [Scene.keep, hleaving, Scene.outward_dismantleAll]
  · congr 1
    apply Conference.leaveTranscript_congr
    intro entry hentry
    obtain ⟨participant, hparticipant, hheard, -⟩ := hthere entry hentry
    rw [Scene.participant?] at hparticipant hheard
    rw [Scene.conference_setRoster, hheard, hparticipant]
    rfl
  · intro entry hentry
    obtain ⟨participant, -, hheard, hendpoint, hlive⟩ := hthere entry hentry
    exact ⟨_, hheard, hendpoint, ⟨hlive.destroyed, hlive.attached, hlive.observed⟩⟩
  · exact hbefore.nodup_members.sublist (List.filter_sublist.map Prod.snd)

theorem told_keep (h : Recounts before done walk) (hbefore : before.Receptive) :
    (walk.bringUp.keep walk.reported).outward =
      before.outward ++ (before.conference.walkTranscript [] done ++
        before.conference.bringUpTranscript done ++
          before.conference.leaveTranscript (before.conference.vanished done)) := by
  rw [h.outward_keep hbefore.coherent, h.outward_bringUp hbefore.initial, h.told]
  simp only [List.append_assoc]

end Recounts

end Walk

namespace Scene

namespace Receptive

variable {scene : Scene} (h : scene.Receptive) (entries : List Snapshot)

include h

theorem recounts : Walk.Recounts scene entries (scene.walkThrough entries) :=
  (Walk.Recounts.start h).foldl h.coherent (reactAt_nil _) entries

theorem outward_eq :
    (scene.reconcile entries).1.outward = (scene.kept entries).refreshManage.outward := by
  obtain ⟨notice, hfinish | ⟨hsynced, hfinish⟩⟩ := h.eq_refreshManage_or entries
  · rw [hfinish, outward_note]
  · rw [hfinish, outward_note, outward_refreshManage]
    exact (if_pos hsynced).symm

/-- All that is seen of a list is its transcript. -/
theorem outward_reconcile : (scene.reconcile entries).1.outward =
    scene.outward ++ scene.conference.transcript entries (scene.conference.vanished entries) := by
  have htold : (scene.kept entries).outward = _ := (h.recounts entries).told_keep h
  have hcapabilities :
      (scene.kept entries).conference.capabilities = scene.conference.capabilities := by
    rw [h.regroups_kept entries]
  rw [h.outward_eq, outward_refreshManage, htold, hcapabilities, h.isEmpty_kept, h.synced,
    Conference.transcript, Conference.manageTranscript]
  simp only [Bool.not_inj_iff]
  split
  · rw [List.append_nil]
  · rw [List.append_assoc]

end Receptive

end Scene

namespace Conference

/-! Where publications stand in a transcript. -/

variable {conference : Conference} {earlier entries : List Snapshot} {endpoint : Endpoint}
  {old next : ConnectionState}

theorem mem_endpoints_of_mem_walkTranscript
    (h : .changed (.participantState endpoint old next) ∈
      conference.walkTranscript earlier entries) : endpoint ∈ conference.roster.endpoints := by
  induction entries generalizing earlier with
  | nil => cases h
  | cons entry entries ih =>
      rw [walkTranscript, List.mem_append] at h
      rcases h with hfirst | hlater
      · by_contra habsent
        unfold entryTranscript at hfirst
        split at hfirst
        · rename_i state hstate
          have hsame := Effect.changed.inj (Effect.eq_of_mem_ofStates hfirst)
          obtain ⟨rfl, -⟩ := Change.participantState.inj hsame
          rw [stateAt?_eq_none habsent] at hstate
          cases hstate
        · split at hfirst <;> simp at hfirst
      · exact ih hlater

theorem unpublished_after_walk {leaving : List (Endpoint × Nat)} {effect : Effect}
    (h : effect ∈ conference.bringUpTranscript entries ++ conference.leaveTranscript leaving ++
      conference.manageTranscript entries) : effect.publication? = none := by
  rw [List.mem_append, List.mem_append] at h
  rcases h with (hstate | hleaves) | hmanage
  · obtain ⟨newcomer, -, hnewcomer⟩ := List.mem_flatMap.mp hstate
    cases hlast : (Snapshot.reports newcomer entries).getLast? with
    | none => simp [hlast] at hnewcomer
    | some last =>
        rw [hlast] at hnewcomer
        rw [Effect.eq_of_mem_ofStates hnewcomer]
        rfl
  · obtain ⟨entry, -, hentry⟩ := List.mem_flatMap.mp hleaves
    rcases List.mem_cons.mp hentry with rfl | hcause
    · rfl
    · split at hcause
      · cases hcause
      · rw [List.mem_singleton.mp hcause]
        rfl
  · unfold manageTranscript at hmanage
    split at hmanage
    · cases hmanage
    · rw [List.mem_singleton.mp hmanage]
      rfl

theorem walkTranscript_of_published {leaving : List (Endpoint × Nat)} {before after : List Effect}
    {publication : Publication}
    (h : conference.transcript entries leaving = before ++ .published publication :: after) :
    ∃ rest, conference.walkTranscript [] entries = before ++ .published publication :: rest := by
  rw [transcript, List.append_assoc, List.append_assoc] at h
  rcases Effect.place_of_append h with ⟨rest, hwalk, -⟩ | ⟨rest, -, hrest⟩
  · exact ⟨rest, hwalk⟩
  · rw [← List.append_assoc] at hrest
    have hnever := unpublished_after_walk (hrest ▸ List.mem_append_right _ List.mem_cons_self)
    cases hnever

/-- Before someone new changes the state, all who are new are handed over. -/
theorem unpublished_after_newcomer {leaving : List (Endpoint × Nat)} {before after : List Effect}
    (h : conference.transcript entries leaving =
      before ++ .changed (.participantState endpoint old next) :: after)
    (habsent : endpoint ∉ conference.roster.endpoints) :
    ∀ effect ∈ after, effect.publication? = none := by
  rw [transcript, List.append_assoc, List.append_assoc] at h
  rcases Effect.place_of_append h with ⟨rest, hwalk, -⟩ | ⟨rest, -, hrest⟩
  · have hmem : .changed (.participantState endpoint old next) ∈
        conference.walkTranscript [] entries := by
      rw [hwalk]
      exact List.mem_append_right _ List.mem_cons_self
    exact absurd (mem_endpoints_of_mem_walkTranscript hmem) habsent
  · intro effect heffect
    have hmem : effect ∈ conference.bringUpTranscript entries ++
        conference.leaveTranscript leaving ++ conference.manageTranscript entries := by
      rw [List.append_assoc, hrest]
      exact List.mem_append_right _ (List.mem_cons_of_mem _ heffect)
    exact unpublished_after_walk hmem

end Conference

namespace Scene

variable {id : ConferenceId} {config : ConferenceConfig} {handle : Handle} {start : Scene}

/-- Whatever happened before, what is seen of a reconcile while nobody calls back is its
transcript, with those who leave in some order. Whoever is handed over is on the roster when the
call list is called, attached and in the state in which participants start; and nobody new leaves
that state before all who are new are handed over. -/
theorem reconcile_transcript (hopen : openOver? id config handle = .ok start)
    (requests : List Request) (entries : List Snapshot) :
    let scene := start.run requests
    let before := scene.conference
    let after := (scene.reconcile entries).1
    let visits := scene.visits (reactAt scene.register.length) entries
    before.tornDown = false → Silent scene.register →
      ∃ leaving, leaving.Perm (before.vanished entries) ∧
        after.outward = scene.outward ++ before.transcript entries leaving ∧
        (∀ earlier publication later,
          before.transcript entries leaving = earlier ++ .published publication :: later →
            publication.state ≠ .active ∧ publication.state ≠ .disconnected ∧
            ∃ moment, ⟨[], moment⟩ ∈ visits ∧ Reaches scene moment ∧ Reaches moment after ∧
              moment.outward = scene.outward ++ (earlier ++ [.published publication]) ∧
              HandsOver publication moment) ∧
        (∀ react : React, (∀ visit ∈ visits, react visit.calls visit.found = visit.found) →
          scene.reconcileWith react entries = scene.reconcile entries) ∧
        ∀ earlier endpoint old next later, endpoint ∉ before.roster.endpoints →
          before.transcript entries leaving =
            earlier ++ .changed (.participantState endpoint old next) :: later →
              ∀ effect ∈ later, effect.publication? = none := by
  intro scene before after visits hstill hsilent
  have hreceptive : scene.Receptive := receptive_run hopen requests hstill hsilent
  have hstart := Walk.Recounts.start hreceptive
  have hidle := reactAt_nil scene.register.length
  have hvisits : visits =
      gather (Walk.enterWith (reactAt scene.register.length)) Walk.visits entries { scene } :=
    if_neg (Bool.eq_false_iff.mp hstill)
  have hnothing : ∀ visit ∈ visits, visit.calls = [] := by
    rw [hvisits]
    exact hstart.calls_eq_nil hreceptive.coherent hidle entries
  refine ⟨before.vanished entries, .refl _, hreceptive.outward_reconcile entries, ?_, ?_, ?_⟩
  · intro earlier publication later hplace
    obtain ⟨rest, hwalk⟩ := Conference.walkTranscript_of_published hplace
    obtain ⟨⟨calls, moment⟩, hvisit, hseen, hhands⟩ :=
      hstart.exists_visit hreceptive.coherent hidle hwalk
    rw [← hvisits] at hvisit
    obtain rfl : calls = [] := hnothing _ hvisit
    obtain ⟨hmoment, hthen⟩ := reaches_visit hvisit
    have hstarts : publication.state ≠ .active ∧ publication.state ≠ .disconnected := by
      rw [hhands.state, (Reaches.evolves hmoment hreceptive.held).continues.config]
      exact initialState_run hopen requests
    exact ⟨hstarts.1, hstarts.2, moment, hvisit, hmoment, hthen, hseen, hhands⟩
  · intro react hreact
    refine (reconcileWith_congr fun visit hvisit => ?_).symm
    rw [hreact visit hvisit, hnothing visit hvisit, hidle]
  · intro earlier endpoint old next later habsent hplace
    exact Conference.unpublished_after_newcomer hplace habsent

theorem reconcile_transcript_secondList :
    (fresh.run [.reconcile firstList]).conference.tornDown = false ∧
      Silent (fresh.run [.reconcile firstList]).register ∧
      ((fresh.run [.reconcile firstList]).reconcile secondList).1.outward =
        (fresh.run [.reconcile firstList]).outward ++
          [.published ⟨2, .forPhone ⟨1⟩, ⟨"comes", by decide⟩, .held, none⟩,
            .changed (.participantAdded ⟨"comes", by decide⟩),
            .changed (.participantState ⟨"stays", by decide⟩ .active .held),
            .changed (.participantState ⟨"comes", by decide⟩ .held .disconnected),
            .changed (.participantRemoved ⟨"leaves", by decide⟩),
            .changed (.participantDisconnected ⟨"leaves", by decide⟩ .aborted)] := by
  refine ⟨rfl, silent_firstList, ?_⟩
  obtain ⟨leaving, hleaving, houtward, -⟩ :=
    reconcile_transcript openOver?_fresh [.reconcile firstList] secondList rfl silent_firstList
  obtain rfl := List.perm_singleton.mp (hleaving : leaving.Perm [(⟨"leaves", by decide⟩, 1)])
  exact houtward

end Scene

end ConferenceBridge
