import ConferenceBridge.Proofs.Conference.Frame
import ConferenceBridge.Proofs.Conference.Membership
import ConferenceBridge.Proofs.Conference.Nesting
import ConferenceBridge.Proofs.Conference.Report

namespace ConferenceBridge

/-! A reconcile while nobody calls back: afterwards exactly the listed endpoints take part. -/

open Snapshot (reports)

namespace Conference

theorem call_update (number : Nat) (next : ConnectionState) (conference : Conference) :
    conference.call number (.update next) =
      conference.modify number fun participant => (participant.update next).participant := by
  have hquiet : (conference.participants[number]?.any fun participant =>
      (participant.perform (.call (.update next))).notifies) = false := by
    cases conference.participants[number]? with
    | none => rfl
    | some participant =>
        exact (@Participant.perform_call_of_ne_destroy (.update next) (by simp) participant).1
  simp only [Conference.call, hquiet, Bool.false_eq_true, if_false]
  rfl

end Conference

/-- Nobody calls back during a publication. -/
def Silent (register : List (List RegisterCall)) : Prop :=
  ∀ calls ∈ register, calls = []

theorem Silent.tail {register : List (List RegisterCall)} (h : Silent register) :
    Silent register.tail :=
  fun calls hcalls => h calls (List.mem_of_mem_tail hcalls)

namespace Scene

theorem nextCalls_of_silent {scene : Scene} (h : Silent scene.register) :
    scene.nextCalls.1 = [] := by
  unfold Scene.nextCalls
  cases hregister : scene.register with
  | nil => rfl
  | cons calls register => exact h calls (by simp [hregister])

end Scene

theorem Walk.foldl_enterWith {react : React} {P : List Snapshot → Walk → Prop}
    (hentry : ∀ {done : List Snapshot} {walk : Walk}, P done walk →
      ∀ entry, P (done ++ [entry]) (walk.enterWith react entry))
    {done : List Snapshot} {walk : Walk} (h : P done walk) (entries : List Snapshot) :
    P (done ++ entries) (entries.foldl (Walk.enterWith react) walk) := by
  induction entries generalizing done walk with
  | nil => simpa using h
  | cons entry entries ih =>
      have hstep := ih (hentry h entry)
      rwa [List.append_assoc] at hstep

/-- How far a reconcile has come after some entries of its list: everyone who took part before has
heard what was reported for the own endpoint, and for every other endpoint there is one newcomer. -/
structure Entered (before : Conference) (done : List Snapshot) (walk : Walk) : Prop where
  silent : Silent walk.scene.register
  held : walk.scene.dropped = false
  stillOpen : walk.scene.conference.tornDown = false
  config : walk.scene.conference.config = before.config
  coherent : walk.scene.conference.Coherent
  reported : ∀ endpoint, endpoint ∈ walk.reported ↔ endpoint ∈ done.map (·.endpoint)
  roster : walk.scene.conference.roster.entries = before.roster.entries ++
    walk.newcomers.map fun newcomer => (newcomer.endpoint, newcomer.number)
  endpoints : walk.newcomers.map (·.endpoint) = before.newEndpoints done
  numbers : walk.newcomers.map (·.number) =
    List.range' before.participants.length walk.newcomers.length
  count : walk.scene.conference.participants.length =
    before.participants.length + walk.newcomers.length
  known : ∀ endpoint number participant, (endpoint, number) ∈ before.roster.entries →
    before.participants[number]? = some participant →
      walk.scene.conference.participants[number]? =
        some (participant.heard (reports endpoint done))
  fresh : ∀ newcomer ∈ walk.newcomers,
    (reports newcomer.endpoint done).getLast? = some newcomer.state ∧
      ∃ first, done.find? (·.endpoint = newcomer.endpoint) = some first ∧
        walk.scene.conference.participants[newcomer.number]? =
          some (.ofSnapshot first before.config.initialState)
  updated : walk.updated = before.updates done

namespace Entered

variable {before : Conference} {done : List Snapshot} {walk : Walk}

theorem start {scene : Scene} (hsilent : Silent scene.register) (hheld : scene.dropped = false)
    (hopen : scene.conference.tornDown = false) (hcoherent : scene.conference.Coherent) :
    Entered scene.conference [] { scene } where
  silent := hsilent
  held := hheld
  stillOpen := hopen
  config := rfl
  coherent := hcoherent
  reported := by simp
  roster := by simp
  endpoints := rfl
  numbers := rfl
  count := by simp
  known := by
    intro endpoint number participant _ hparticipant
    exact hparticipant
  fresh := by simp
  updated := rfl

theorem number_lt (hbefore : before.Coherent) {endpoint : Endpoint} {number : Nat}
    (hmem : (endpoint, number) ∈ before.roster.entries) :
    number < before.participants.length := by
  obtain ⟨participant, hparticipant, -⟩ := hbefore.listed endpoint number hmem
  exact (List.getElem?_eq_some_iff.mp hparticipant).1

theorem le_number (h : Entered before done walk) {newcomer : Newcomer}
    (hmem : newcomer ∈ walk.newcomers) : before.participants.length ≤ newcomer.number := by
  have hnumber : newcomer.number ∈ walk.newcomers.map (·.number) := List.mem_map_of_mem hmem
  rw [h.numbers, List.mem_range'_1] at hnumber
  exact hnumber.1

theorem knows_iff (h : Entered before done walk) (endpoint : Endpoint) :
    walk.knows endpoint = true ↔ endpoint ∈ before.newEndpoints done := by
  rw [← h.endpoints]
  simp [Walk.knows]

theorem mem_newEndpoints_of_newcomer (h : Entered before done walk) {newcomer : Newcomer}
    (hnewcomer : newcomer ∈ walk.newcomers) : newcomer.endpoint ∈ before.newEndpoints done := by
  rw [← h.endpoints]
  exact List.mem_map_of_mem hnewcomer

theorem reported_concat (h : Entered before done walk) (entry : Snapshot) (endpoint : Endpoint) :
    endpoint ∈ entry.endpoint :: walk.reported ↔
      endpoint ∈ (done ++ [entry]).map (·.endpoint) := by
  rw [List.mem_cons, h.reported, List.map_append, List.mem_append, or_comm]
  simp

theorem known_concat (h : Entered before done walk) {entry : Snapshot}
    (habsent : entry.endpoint ∉ before.roster.endpoints) {endpoint : Endpoint} {number : Nat}
    {participant : Participant} (hmem : (endpoint, number) ∈ before.roster.entries)
    (hparticipant : before.participants[number]? = some participant) :
    walk.scene.conference.participants[number]? =
      some (participant.heard (reports endpoint (done ++ [entry]))) := by
  have hother : entry.endpoint ≠ endpoint := by
    rintro rfl
    exact habsent (List.mem_map_of_mem (f := Prod.fst) hmem)
  rw [Snapshot.reports_concat_of_ne hother]
  exact h.known endpoint number participant hmem hparticipant

/-- An endpoint where nobody took part before: its reports are heard at the end. -/
theorem enter_again (h : Entered before done walk) {entry : Snapshot}
    (hmem : entry.endpoint ∈ before.newEndpoints done) :
    Entered before (done ++ [entry])
      { walk with
        reported := entry.endpoint :: walk.reported
        newcomers := walk.newcomers.map (·.hear entry) } := by
  have habsent := (Conference.mem_newEndpoints.mp hmem).2
  have hendpoint : ∀ newcomer : Newcomer, (newcomer.hear entry).endpoint = newcomer.endpoint := by
    intro newcomer
    unfold Newcomer.hear
    split <;> rfl
  have hnumber : ∀ newcomer : Newcomer, (newcomer.hear entry).number = newcomer.number := by
    intro newcomer
    unfold Newcomer.hear
    split <;> rfl
  refine { h with
    reported := h.reported_concat entry
    roster := ?roster
    endpoints := ?endpoints
    numbers := ?numbers
    count := ?count
    known := ?known
    fresh := ?fresh
    updated := ?updated }
  case roster =>
    rw [h.roster, List.map_map]
    congr 2
    funext newcomer
    simp [hendpoint, hnumber]
  case endpoints =>
    rw [Conference.newEndpoints_concat_of_mem hmem, ← h.endpoints, List.map_map]
    congr 1
    funext newcomer
    exact hendpoint newcomer
  case numbers =>
    rw [List.length_map, ← h.numbers, List.map_map]
    congr 1
    funext newcomer
    exact hnumber newcomer
  case count =>
    rw [List.length_map]
    exact h.count
  case known => exact fun _ _ _ => h.known_concat habsent
  case fresh =>
    intro newcomer hnewcomer
    obtain ⟨old, hold, rfl⟩ := List.mem_map.mp hnewcomer
    obtain ⟨hlast, first, hfirst, hparticipant⟩ := h.fresh old hold
    rw [hendpoint, hnumber]
    refine ⟨?_, first, by simp [hfirst], hparticipant⟩
    by_cases heq : old.endpoint = entry.endpoint
    · rw [heq, Snapshot.reports_concat_self, List.getLast?_concat]
      simp [Newcomer.hear, heq]
    · rw [Snapshot.reports_concat_of_ne (Ne.symm heq), hlast]
      simp [Newcomer.hear, heq]
  case updated => exact h.updated.trans (Conference.updates_concat_of_absent habsent done).symm

section Present

variable (h : Entered before done walk) (hbefore : before.Coherent) {entry : Snapshot}
  {number : Nat} (hmem : (entry.endpoint, number) ∈ before.roster.entries)

include h hbefore hmem

theorem known_update {endpoint : Endpoint} {other : Nat} {member : Participant}
    (hother : (endpoint, other) ∈ before.roster.entries)
    (hmember : before.participants[other]? = some member) :
    (walk.scene.conference.call number (.update entry.state)).participants[other]? =
      some (member.heard (reports endpoint (done ++ [entry]))) := by
  obtain ⟨participant, hparticipant, hendpoint, hlive⟩ := hbefore.listed _ _ hmem
  rw [Conference.call_update, Conference.getElem?_modify,
    h.known endpoint other member hother hmember, Option.map_some]
  by_cases heq : endpoint = entry.endpoint
  · subst heq
    obtain rfl := Roster.unique hother hmem
    obtain rfl := Option.some.inj (hparticipant.symm.trans hmember)
    rw [if_pos rfl, Snapshot.reports_concat_self, Participant.update_heard hlive.destroyed]
  · have hnumber : other ≠ number := by
      rintro rfl
      exact heq ((hbefore.endpoint_of_mem hparticipant hother).symm.trans hendpoint)
    rw [if_neg hnumber, Snapshot.reports_concat_of_ne (Ne.symm heq)]

theorem fresh_update {newcomer : Newcomer} (hnewcomer : newcomer ∈ walk.newcomers) :
    (reports newcomer.endpoint (done ++ [entry])).getLast? = some newcomer.state ∧
      ∃ first, (done ++ [entry]).find? (·.endpoint = newcomer.endpoint) = some first ∧
        (walk.scene.conference.call number
          (.update entry.state)).participants[newcomer.number]? =
          some (.ofSnapshot first before.config.initialState) := by
  obtain ⟨hlast, first, hfirst, hfresh⟩ := h.fresh newcomer hnewcomer
  have hnew := Conference.mem_newEndpoints.mp (h.mem_newEndpoints_of_newcomer hnewcomer)
  have hother : entry.endpoint ≠ newcomer.endpoint := fun heq =>
    hnew.2 (heq ▸ List.mem_map_of_mem (f := Prod.fst) hmem)
  have hnumber : newcomer.number ≠ number := by
    have hle := h.le_number hnewcomer
    have hlt := number_lt hbefore hmem
    omega
  refine ⟨by rw [Snapshot.reports_concat_of_ne hother, hlast], first, by simp [hfirst], ?_⟩
  rw [Conference.call_update, Conference.getElem?_modify, hfresh, Option.map_some, if_neg hnumber]

theorem accepts_eq_changedBy :
    walk.scene.accepts number (.call (.update entry.state)) = before.changedBy done entry := by
  obtain ⟨participant, hparticipant, -, hlive⟩ := hbefore.listed _ _ hmem
  have hstate := Conference.stateAt?_eq_some hmem hparticipant
  rw [Scene.accepts, Scene.participant?, h.known _ _ _ hmem hparticipant, Conference.changedBy,
    hstate]
  exact Participant.accepted_update_heard hlive.destroyed _ entry.state

/-- An endpoint where someone took part before: the report is heard at once. -/
theorem enter_present :
    Entered before (done ++ [entry])
      { walk with
        reported := entry.endpoint :: walk.reported
        scene := walk.scene.callParticipant number (.update entry.state)
        updated := walk.updated +
          (walk.scene.accepts number (.call (.update entry.state))).toNat } := by
  have hroutine := Scene.routine_callParticipant number (.update entry.state) walk.scene
  have hconference := Scene.conference_callParticipant h.held number (.update entry.state)
  have hframe := Conference.frame_call number (.update entry.state) walk.scene.conference
  have hroster : (walk.scene.conference.call number (.update entry.state)).roster =
      walk.scene.conference.roster := by
    rw [Conference.call_update]
    rfl
  have hlisted : entry.endpoint ∈ before.roster.endpoints :=
    List.mem_map_of_mem (f := Prod.fst) hmem
  constructor
  case silent => exact hroutine.advances.register_eq ▸ h.silent
  case held => exact hroutine.advances.dropped_eq.trans h.held
  case stillOpen =>
    rw [hconference, hframe.tornDown]
    exact h.stillOpen
  case config =>
    rw [hconference, hframe.config]
    exact h.config
  case coherent =>
    rw [hconference]
    exact h.coherent.call number _
  case reported => exact h.reported_concat entry
  case roster =>
    rw [hconference, hroster]
    exact h.roster
  case endpoints =>
    rw [Conference.newEndpoints_concat_of_known hlisted]
    exact h.endpoints
  case numbers => exact h.numbers
  case count =>
    rw [hconference, hframe.count]
    exact h.count
  case known =>
    rw [hconference]
    exact fun _ _ _ => h.known_update hbefore hmem
  case fresh =>
    rw [hconference]
    exact fun _ => h.fresh_update hbefore hmem
  case updated =>
    rw [Conference.updates_concat, h.accepts_eq_changedBy hbefore hmem, h.updated]

end Present

section New

variable (h : Entered before done walk) {entry : Snapshot}
  (hnew : entry.endpoint ∉ before.newEndpoints done)

include h hnew

theorem fresh_concat {newcomer : Newcomer} (hnewcomer : newcomer ∈ walk.newcomers) :
    (reports newcomer.endpoint (done ++ [entry])).getLast? = some newcomer.state ∧
      ∃ first, (done ++ [entry]).find? (·.endpoint = newcomer.endpoint) = some first ∧
        walk.scene.conference.participants[newcomer.number]? =
          some (.ofSnapshot first before.config.initialState) := by
  obtain ⟨hlast, first, hfirst, hfresh⟩ := h.fresh newcomer hnewcomer
  have hother : entry.endpoint ≠ newcomer.endpoint := fun heq =>
    hnew (heq ▸ h.mem_newEndpoints_of_newcomer hnewcomer)
  exact ⟨by rw [Snapshot.reports_concat_of_ne hother, hlast], first, by simp [hfirst], hfresh⟩

omit h in
theorem find?_concat_self (habsent : entry.endpoint ∉ before.roster.endpoints) :
    (done ++ [entry]).find? (·.endpoint = entry.endpoint) = some entry := by
  have hnone : done.find? (·.endpoint = entry.endpoint) = none := by
    rw [List.find?_eq_none]
    intro earlier hearlier
    simp only [decide_eq_true_eq]
    intro heq
    have hlisted := List.mem_map.mpr ⟨earlier, hearlier, heq⟩
    exact hnew (Conference.mem_newEndpoints.mpr ⟨hlisted, habsent⟩)
  simp [hnone]

/-- An endpoint that was not heard of before: someone new takes part. -/
theorem enter_new {roster : Roster Nat}
    (habsent : walk.scene.conference.roster.insertIfAbsent entry.endpoint
      walk.scene.conference.participants.length = .stored roster) {scene : Scene}
    (hconference : scene.conference = walk.scene.conference.enroll entry roster)
    (hregister : scene.register = walk.scene.register.tail)
    (hheld : scene.dropped = walk.scene.dropped) :
    Entered before (done ++ [entry])
      { walk with
        reported := entry.endpoint :: walk.reported
        scene
        newcomers := walk.newcomers ++
          [⟨entry.endpoint, walk.scene.conference.participants.length, entry.state⟩] } := by
  obtain ⟨hmissing, hentries⟩ := Roster.stored_of_insertIfAbsent habsent
  have hlisted : entry.endpoint ∉ before.roster.endpoints := by
    intro hmem
    apply hmissing
    rw [Roster.endpoints, h.roster, List.map_append]
    exact List.mem_append_left _ hmem
  have hold {number : Nat} {participant : Participant}
      (hparticipant : walk.scene.conference.participants[number]? = some participant) :
      scene.conference.participants[number]? = some participant := by
    obtain ⟨hlt, -⟩ := List.getElem?_eq_some_iff.mp hparticipant
    rw [hconference, Conference.enroll, List.getElem?_append_left hlt, hparticipant]
  constructor
  case silent =>
    rw [hregister]
    exact h.silent.tail
  case held => exact hheld.trans h.held
  case stillOpen =>
    rw [hconference]
    exact h.stillOpen
  case config =>
    rw [hconference]
    exact h.config
  case coherent =>
    rw [hconference]
    exact h.coherent.enroll habsent
  case reported => exact h.reported_concat entry
  case roster =>
    rw [hconference]
    change roster.entries = _
    rw [hentries, h.roster, List.map_append, List.append_assoc]
    rfl
  case endpoints =>
    rw [List.map_append, h.endpoints, Conference.newEndpoints_concat_of_new hlisted hnew]
    rfl
  case numbers =>
    rw [List.map_append, h.numbers, List.length_append, List.length_singleton,
      List.range'_concat, h.count]
    simp
  case count =>
    rw [hconference]
    change (walk.scene.conference.participants ++ [_]).length = _
    rw [List.length_append, h.count, List.length_append, Nat.add_assoc]
    rfl
  case known =>
    intro endpoint number participant hmem hparticipant
    exact hold (h.known_concat hlisted hmem hparticipant)
  case fresh =>
    intro newcomer hnewcomer
    rcases List.mem_append.mp hnewcomer with hbefore | hlast
    · obtain ⟨hlast, first, hfirst, hfresh⟩ := h.fresh_concat hnew hbefore
      exact ⟨hlast, first, hfirst, hold hfresh⟩
    · rw [List.mem_singleton.mp hlast]
      refine ⟨by simp [Snapshot.reports_concat_self], entry, find?_concat_self hnew hlisted, ?_⟩
      rw [hconference, ← h.config]
      simp [Conference.enroll]
  case updated => exact h.updated.trans (Conference.updates_concat_of_absent hlisted done).symm

end New

theorem mem_before (h : Entered before done walk) {endpoint : Endpoint} {number : Nat}
    (hmem : (endpoint, number) ∈ walk.scene.conference.roster.entries)
    (hnew : endpoint ∉ before.newEndpoints done) : (endpoint, number) ∈ before.roster.entries := by
  rw [h.roster, List.mem_append] at hmem
  rcases hmem with hlisted | hnewcomer
  · exact hlisted
  · obtain ⟨newcomer, hnewcomer, heq⟩ := List.mem_map.mp hnewcomer
    have hsame : newcomer.endpoint = endpoint := congrArg Prod.fst heq
    exact absurd (hsame ▸ h.mem_newEndpoints_of_newcomer hnewcomer) hnew

theorem enter (h : Entered before done walk) (hbefore : before.Coherent) {react : React}
    (hreact : ∀ scene, react [] scene = scene) (entry : Snapshot) :
    Entered before (done ++ [entry]) (walk.enterWith react entry) := by
  simp only [Walk.enterWith, h.stillOpen, Bool.false_eq_true, if_false]
  split
  · rename_i hknows
    exact h.enter_again ((h.knows_iff _).mp hknows)
  · rename_i hunknown
    have hnew : entry.endpoint ∉ before.newEndpoints done := fun hmem =>
      hunknown ((h.knows_iff _).mpr hmem)
    split
    · rename_i number hpresent
      exact h.enter_present hbefore (h.mem_before (Roster.present_of_insertIfAbsent hpresent) hnew)
    · rename_i roster habsent
      rw [Scene.publishWith_create, Scene.nextCalls_of_silent h.silent, hreact]
      exact h.enter_new hnew habsent rfl rfl rfl

theorem foldl (h : Entered before done walk) (hbefore : before.Coherent) {react : React}
    (hreact : ∀ scene, react [] scene = scene) (entries : List Snapshot) :
    Entered before (done ++ entries) (entries.foldl (Walk.enterWith react) walk) :=
  Walk.foldl_enterWith (fun h entry => h.enter hbefore hreact entry) h entries

end Entered

namespace Conference

def bringUp (newcomers : List Newcomer) (conference : Conference) : Conference :=
  newcomers.foldl
    (fun conference newcomer => conference.call newcomer.number (.update newcomer.state))
    conference

theorem bringUp_cons (newcomer : Newcomer) (newcomers : List Newcomer) (conference : Conference) :
    conference.bringUp (newcomer :: newcomers) =
      (conference.call newcomer.number (.update newcomer.state)).bringUp newcomers := rfl

theorem frame_bringUp (newcomers : List Newcomer) (conference : Conference) :
    conference.Frame (conference.bringUp newcomers) := by
  induction newcomers generalizing conference with
  | nil => exact .refl conference
  | cons newcomer newcomers ih => exact (frame_call _ _ conference).trans (ih _)

theorem bringUp_eq (newcomers : List Newcomer) (conference : Conference) :
    conference.bringUp newcomers =
      { conference with participants := (conference.bringUp newcomers).participants } := by
  induction newcomers generalizing conference with
  | nil => rfl
  | cons newcomer newcomers ih =>
      rw [bringUp_cons, ih, call_update]
      rfl

theorem roster_bringUp (newcomers : List Newcomer) (conference : Conference) :
    (conference.bringUp newcomers).roster = conference.roster := by
  rw [bringUp_eq]

theorem Coherent.bringUp {conference : Conference} (h : conference.Coherent)
    (newcomers : List Newcomer) : (conference.bringUp newcomers).Coherent := by
  induction newcomers generalizing conference with
  | nil => exact h
  | cons newcomer newcomers ih => exact ih (h.call _ _)

theorem getElem?_bringUp_of_not_mem {newcomers : List Newcomer} {number : Nat}
    (h : number ∉ newcomers.map (·.number)) (conference : Conference) :
    (conference.bringUp newcomers).participants[number]? = conference.participants[number]? := by
  induction newcomers generalizing conference with
  | nil => rfl
  | cons newcomer newcomers ih =>
      rw [List.map_cons, List.mem_cons, not_or] at h
      rw [bringUp_cons, ih h.2, call_update, getElem?_modify]
      simp [h.1]

theorem getElem?_bringUp_of_mem {newcomers : List Newcomer} {newcomer : Newcomer}
    (hmem : newcomer ∈ newcomers) (hnodup : (newcomers.map (·.number)).Nodup)
    (conference : Conference) :
    (conference.bringUp newcomers).participants[newcomer.number]? =
      conference.participants[newcomer.number]?.map fun participant =>
        (participant.update newcomer.state).participant := by
  induction newcomers generalizing conference with
  | nil => cases hmem
  | cons head newcomers ih =>
      rw [List.map_cons, List.nodup_cons] at hnodup
      rw [bringUp_cons]
      rcases List.mem_cons.mp hmem with rfl | htail
      · rw [getElem?_bringUp_of_not_mem hnodup.1, call_update, getElem?_modify]
        simp
      · have hother : newcomer.number ≠ head.number := by
          intro heq
          exact hnodup.1 (heq ▸ List.mem_map_of_mem htail)
        rw [ih htail hnodup.2, call_update, getElem?_modify]
        simp [hother]

theorem getElem?_keep {conference : Conference} (h : conference.Coherent)
    {listed : List Endpoint} {endpoint : Endpoint} {number : Nat}
    (hmem : (endpoint, number) ∈ conference.roster.entries) (hlisted : endpoint ∈ listed) :
    (conference.keep listed).participants[number]? = conference.participants[number]? := by
  obtain ⟨participant, hparticipant, hendpoint, -⟩ := h.listed endpoint number hmem
  have hstays : number ∉ (conference.roster.splitBy listed).2.map Prod.snd := by
    intro hleaves
    obtain ⟨⟨other, same⟩, hother, rfl⟩ := List.mem_map.mp hleaves
    obtain ⟨hentry, habsent⟩ := List.mem_filter.mp hother
    rw [← h.endpoint_of_mem hparticipant hentry, hendpoint] at habsent
    simp [hlisted] at habsent
  rw [keep, getElem?_dismantle, hparticipant, Option.map_some, if_neg hstays]

theorem roster_keep (listed : List Endpoint) (conference : Conference) :
    (conference.keep listed).roster = (conference.roster.splitBy listed).1 := by
  rw [keep, dismantle_eq]

end Conference

namespace Walk

theorem conference_bringUp {walk : Walk} (h : walk.scene.dropped = false) :
    walk.bringUp.conference = walk.scene.conference.bringUp walk.newcomers := by
  unfold bringUp Conference.bringUp
  generalize walk.scene = scene at h
  induction walk.newcomers generalizing scene with
  | nil => rfl
  | cons newcomer newcomers ih =>
      rw [List.foldl_cons, List.foldl_cons, ← Scene.conference_callParticipant h]
      exact ih _ ((Scene.routine_callParticipant _ _ scene).advances.dropped_eq.trans h)

theorem conference_finish (walk : Walk) (scene : Scene) :
    (walk.finish scene).1.conference.roster = (scene.conference.keep walk.reported).roster ∧
      (walk.finish scene).1.conference.participants =
        (scene.conference.keep walk.reported).participants := by
  simp only [finish, Scene.conference_note]
  split
  · rw [Scene.conference_refreshManage, Conference.roster_refreshManage,
      Conference.participants_refreshManage, ← Scene.conference_keep]
    exact ⟨rfl, rfl⟩
  · rw [← Scene.conference_keep]
    exact ⟨rfl, rfl⟩

structure Ends (walk : Walk) (after : Conference) (result : Reconciliation) : Prop where
  roster : after.roster = (walk.bringUp.conference.keep walk.reported).roster
  participants : after.participants = (walk.bringUp.conference.keep walk.reported).participants
  added : result.added = walk.added
  removed : result.removed =
    (walk.bringUp.conference.roster.splitBy walk.reported).2.map Prod.fst
  updated : result.updated = walk.updated

theorem ends_finish (walk : Walk) :
    walk.Ends (walk.finish walk.bringUp).1.conference (walk.finish walk.bringUp).2 where
  roster := (walk.conference_finish walk.bringUp).1
  participants := (walk.conference_finish walk.bringUp).2
  added := rfl
  removed := rfl
  updated := rfl

end Walk

/-- What a reconcile with a list is there for. -/
structure Reconciles (before after : Conference) (entries : List Snapshot)
    (result : Reconciliation) : Prop where
  endpoints : ∀ endpoint,
    endpoint ∈ after.roster.endpoints ↔ endpoint ∈ entries.map (·.endpoint)
  /-- Whoever took part and is listed goes on as the same participant, with only another state. -/
  known : ∀ endpoint number participant, before.roster.get? endpoint = some number →
    before.participants[number]? = some participant → endpoint ∈ entries.map (·.endpoint) →
      after.roster.get? endpoint = some number ∧
        after.participants[number]? = some (participant.heard (reports endpoint entries))
  /-- For every other listed endpoint there is one new participant, as first listed, in the state
  listed last. -/
  fresh : ∀ endpoint first last, before.roster.get? endpoint = none →
    entries.find? (·.endpoint = endpoint) = some first →
    (reports endpoint entries).getLast? = some last →
      ∃ number, before.participants.length ≤ number ∧
        after.roster.get? endpoint = some number ∧
        after.participants[number]? =
          some { Participant.ofSnapshot first before.config.initialState with state := last }
  count : after.participants.length = before.participants.length + result.added.length
  added : result.added = before.newEndpoints entries
  removed : result.removed.Nodup ∧ ∀ endpoint, endpoint ∈ result.removed ↔
    endpoint ∈ before.roster.endpoints ∧ endpoint ∉ entries.map (·.endpoint)
  updated : result.updated = before.updates entries

namespace Entered

variable {before after : Conference} {entries : List Snapshot} {walk : Walk}

/-- Of those on the roster, exactly those leave who took part before and are not listed. -/
theorem leaving_eq (h : Entered before entries walk) :
    (walk.scene.conference.roster.splitBy walk.reported).2 = before.vanished entries := by
  have hsame : ∀ entry : Endpoint × Nat,
      decide (entry.1 ∉ walk.reported) = decide (entry.1 ∉ entries.map (·.endpoint)) := by
    intro entry
    rw [decide_eq_decide, h.reported]
  have hnewcomers : (walk.newcomers.map fun newcomer => (newcomer.endpoint, newcomer.number)).filter
      (fun entry => entry.1 ∉ entries.map (·.endpoint)) = [] := by
    rw [List.filter_eq_nil_iff]
    intro entry hentry
    obtain ⟨newcomer, hnewcomer, rfl⟩ := List.mem_map.mp hentry
    have hnew := h.mem_newEndpoints_of_newcomer hnewcomer
    simpa using (Conference.mem_newEndpoints.mp hnew).1
  simp only [Roster.splitBy, hsame, h.roster, List.filter_append, hnewcomers, List.append_nil]
  rfl

section Ending

variable (h : Entered before entries walk) {result : Reconciliation}
  (hends : walk.Ends after result)

include h hends

theorem mem_after (endpoint : Endpoint) (number : Nat) :
    (endpoint, number) ∈ after.roster.entries ↔
      (endpoint, number) ∈ walk.scene.conference.roster.entries ∧
        endpoint ∈ entries.map (·.endpoint) := by
  rw [hends.roster, Walk.conference_bringUp h.held, Conference.roster_keep,
    Conference.roster_bringUp, ← h.reported]
  simp [Roster.splitBy, Roster.filter]

theorem getElem?_after {endpoint : Endpoint} {number : Nat}
    (hmem : (endpoint, number) ∈ after.roster.entries) :
    after.participants[number]? =
      (walk.scene.conference.bringUp walk.newcomers).participants[number]? := by
  obtain ⟨hthere, hlisted⟩ := (h.mem_after hends endpoint number).mp hmem
  rw [← Conference.roster_bringUp walk.newcomers] at hthere
  rw [hends.participants, Walk.conference_bringUp h.held]
  exact Conference.getElem?_keep (h.coherent.bringUp walk.newcomers) hthere
    ((h.reported endpoint).mpr hlisted)

theorem mem_after_of_newcomer {newcomer : Newcomer} (hnewcomer : newcomer ∈ walk.newcomers) :
    (newcomer.endpoint, newcomer.number) ∈ after.roster.entries := by
  rw [h.mem_after hends, h.roster, List.mem_append]
  exact ⟨.inr (List.mem_map.mpr ⟨newcomer, hnewcomer, rfl⟩), 
    (Conference.mem_newEndpoints.mp (h.mem_newEndpoints_of_newcomer hnewcomer)).1⟩

theorem mem_after_of_before {endpoint : Endpoint} {number : Nat}
    (hmem : (endpoint, number) ∈ before.roster.entries)
    (hlisted : endpoint ∈ entries.map (·.endpoint)) :
    (endpoint, number) ∈ after.roster.entries := by
  rw [h.mem_after hends, h.roster, List.mem_append]
  exact ⟨.inl hmem, hlisted⟩

theorem mem_endpoints_after (endpoint : Endpoint) :
    endpoint ∈ after.roster.endpoints ↔ endpoint ∈ entries.map (·.endpoint) := by
  constructor
  · intro hmem
    obtain ⟨⟨_, number⟩, hentry, rfl⟩ := List.mem_map.mp hmem
    exact ((h.mem_after hends _ number).mp hentry).2
  · intro hlisted
    by_cases hknown : endpoint ∈ before.roster.endpoints
    · obtain ⟨⟨_, number⟩, hentry, rfl⟩ := List.mem_map.mp hknown
      exact List.mem_map_of_mem (f := Prod.fst) (h.mem_after_of_before hends hentry hlisted)
    · have hfresh := Conference.mem_newEndpoints.mpr ⟨hlisted, hknown⟩
      rw [← h.endpoints] at hfresh
      obtain ⟨newcomer, hnewcomer, rfl⟩ := List.mem_map.mp hfresh
      exact List.mem_map_of_mem (f := Prod.fst) (h.mem_after_of_newcomer hends hnewcomer)

theorem known_after (hbefore : before.Coherent) {endpoint : Endpoint} {number : Nat}
    {participant : Participant} (hnumber : before.roster.get? endpoint = some number)
    (hparticipant : before.participants[number]? = some participant)
    (hlisted : endpoint ∈ entries.map (·.endpoint)) :
    after.roster.get? endpoint = some number ∧
      after.participants[number]? = some (participant.heard (reports endpoint entries)) := by
  have hmem := Roster.get?_eq_some_iff.mp hnumber
  have hentry := h.mem_after_of_before hends hmem hlisted
  have hold : number ∉ walk.newcomers.map (·.number) := by
    rw [h.numbers, List.mem_range'_1]
    have hlt := number_lt hbefore hmem
    omega
  refine ⟨Roster.get?_eq_some_iff.mpr hentry, ?_⟩
  rw [h.getElem?_after hends hentry, Conference.getElem?_bringUp_of_not_mem hold]
  exact h.known endpoint number participant hmem hparticipant

theorem fresh_after (hinitial : before.config.initialState ≠ .disconnected) {endpoint : Endpoint}
    {first : Snapshot} {last : ConnectionState} (hnobody : before.roster.get? endpoint = none)
    (hfirst : entries.find? (·.endpoint = endpoint) = some first)
    (hlast : (reports endpoint entries).getLast? = some last) :
    ∃ number, before.participants.length ≤ number ∧
      after.roster.get? endpoint = some number ∧
      after.participants[number]? =
        some { Participant.ofSnapshot first before.config.initialState with state := last } := by
  have hlisted : endpoint ∈ entries.map (·.endpoint) := by
    obtain ⟨hpasses, -⟩ := List.find?_eq_some_iff_append.mp hfirst
    exact List.mem_map.mpr ⟨first, List.mem_of_find?_eq_some hfirst, by simpa using hpasses⟩
  have hnew := Conference.mem_newEndpoints.mpr ⟨hlisted, Roster.get?_eq_none_iff.mp hnobody⟩
  rw [← h.endpoints] at hnew
  obtain ⟨newcomer, hnewcomer, rfl⟩ := List.mem_map.mp hnew
  obtain ⟨hstate, entry, hentry, hcreated⟩ := h.fresh newcomer hnewcomer
  obtain rfl : first = entry := Option.some.inj (hfirst.symm.trans hentry)
  obtain rfl : last = newcomer.state := Option.some.inj (hlast.symm.trans hstate)
  have hmem := h.mem_after_of_newcomer hends hnewcomer
  have hnumbers : (walk.newcomers.map (·.number)).Nodup := by
    rw [h.numbers]
    exact List.nodup_range'
  refine ⟨newcomer.number, h.le_number hnewcomer, Roster.get?_eq_some_iff.mpr hmem, ?_⟩
  rw [h.getElem?_after hends hmem, Conference.getElem?_bringUp_of_mem hnewcomer hnumbers,
    hcreated, Option.map_some, Participant.update_ofSnapshot hinitial]

theorem count_after :
    after.participants.length = before.participants.length + result.added.length := by
  rw [hends.participants, Walk.conference_bringUp h.held, (Conference.frame_keep _ _).count,
    (Conference.frame_bringUp _ _).count, h.count, hends.added, Walk.added, List.length_map]

theorem removed_eq : result.removed =
    before.roster.endpoints.filter fun endpoint => endpoint ∉ entries.map (·.endpoint) := by
  rw [hends.removed, Walk.conference_bringUp h.held, Conference.roster_bringUp, h.leaving_eq,
    Conference.vanished, Roster.endpoints, List.filter_map]
  rfl

theorem reconciles (hbefore : before.Coherent)
    (hinitial : before.config.initialState ≠ .disconnected) :
    Reconciles before after entries result where
  endpoints := h.mem_endpoints_after hends
  known _ _ _ := h.known_after hends hbefore
  fresh _ _ _ := h.fresh_after hends hinitial
  count := h.count_after hends
  added := hends.added.trans h.endpoints
  removed := by
    rw [h.removed_eq hends]
    refine ⟨before.roster.nodup.sublist List.filter_sublist, fun endpoint => ?_⟩
    rw [List.mem_filter]
    simp
  updated := hends.updated.trans h.updated

end Ending

end Entered

theorem Reconciles.state {before after : Conference} {entries : List Snapshot}
    {result : Reconciliation} (h : Reconciles before after entries result)
    (hcoherent : before.Coherent) {endpoint : Endpoint} {number : Nat} {participant : Participant}
    {earlier : List ConnectionState} {last : ConnectionState}
    (hnumber : after.roster.get? endpoint = some number)
    (hparticipant : after.participants[number]? = some participant)
    (hreports : reports endpoint entries = earlier ++ [last]) :
    (before.stateAt? endpoint ≠ some .disconnected → .disconnected ∉ earlier →
      participant.state = last) ∧
    (before.stateAt? endpoint = some .disconnected → participant.state = .disconnected) := by
  have hreported : endpoint ∈ entries.map (·.endpoint) := by
    rw [← h.endpoints]
    exact List.mem_map_of_mem (f := Prod.fst) (Roster.get?_eq_some_iff.mp hnumber)
  cases hbefore : before.roster.get? endpoint with
  | none =>
      obtain ⟨entry, hentry, heq⟩ := List.mem_map.mp hreported
      have hsome : (entries.find? (·.endpoint = endpoint)).isSome = true :=
        List.find?_isSome.mpr ⟨entry, hentry, by simpa using heq⟩
      obtain ⟨first, hfirst⟩ := Option.isSome_iff_exists.mp hsome
      obtain ⟨other, -, hother, hfresh⟩ :=
        h.fresh endpoint first last hbefore hfirst (by rw [hreports, List.getLast?_concat])
      rw [hnumber] at hother
      cases hother
      rw [hparticipant] at hfresh
      cases hfresh
      refine ⟨fun _ _ => rfl, fun habsurd => ?_⟩
      simp [Conference.stateAt?, hbefore] at habsurd
  | some same =>
      obtain ⟨old, hold, -⟩ := hcoherent.listed _ _ (Roster.get?_eq_some_iff.mp hbefore)
      obtain ⟨hsame, hheard⟩ := h.known endpoint same old hbefore hold hreported
      rw [hnumber] at hsame
      cases hsame
      rw [hparticipant] at hheard
      cases hheard
      have hstate : before.stateAt? endpoint = some old.state := by
        simp [Conference.stateAt?, hbefore, hold]
      rw [hstate, Participant.heard, hreports]
      constructor
      · intro hopen hearlier
        exact ConnectionState.after_eq_last (fun heq => hopen (congrArg some heq)) hearlier
      · intro hfinal
        rw [Option.some.inj hfinal]
        exact ConnectionState.after_disconnected _

namespace Scene

theorem reconciles_reconcile {scene : Scene} (hheld : scene.dropped = false)
    (hopen : scene.conference.tornDown = false) (hsilent : Silent scene.register)
    (hcoherent : scene.conference.Coherent)
    (hinitial : scene.conference.config.initialState ≠ .disconnected) (entries : List Snapshot) :
    Reconciles scene.conference (scene.reconcile entries).1.conference entries
      (scene.reconcile entries).2 := by
  have hentered : Entered scene.conference entries
      (entries.foldl (Walk.enterWith (reactAt scene.register.length)) { scene }) :=
    (Entered.start hsilent hheld hopen hcoherent).foldl hcoherent (reactAt_nil _) entries
  have hconference := Walk.conference_bringUp hentered.held
  have hstill : (entries.foldl (Walk.enterWith (reactAt scene.register.length))
      { scene }).bringUp.conference.tornDown = false := by
    rw [hconference, (Conference.frame_bringUp _ _).tornDown]
    exact hentered.stillOpen
  simp only [reconcile, reconcileWith, hopen, hstill, Bool.false_eq_true, if_false]
  exact hentered.reconciles (Walk.ends_finish _) hcoherent hinitial

variable {id : ConferenceId} {config : ConferenceConfig} {handle : Handle} {start : Scene}

/-- Whatever happened before, a reconcile while nobody calls back does what it is there for; and
everyone listed is afterwards in the state listed last, unless the final state was reached. -/
theorem reconcile_meets_spec (hopen : openOver? id config handle = .ok start)
    (requests : List Request) (entries : List Snapshot) :
    let before := (start.run requests).conference
    let after := ((start.run requests).reconcile entries).1.conference
    let result := ((start.run requests).reconcile entries).2
    before.tornDown = false → Silent (start.run requests).register →
      Reconciles before after entries result ∧
      ∀ endpoint number participant earlier last, after.roster.get? endpoint = some number →
        after.participants[number]? = some participant →
        reports endpoint entries = earlier ++ [last] →
          (before.stateAt? endpoint ≠ some .disconnected → .disconnected ∉ earlier →
            participant.state = last) ∧
          (before.stateAt? endpoint = some .disconnected →
            participant.state = .disconnected) := by
  intro before after result hstill hsilent
  have hcoherent : before.Coherent := coherent_run hopen requests
  have hinitial : before.config.initialState ≠ .disconnected := by
    obtain ⟨-, hvalid⟩ := eq_openOver_of_openOver? hopen
    obtain ⟨-, -, -, hinitial⟩ := ConferenceConfig.validate_eq_ok_iff.mp hvalid
    rw [(evolves_run hopen requests).continues.config]
    exact hinitial
  have hreconciles : Reconciles before after entries result :=
    reconciles_reconcile (dropped_run hopen requests) hstill hsilent hcoherent hinitial entries
  refine ⟨hreconciles, ?_⟩
  intro endpoint number participant earlier last hnumber hparticipant hreports
  exact hreconciles.state hcoherent hnumber hparticipant hreports

def firstList : List Snapshot :=
  [⟨⟨"stays", by decide⟩, .active, none, none⟩, ⟨⟨"leaves", by decide⟩, .ringing, none, none⟩]

theorem silent_firstList : Silent (fresh.run [.reconcile firstList]).register := by
  intro calls hcalls
  cases hcalls

/-- Someone new is listed twice, someone known twice in the same state. -/
def secondList : List Snapshot :=
  [⟨⟨"comes", by decide⟩, .active, none, none⟩, ⟨⟨"stays", by decide⟩, .held, none, none⟩,
    ⟨⟨"comes", by decide⟩, .disconnected, none, none⟩, ⟨⟨"stays", by decide⟩, .held, none, none⟩]

theorem reconcile_meets_spec_secondList :
    (fresh.run [.reconcile firstList]).conference.tornDown = false ∧
      Silent (fresh.run [.reconcile firstList]).register ∧
      Reconciles (fresh.run [.reconcile firstList]).conference
        ((fresh.run [.reconcile firstList]).reconcile secondList).1.conference secondList
        { added := [⟨"comes", by decide⟩], removed := [⟨"leaves", by decide⟩], updated := 1 } := by
  have hsilent : Silent (fresh.run [.reconcile firstList]).register := by
    intro calls hcalls
    cases hcalls
  exact ⟨rfl, hsilent,
    (reconcile_meets_spec openOver?_fresh [.reconcile firstList] secondList rfl hsilent).1⟩

end Scene

end ConferenceBridge
