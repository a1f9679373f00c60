import ConferenceBridge.Proofs.Conference.TearDown

namespace ConferenceBridge

/-! A conference can be managed exactly while anyone takes part, and the subscribers are told of
that right by turns. While a list is handed over the right may lag behind; whoever changes the
roster looks it over before the request is done. -/

namespace Capabilities

def afterTurns (turns : Nat) : Capabilities :=
  atStart.set manageConference (turns % 2 == 1)

theorem remove_set (mask other : Capabilities) (present : Bool) :
    (mask.set other present).remove other = mask.remove other :=
  set_set mask other present false

theorem can_afterTurns (turns : Nat) :
    (afterTurns turns).can manageConference = (turns % 2 == 1) :=
  can_set (by decide) _

theorem set_afterTurns {turns : Nat} {present : Bool}
    (h : (afterTurns turns).can manageConference ≠ present) :
    (afterTurns turns).set manageConference present = afterTurns (turns + 1) := by
  rw [can_afterTurns] at h
  have hnext : ((turns + 1) % 2 == 1) = present := by
    cases present with
    | false =>
        have hodd : turns % 2 = 1 := by simpa using h
        rw [beq_eq_false_iff_ne]
        omega
    | true =>
        have heven : turns % 2 ≠ 1 := by simpa using h
        rw [beq_iff_eq]
        omega
  rw [afterTurns, set_set, ← hnext, afterTurns]

end Capabilities

namespace Change

def mask? : Change → Option Capabilities
  | capabilities mask => some mask
  | _ => none

theorem mask?_of_endpoint? {change : Change} {endpoint : Endpoint}
    (h : change.endpoint? = some endpoint) : change.mask? = none := by
  cases change with
  | capabilities mask => cases h
  | _ => rfl

end Change

namespace Conference

def Synced (conference : Conference) : Prop :=
  conference.capabilities.can .manageConference = !conference.roster.isEmpty

namespace Synced

variable {conference next : Conference}

theorem congr (h : conference.Synced) (hroster : next.roster = conference.roster)
    (hcapabilities : next.capabilities = conference.capabilities) : next.Synced := by
  rw [Synced, hroster, hcapabilities]
  exact h

theorem refreshManage (conference : Conference) : conference.refreshManage.Synced := by
  rw [Synced, roster_refreshManage]
  exact can_refreshManage conference

theorem dismissAll (conference : Conference) : conference.dismissAll.Synced :=
  refreshManage _

theorem tearDown (h : conference.Synced) : conference.tearDown.Synced := by
  unfold Conference.tearDown
  split
  · exact h
  · exact (dismissAll { conference with tornDown := true }).congr rfl rfl

theorem forget (h : conference.Synced) (number : Nat) : (conference.forget number).Synced := by
  unfold Conference.forget
  split
  · exact h
  · split
    · exact h
    · exact refreshManage _

theorem call (h : conference.Synced) (number : Nat) (call : ParticipantCall) :
    (conference.call number call).Synced := by
  have hcalled : (conference.modify number fun participant =>
      (participant.perform (.call call)).participant).Synced := h.congr rfl rfl
  unfold Conference.call
  dsimp only
  split
  · exact hcalled.forget number
  · exact hcalled

theorem keep (h : conference.Synced) {listed : List Endpoint}
    (hnobody : (conference.roster.splitBy listed).2 = []) : (conference.keep listed).Synced := by
  have hentries : (conference.roster.splitBy listed).1.entries = conference.roster.entries := by
    apply List.filter_eq_self.mpr
    intro entry hentry
    simpa using List.filter_eq_nil_iff.mp hnobody entry hentry
  rw [Synced, Conference.keep, dismantle_eq]
  simp only [Roster.isEmpty, hentries]
  exact h

end Synced

end Conference

namespace Scene

theorem synced_setDisconnected {scene : Scene} (h : scene.conference.Synced)
    (cause : DisconnectCause) : (scene.setDisconnected cause).conference.Synced := by
  cases hcause : scene.conference.cause with
  | none =>
      rw [conference_setDisconnected hcause]
      exact h.congr rfl rfl
  | some first =>
      rw [setDisconnected_of_cause (by simp [hcause])]
      exact h

theorem synced_tearDown {scene : Scene} (h : scene.conference.Synced) :
    scene.tearDown.conference.Synced := by
  rw [conference_tearDown]
  exact h.tearDown

theorem synced_applyHostState {scene : Scene} (h : scene.conference.Synced)
    (state : ConnectionState) : (scene.applyHostState state).conference.Synced := by
  cases state with
  | active | held =>
      simp only [applyHostState, conference_setState, conference_note]
      exact h.congr rfl rfl
  | disconnected =>
      exact synced_tearDown (@synced_setDisconnected (scene.note (.hostState .disconnected)) h _)
  | _ => exact h

theorem Move.synced (hmove : Move scene next) (hheld : scene.dropped = false)
    (h : scene.conference.Synced) : next.conference.Synced := by
  cases hmove with
  | remark effect heffect => exact h
  | handle handle => exact h
  | call number call =>
      rw [conference_callParticipant hheld]
      exact h.call number call
  | remember state hopen => exact h.congr rfl rfl
  | follow state hopen => exact synced_applyHostState h state
  | disconnect cause hopen => exact synced_setDisconnected h cause
  | tearDown hopen => exact synced_tearDown h

end Scene

namespace Walk

def Unmoved (before : Conference) (walk : Walk) : Prop :=
  walk.newcomers = [] →
    walk.scene.conference.roster = before.roster ∧
      walk.scene.conference.capabilities = before.capabilities

theorem Unmoved.enterWith {before : Conference} {walk : Walk} (h : walk.Unmoved before)
    (react : React) (entry : Snapshot) : (walk.enterWith react entry).Unmoved before := by
  simp only [Walk.enterWith]
  split
  · exact h
  · split
    · intro hnobody
      exact h (List.map_eq_nil_iff.mp hnobody)
    · split
      · rename_i number _
        intro hnobody
        simp only [Scene.callParticipant_update, Scene.conference_operate]
        exact h hnobody
      · intro hnobody
        simp at hnobody

theorem Unmoved.foldl {before : Conference} {walk : Walk} (h : walk.Unmoved before)
    (react : React) (entries : List Snapshot) :
    (entries.foldl (Walk.enterWith react) walk).Unmoved before := by
  induction entries generalizing walk with
  | nil => exact h
  | cons entry entries ih => exact ih (h.enterWith react entry)

theorem bringUp_of_nobody {walk : Walk} (h : walk.newcomers = []) : walk.bringUp = walk.scene := by
  simp [bringUp, h]

end Walk

namespace Scene

/-- A reconcile leaves the right to manage right, whatever is done at the publications: either
nobody came or left, or the right is looked over at the end. -/
theorem synced_reconcileWith {scene : Scene} (h : scene.conference.Synced) (react : React)
    (entries : List Snapshot) : (scene.reconcileWith react entries).1.conference.Synced := by
  simp only [reconcileWith]
  split
  · exact h
  · have hunmoved : (entries.foldl (Walk.enterWith react) { scene }).Unmoved scene.conference :=
      Walk.Unmoved.foldl (fun _ => ⟨rfl, rfl⟩) react entries
    generalize entries.foldl (Walk.enterWith react) { scene } = walk at hunmoved
    split
    · simp only [Walk.finishTornDown, conference_note, conference_dismissAll]
      exact .dismissAll _
    · simp only [Walk.finish, conference_note]
      split
      · rw [conference_refreshManage]
        exact .refreshManage _
      · rename_i hsame
        rw [← keep, conference_keep]
        obtain ⟨hnobody, hstay⟩ : walk.newcomers = [] ∧
            (walk.bringUp.conference.roster.splitBy walk.reported).2 = [] := by
          simpa [Reconciliation.membershipChanged, Walk.added] using hsame
        rw [Walk.bringUp_of_nobody hnobody] at hstay ⊢
        obtain ⟨hroster, hcapabilities⟩ := hunmoved hnobody
        exact (h.congr hroster hcapabilities).keep hstay

theorem synced_run {scene : Scene} (hheld : scene.dropped = false) (h : scene.conference.Synced)
    (requests : List Request) : (scene.run requests).conference.Synced := by
  let Holds (scene next : Scene) : Prop :=
    scene.dropped = false → scene.conference.Synced →
      next.dropped = false ∧ next.conference.Synced
  have hclosed : RequestClosed Holds :=
    { refl := fun scene hheld h => ⟨hheld, h⟩
      trans := fun hfirst hsecond hheld h =>
        have hmiddle := hfirst hheld h
        hsecond hmiddle.1 hmiddle.2
      move := fun hmove hheld h => ⟨hmove.step.dropped_eq.trans hheld, hmove.synced hheld h⟩
      reconcile := fun depth entries scene hheld h =>
        ⟨(Reaches.dropped_eq (walkClosed_reaches.requests.reconcile depth entries scene)).trans
          hheld, synced_reconcileWith h _ entries⟩ }
  refine (hclosed.run ?_ ?_ scene hheld h).2
  · intro state _ scene hheld h
    exact ⟨(Step.follow state).dropped_eq.trans hheld, synced_applyHostState h state⟩
  · intro register _ scene hheld h
    exact ⟨hheld, h⟩

/-! The masks that are told. -/

def masks (scene : Scene) : List Capabilities :=
  scene.changes.filterMap Change.mask?

/-- The masks told so far take turns, and the last of them is the present one. -/
structure Alternates (scene : Scene) : Prop where
  told : scene.masks = (List.range scene.masks.length).map fun index => .afterTurns (index + 1)
  present : scene.conference.capabilities = .afterTurns scene.masks.length

namespace Alternates

variable {scene next : Scene}

theorem of_told (h : scene.Alternates) {told : List Change}
    (hchanges : next.changes = scene.changes ++ told) (htold : told.filterMap Change.mask? = [])
    (hcapabilities : next.conference.capabilities = scene.conference.capabilities) :
    next.Alternates := by
  have hmasks : next.masks = scene.masks := by
    rw [masks, hchanges, List.filterMap_append, htold, List.append_nil, masks]
  constructor
  · rw [hmasks]
    exact h.told
  · rw [hmasks, hcapabilities]
    exact h.present

theorem of_changes_eq (h : scene.Alternates) (hchanges : next.changes = scene.changes)
    (hcapabilities : next.conference.capabilities = scene.conference.capabilities) :
    next.Alternates :=
  h.of_told (by simpa using hchanges) List.filterMap_nil hcapabilities

theorem operate (h : scene.Alternates) (number : Nat) (operation : Participant.Operation) :
    (scene.operate number operation).Alternates := by
  refine h.of_told (changes_operate number operation scene) ?_ ?_
  · rw [List.filterMap_eq_nil_iff]
    intro change hchange
    cases hparticipant : scene.participant? number with
    | none => simp [hparticipant] at hchange
    | some participant =>
        rw [hparticipant] at hchange
        exact Change.mask?_of_endpoint? (Participant.endpoint?_of_mem_changes hchange)
  · rw [conference_operate]
    rfl

theorem refreshManage (h : scene.Alternates) : scene.refreshManage.Alternates := by
  by_cases hfits : scene.conference.capabilities.can .manageConference =
      !scene.conference.roster.isEmpty
  · apply h.of_changes_eq
    · rw [changes_refreshManage, if_pos hfits]
    · rw [conference_refreshManage, Conference.refreshManage, if_pos hfits]
  · have hturn : scene.conference.capabilities.set .manageConference
        (!scene.conference.roster.isEmpty) = .afterTurns (scene.masks.length + 1) := by
      rw [h.present] at hfits ⊢
      exact Capabilities.set_afterTurns hfits
    have hmasks : scene.refreshManage.masks =
        scene.masks ++ [.afterTurns (scene.masks.length + 1)] := by
      rw [masks, changes_refreshManage, if_neg hfits, List.filterMap_append, ← masks, hturn]
      rfl
    constructor
    · rw [hmasks, List.length_append, List.length_singleton, List.range_succ, List.map_append,
        ← h.told]
      rfl
    · rw [hmasks, conference_refreshManage, Conference.refreshManage, if_neg hfits,
        List.length_append, List.length_singleton]
      exact hturn

end Alternates

theorem Beat.alternates (hbeat : Beat scene next) (h : scene.Alternates) : next.Alternates := by
  cases hbeat with
  | act hact =>
      cases hact with
      | remark effect heffect =>
          exact h.of_changes_eq (changes_record_of_isRemark heffect scene) rfl
      | operate number operation _ => exact h.operate number operation
      | setRoster roster => exact h.of_changes_eq rfl rfl
      | setHost host => exact h.of_changes_eq rfl rfl
      | refreshManage => exact h.refreshManage
  | update number next => exact h.operate number _
  | hostState state => exact h.of_changes_eq (changes_note _ scene) rfl
  | setState state =>
      by_cases hsame : scene.conference.state = state
      · apply h.of_changes_eq
        · rw [changes_setState, if_pos hsame]
        · rw [conference_setState]
      · have htold : (scene.setState state).changes =
            scene.changes ++ [.state scene.conference.state state] := by
          rw [changes_setState, if_neg hsame]
        exact h.of_told htold rfl (by rw [conference_setState])
  | setCause cause => exact h.of_changes_eq (changes_note _ _) rfl
  | flag => exact h.of_changes_eq rfl rfl
  | conclude => exact h.of_told (changes_announce _ scene) rfl rfl

theorem Reaches.alternates (hreach : Reaches scene next) (h : scene.Alternates) :
    next.Alternates := by
  apply hreach.preserves_of_beats Beat.alternates _ _ _ h
  · intro scene handle register h
    exact h.of_changes_eq rfl rfl
  · intro scene roster entry h
    exact h.of_changes_eq (changes_enroll entry roster scene) rfl
  · intro scene endpoint h
    exact h.of_told (changes_announce _ scene) rfl rfl

theorem Alternates.turn {scene : Scene} (h : scene.Alternates) {index : Nat} {mask : Capabilities}
    (hmask : scene.masks[index]? = some mask) :
    mask.can .manageConference = true ↔ index % 2 = 0 := by
  rw [h.told, List.getElem?_map, Option.map_eq_some_iff] at hmask
  obtain ⟨place, hplace, rfl⟩ := hmask
  obtain ⟨hlt, rfl⟩ := List.getElem?_eq_some_iff.mp hplace
  rw [List.getElem_range, Capabilities.can_afterTurns, beq_iff_eq]
  omega

theorem Alternates.last {scene : Scene} (h : scene.Alternates) :
    scene.masks.getLast?.getD .atStart = scene.conference.capabilities := by
  rw [h.present]
  cases hlength : scene.masks.length with
  | zero =>
      rw [List.length_eq_zero_iff.mp hlength]
      rfl
  | succ turns =>
      rw [h.told, hlength, List.range_succ, List.map_append, List.map_cons, List.map_nil,
        List.getLast?_concat]
      rfl

variable {id : ConferenceId} {config : ConferenceConfig} {handle : Handle} {start : Scene}

/-- However deep others call a conference back, after each request it can be managed exactly if
anyone takes part, and all else that it can is as it was at the start. The subscribers hear of the
right being given and taken by turns, given first; what they heard last holds. -/
theorem manage_follows_roster (hopen : openOver? id config handle = .ok start)
    (requests : List Request) :
    let scene := start.run requests
    let capabilities := scene.conference.capabilities
    (capabilities.can .manageConference = true ↔ scene.conference.roster.isEmpty = false) ∧
    capabilities.remove .manageConference = Capabilities.atStart.remove .manageConference ∧
    (∀ index mask, scene.masks[index]? = some mask →
      (mask.can .manageConference = true ↔ index % 2 = 0)) ∧
    scene.masks.getLast?.getD .atStart = capabilities := by
  intro scene capabilities
  obtain ⟨rfl, -⟩ := eq_openOver_of_openOver? hopen
  have hstart : (openOver id config handle).conference.Synced := Capabilities.can_afterTurns 0
  have hsynced : scene.conference.Synced := synced_run rfl hstart requests
  have halternates : scene.Alternates :=
    Reaches.alternates (reaches_run requests (openOver id config handle)) ⟨rfl, rfl⟩
  refine ⟨?_, ?_, fun index mask => halternates.turn, halternates.last⟩
  · rw [hsynced]
    simp
  · change scene.conference.capabilities.remove _ = _
    rw [halternates.present]
    exact Capabilities.remove_set _ _ _

def nestedTurns : List Request :=
  [.registerChanged
      [[.event (.participantsChanged []),
        .event (.participantsChanged [⟨⟨"guest", by decide⟩, .active, none, none⟩])]],
    .reconcile [⟨⟨"caller", by decide⟩, .active, none, none⟩]]

theorem manage_follows_roster_nestedTurns :
    (fresh.run nestedTurns).conference.roster.isEmpty = true ∧
      (fresh.run nestedTurns).conference.capabilities.can .manageConference = false ∧
      (fresh.run nestedTurns).masks.length = 2 ∧
      (fresh.run nestedTurns).masks.getLast?.getD .atStart =
        (fresh.run nestedTurns).conference.capabilities := by
  obtain ⟨hright, -, -, hlast⟩ := manage_follows_roster openOver?_fresh nestedTurns
  have hnobody : (fresh.run nestedTurns).conference.roster.isEmpty = true := by decide
  refine ⟨hnobody, ?_, by decide, hlast⟩
  rw [Bool.eq_false_iff]
  intro habsurd
  have hsomeone := hright.mp habsurd
  rw [hnobody] at hsomeone
  cases hsomeone

end Scene

end ConferenceBridge
