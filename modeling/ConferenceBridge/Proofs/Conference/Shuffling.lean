import ConferenceBridge.Proofs.Conference.Coupling

namespace ConferenceBridge

/-! The order in which a roster has its entries, and in which those leave who leave together, is
seen in nothing but the order of what is seen. -/

namespace Roster

variable {first second roster : Roster α} {endpoint : Endpoint} {member present : α}
  (hperm : first.entries.Perm second.entries)

include hperm

theorem get?_eq_of_perm (endpoint : Endpoint) : first.get? endpoint = second.get? endpoint := by
  apply Option.ext
  intro member
  rw [get?_eq_some_iff, get?_eq_some_iff, hperm.mem_iff]

theorem isEmpty_eq_of_perm : first.isEmpty = second.isEmpty :=
  hperm.isEmpty_eq

theorem size_eq_of_perm : first.size = second.size :=
  hperm.length_eq

theorem present_of_perm (h : first.insertIfAbsent endpoint member = .present present) :
    second.insertIfAbsent endpoint member = .present present := by
  have hpresent := get?_eq_some_iff.mpr (present_of_insertIfAbsent h)
  rw [get?_eq_of_perm hperm] at hpresent
  unfold insertIfAbsent
  split
  · rename_i other hother
    rw [Option.some.inj (hother.symm.trans hpresent)]
  · rename_i hnone
    rw [hnone] at hpresent
    cases hpresent

theorem stored_of_perm (h : first.insertIfAbsent endpoint member = .stored roster) :
    ∃ other, second.insertIfAbsent endpoint member = .stored other ∧
      roster.entries.Perm other.entries := by
  obtain ⟨habsent, hentries⟩ := stored_of_insertIfAbsent h
  rw [← get?_eq_none_iff, get?_eq_of_perm hperm] at habsent
  cases hinsert : second.insertIfAbsent endpoint member with
  | present number =>
      have hpresent := get?_eq_some_iff.mpr (present_of_insertIfAbsent hinsert)
      rw [habsent] at hpresent
      cases hpresent
  | stored other =>
      refine ⟨other, rfl, ?_⟩
      rw [hentries, (stored_of_insertIfAbsent hinsert).2]
      exact hperm.append_right _

theorem eraseIf?_perm [DecidableEq α] (endpoint : Endpoint) (member : α) :
    (first.eraseIf? endpoint member = none ∧ second.eraseIf? endpoint member = none) ∨
    ∃ roster other, first.eraseIf? endpoint member = some roster ∧
      second.eraseIf? endpoint member = some other ∧ roster.entries.Perm other.entries := by
  unfold eraseIf?
  rw [get?_eq_of_perm hperm]
  split
  · exact .inr ⟨_, _, rfl, rfl, hperm.filter _⟩
  · exact .inl ⟨rfl, rfl⟩

end Roster

theorem Conference.dismantle_of_perm {first second : List Nat} (hperm : first.Perm second)
    (conference : Conference) : conference.dismantle first = conference.dismantle second := by
  rw [dismantle_eq first, dismantle_eq second]
  congr 1
  apply List.ext_getElem?
  intro number
  simp only [getElem?_dismantle, hperm.mem_iff]

def Participant.farewell (participant : Participant) : List Effect :=
  let unobserved := participant.unobserve
  let detached := unobserved.participant.detach
  let disconnected := detached.participant.disconnect .aborted
  unobserved.told ++ detached.told ++ disconnected.told ++ disconnected.participant.destroy.told

namespace Scene

variable {scene : Scene}

theorem dismantle_eq_advance (entry : Endpoint × Nat) (scene : Scene) :
    scene.dismantle entry = scene.advance (scene.conference.modify entry.2 .dismantled)
      ((scene.participant? entry.2).elim [] Participant.farewell ++
        [.noted (.conference (.participantRemoved entry.1))]) := by
  have hconference := conference_dismantle entry scene
  rw [dismantle_eq_operate] at hconference ⊢
  rw [← hconference]
  simp only [operate_eq_advance, note, record_eq_advance, advance_advance, conference_advance]
  congr 1
  simp only [told, participant?, conference_advance, Conference.getElem?_modify, Option.map_map]
  cases scene.conference.participants[entry.2]? with
  | none => rfl
  | some participant => simp [Participant.farewell, Participant.perform]

/-- The same but for the order of the roster and of what was seen. -/
inductive Shuffles (scene : Scene) : Scene → Prop
  | intro {roster : Roster Nat} {history : List Effect}
      (hroster : scene.conference.roster.entries.Perm roster.entries)
      (htold : scene.history.Perm history) :
      Shuffles scene { scene with conference := { scene.conference with roster }, history }

namespace Shuffles

variable {first second third : Scene}

theorem refl (scene : Scene) : scene.Shuffles scene :=
  .intro (.refl _) (.refl _)

theorem trans (hfirst : first.Shuffles second) (hsecond : second.Shuffles third) :
    first.Shuffles third := by
  obtain ⟨hroster, htold⟩ := hfirst
  obtain ⟨hother, hmore⟩ := hsecond
  exact .intro (hroster.trans hother) (htold.trans hmore)

theorem roster_perm (h : first.Shuffles second) :
    first.conference.roster.entries.Perm second.conference.roster.entries := by
  obtain ⟨hroster, -⟩ := h
  exact hroster

theorem participants_eq (h : first.Shuffles second) :
    second.conference.participants = first.conference.participants := by
  cases h
  rfl

theorem participant?_eq (h : first.Shuffles second) (number : Nat) :
    second.participant? number = first.participant? number := by
  cases h
  rfl

theorem tornDown_eq (h : first.Shuffles second) :
    second.conference.tornDown = first.conference.tornDown := by
  cases h
  rfl

theorem register_eq (h : first.Shuffles second) : second.register = first.register := by
  cases h
  rfl

theorem record (h : first.Shuffles second) (effect : Effect) :
    (first.record effect).Shuffles (second.record effect) := by
  obtain ⟨hroster, htold⟩ := h
  exact .intro hroster (htold.cons effect)

theorem setRoster (h : first.Shuffles second) {roster other : Roster Nat}
    (hperm : roster.entries.Perm other.entries) :
    (first.setRoster roster).Shuffles (second.setRoster other) := by
  obtain ⟨-, htold⟩ := h
  exact .intro hperm htold

theorem settle (h : first.Shuffles second) (number : Nat) (outcome : Participant.Outcome) :
    (first.settle number outcome).Shuffles (second.settle number outcome) := by
  obtain ⟨hroster, htold⟩ := h
  exact .intro hroster (htold.append_left _)

theorem operate (h : first.Shuffles second) (number : Nat) (operation : Participant.Operation) :
    (first.operate number operation).Shuffles (second.operate number operation) := by
  unfold Scene.operate
  rw [h.participant?_eq]
  split
  · exact h
  · exact h.settle number _

theorem setCapabilities (h : first.Shuffles second) (capabilities : Capabilities) :
    Shuffles { first with conference := { first.conference with capabilities } }
      { second with conference := { second.conference with capabilities } } := by
  obtain ⟨hroster, htold⟩ := h
  exact .intro hroster htold

theorem refreshManage (h : first.Shuffles second) :
    first.refreshManage.Shuffles second.refreshManage := by
  have hempty := Roster.isEmpty_eq_of_perm h.roster_perm
  have hcapabilities : second.conference.capabilities = first.conference.capabilities := by
    cases h
    rfl
  simp only [Scene.refreshManage, conference_note]
  rw [hcapabilities, hempty]
  split
  · exact h.record _
  · exact ((h.record _).setCapabilities _).record _

theorem forget (h : first.Shuffles second) (number : Nat) :
    (first.forget number).Shuffles (second.forget number) := by
  unfold Scene.forget
  rw [h.participant?_eq]
  split
  · exact h
  · rename_i participant _
    rcases Roster.eraseIf?_perm h.roster_perm participant.endpoint number with
      ⟨hnone, hother⟩ | ⟨roster, other, hsome, hother, hperm⟩
    · rw [hnone, hother]
      exact h
    · rw [hsome, hother]
      exact (((h.setRoster hperm).operate number .detach).record _).refreshManage

theorem callParticipant (h : first.Shuffles second) (number : Nat) (call : ParticipantCall) :
    (first.callParticipant number call).Shuffles (second.callParticipant number call) := by
  unfold Scene.callParticipant
  rw [h.participant?_eq]
  split
  · exact h
  · rename_i participant _
    have hsettled := h.settle number (participant.perform (.call call))
    have hdropped : (second.settle number (participant.perform (.call call))).dropped =
        (first.settle number (participant.perform (.call call))).dropped := by
      cases h
      rfl
    simp only [hdropped]
    split
    · exact hsettled.forget number
    · exact hsettled

theorem dismantle (h : first.Shuffles second) (entry : Endpoint × Nat) :
    (first.dismantle entry).Shuffles (second.dismantle entry) :=
  ((((h.operate entry.2 .unobserve).operate entry.2 .detach).callParticipant entry.2
    (.disconnect .aborted)).callParticipant entry.2 .destroy).record _

theorem of_told (conference : Conference) {told other : List Effect} (h : told.Perm other)
    (scene : Scene) : (scene.advance conference told).Shuffles (scene.advance conference other) :=
  .intro (.refl _) (((told.reverse_perm.trans h).trans other.reverse_perm.symm).append_right _)

theorem dismantle_swap (one other : Endpoint × Nat) (scene : Scene) :
    ((scene.dismantle one).dismantle other).Shuffles
      ((scene.dismantle other).dismantle one) := by
  obtain ⟨endpoint, number⟩ := one
  obtain ⟨place, another⟩ := other
  have hconference : (scene.conference.modify number .dismantled).modify another .dismantled =
      (scene.conference.modify another .dismantled).modify number .dismantled :=
    Conference.dismantle_of_perm (.swap another number []) scene.conference
  simp only [dismantle_eq_advance, advance_advance, conference_advance, participant?,
    Conference.getElem?_modify, hconference]
  apply of_told
  by_cases hsame : another = number
  · subst hsame
    simp only [if_true, List.append_assoc]
    apply List.Perm.append_left
    exact ((List.perm_append_singleton _ _).cons _).trans <|
      (List.Perm.swap _ _ _).trans ((List.perm_append_singleton _ _).symm.cons _)
  · simp only [if_neg hsame, if_neg (Ne.symm hsame), Option.map_id']
    exact List.perm_append_comm

theorem dismantleAll (h : first.Shuffles second) {leaving others : List (Endpoint × Nat)}
    (hperm : leaving.Perm others) :
    (first.dismantleAll leaving).Shuffles (second.dismantleAll others) := by
  have hsame (leaving : List (Endpoint × Nat)) {first second : Scene}
      (h : first.Shuffles second) :
      (first.dismantleAll leaving).Shuffles (second.dismantleAll leaving) := by
    induction leaving generalizing first second with
    | nil => exact h
    | cons entry leaving ih => exact ih (h.dismantle entry)
  induction hperm generalizing first second with
  | nil => exact h
  | cons entry _ ih => exact ih (h.dismantle entry)
  | swap one other leaving =>
      have hfirst := hsame (other :: one :: leaving) h
      have hswapped := hsame leaving (dismantle_swap other one second)
      rw [dismantleAll_cons second, dismantleAll_cons (second.dismantle other)] at hfirst
      rw [dismantleAll_cons second, dismantleAll_cons (second.dismantle one)]
      exact hfirst.trans hswapped
  | trans _ _ ih ihlater => exact (ih h).trans (ihlater (.refl second))

theorem keep (h : first.Shuffles second) (listed : List Endpoint) :
    (first.keep listed).Shuffles (second.keep listed) :=
  (h.setRoster (h.roster_perm.filter _)).dismantleAll (h.roster_perm.filter _)

theorem dismissAll (h : first.Shuffles second) :
    first.dismissAll.1.Shuffles second.dismissAll.1 ∧
      first.dismissAll.2.Perm second.dismissAll.2 := by
  refine ⟨?_, h.roster_perm.map Prod.fst⟩
  unfold Scene.dismissAll
  refine (dismantleAll ?_ h.roster_perm).refreshManage
  rw [← h.roster_perm.isEmpty_eq, ← h.roster_perm.length_eq]
  split
  · exact h.setRoster (.refl _)
  · exact (h.setRoster (.refl _)).record _

theorem setState (h : first.Shuffles second) (next : ConnectionState) :
    (first.setState next).Shuffles (second.setState next) := by
  have hset : Shuffles { first with conference := { first.conference with state := next } }
      { second with conference := { second.conference with state := next } } := by
    obtain ⟨hroster, htold⟩ := h
    exact .intro hroster htold
  have hstate : second.conference.state = first.conference.state := by
    cases h
    rfl
  simp only [Scene.setState, hstate]
  split
  · exact h
  · exact (hset.record _).record _

theorem setDisconnected (h : first.Shuffles second) (cause : DisconnectCause) :
    (first.setDisconnected cause).Shuffles (second.setDisconnected cause) := by
  have hset : Shuffles { first with conference := { first.conference with cause := some cause } }
      { second with conference := { second.conference with cause := some cause } } := by
    obtain ⟨hroster, htold⟩ := h
    exact .intro hroster htold
  have hcause : second.conference.cause = first.conference.cause := by
    cases h
    rfl
  simp only [Scene.setDisconnected, hcause]
  split
  · exact h
  · exact (hset.record _).setState .disconnected

theorem releaseHost (h : first.Shuffles second) :
    first.releaseHost.Shuffles second.releaseHost := by
  obtain ⟨hroster, htold⟩ := h
  simp only [Scene.releaseHost, HostLine.release]
  split
  · exact .intro hroster htold
  · exact .intro hroster (htold.cons _)

theorem tearDown (h : first.Shuffles second) : first.tearDown.Shuffles second.tearDown := by
  have hflagged : Shuffles { first with conference := { first.conference with tornDown := true } }
      { second with conference := { second.conference with tornDown := true } } := by
    obtain ⟨hroster, htold⟩ := h
    exact .intro hroster htold
  simp only [Scene.tearDown, h.tornDown_eq]
  split
  · exact h
  · exact ((hflagged.dismissAll.1.releaseHost).record _).record _

theorem remember (h : first.Shuffles second) (state : ConnectionState) :
    (first.remember state).Shuffles (second.remember state) := by
  obtain ⟨hroster, htold⟩ := h
  exact .intro hroster htold

theorem applyHostState (h : first.Shuffles second) (state : ConnectionState) :
    (first.applyHostState state).Shuffles (second.applyHostState state) := by
  have hnoted := h.record (.noted (.conference (.hostState state)))
  have hcause : second.conference.host.cause second.handle =
      first.conference.host.cause first.handle := by
    cases h
    rfl
  cases state with
  | active => exact hnoted.setState .active
  | held => exact hnoted.setState .held
  | disconnected =>
      have hended := (hnoted.setDisconnected
        (first.conference.host.cause first.handle).disconnectCause).tearDown
      simp only [Scene.applyHostState, Scene.note, Scene.record, hcause]
      exact hended
  | _ => exact hnoted

theorem enroll (h : first.Shuffles second) (entry : Snapshot) {roster other : Roster Nat}
    (hperm : roster.entries.Perm other.entries) :
    (first.enroll entry roster).Shuffles (second.enroll entry other) := by
  obtain ⟨-, htold⟩ := h
  exact .intro hperm (htold.cons _)

end Shuffles

end Scene

structure Reconciliation.Shuffles (first second : Reconciliation) : Prop where
  added : first.added = second.added
  removed : first.removed.Perm second.removed
  updated : first.updated = second.updated

namespace Walk

def settled (walk : Walk) (scene : Scene) : Scene :=
  if (walk.finish scene).2.membershipChanged then (scene.keep walk.reported).refreshManage
  else scene.keep walk.reported

theorem finish_eq_settled (walk : Walk) (scene : Scene) :
    (walk.finish scene).1 = (walk.settled scene).note
      (.reconciled (walk.finish scene).2.added.length (walk.finish scene).2.removed.length
        (walk.finish scene).2.updated (walk.settled scene).conference.roster.size) :=
  rfl

end Walk

structure Walk.Shuffles (first second : Walk) : Prop where
  scene : first.scene.Shuffles second.scene
  reported : first.reported = second.reported
  newcomers : first.newcomers = second.newcomers
  updated : first.updated = second.updated

/-- Calls back do the same to a scene with the roster in another order. -/
def React.Shuffles (react : React) : Prop :=
  ∀ calls {first second : Scene}, first.Shuffles second →
    (react calls first).Shuffles (react calls second)

section Reconcile

variable {react : React} (hreact : React.Shuffles react)

include hreact

theorem Scene.Shuffles.enrollWith {first second : Scene} (h : first.Shuffles second)
    (entry : Snapshot) {roster other : Roster Nat} (hperm : roster.entries.Perm other.entries) :
    (first.enrollWith react entry roster).Shuffles (second.enrollWith react entry other) := by
  have hcalls : second.nextCalls.1 = first.nextCalls.1 := by
    unfold Scene.nextCalls
    rw [h.register_eq]
    split <;> rfl
  have hphone : second.conference.host.phone = first.conference.host.phone := by
    cases h
    rfl
  rw [Scene.enrollWith, Scene.enrollWith, hcalls, hphone]
  exact ((hreact _ (h.enroll entry hperm)).record _).record _

namespace Walk.Shuffles

variable {first second : Walk}

omit hreact in
theorem added_eq (h : first.Shuffles second) : first.added = second.added := by
  rw [added, h.newcomers, added]

theorem enterWith (h : first.Shuffles second) (entry : Snapshot) :
    (first.enterWith react entry).Shuffles (second.enterWith react entry) := by
  cases htorn : first.scene.conference.tornDown with
  | true =>
      have hother := h.scene.tornDown_eq.trans htorn
      rw [Walk.enterWith, if_pos htorn, Walk.enterWith, if_pos hother]
      exact h
  | false =>
      have hother := h.scene.tornDown_eq.trans htorn
      have hknows : second.knows entry.endpoint = first.knows entry.endpoint := by
        rw [knows, ← h.newcomers, knows]
      have hreported : entry.endpoint :: first.reported = entry.endpoint :: second.reported := by
        rw [h.reported]
      have hroster := h.scene.roster_perm
      cases hknown : first.knows entry.endpoint with
      | true =>
          rw [enterWith_of_known htorn react hknown,
            enterWith_of_known hother react (hknows.trans hknown)]
          exact ⟨h.scene, hreported, by rw [h.newcomers], h.updated⟩
      | false =>
          cases hinsert : first.scene.conference.roster.insertIfAbsent entry.endpoint
              first.scene.conference.participants.length with
          | present number =>
              have hpresent := Roster.present_of_perm hroster hinsert
              rw [← h.scene.participants_eq] at hpresent
              have haccepts (operation : Participant.Operation) :
                  second.scene.accepts number operation = first.scene.accepts number operation := by
                rw [Scene.accepts, h.scene.participant?_eq, Scene.accepts]
              rw [enterWith_of_present htorn react hknown hinsert,
                enterWith_of_present hother react (hknows.trans hknown) hpresent]
              exact ⟨h.scene.callParticipant number _, hreported, h.newcomers, by
                rw [haccepts, h.updated]⟩
          | stored roster =>
              obtain ⟨reordered, hstored, hperm⟩ := Roster.stored_of_perm hroster hinsert
              rw [← h.scene.participants_eq] at hstored
              rw [enterWith_of_absent htorn react hknown hinsert,
                enterWith_of_absent hother react (hknows.trans hknown) hstored]
              exact ⟨h.scene.enrollWith hreact entry hperm, hreported, by
                rw [h.newcomers, h.scene.participants_eq], h.updated⟩

theorem foldl (h : first.Shuffles second) (entries : List Snapshot) :
    (entries.foldl (Walk.enterWith react) first).Shuffles
      (entries.foldl (Walk.enterWith react) second) := by
  induction entries generalizing first second with
  | nil => exact h
  | cons entry entries ih => exact ih (h.enterWith hreact entry)

omit hreact

theorem bringUp (h : first.Shuffles second) : first.bringUp.Shuffles second.bringUp := by
  obtain ⟨hscene, -, hnewcomers, -⟩ := h
  unfold Walk.bringUp
  rw [hnewcomers]
  generalize first.scene = one, second.scene = other at hscene
  induction second.newcomers generalizing one other with
  | nil => exact hscene
  | cons newcomer newcomers ih => exact ih _ _ (hscene.callParticipant newcomer.number _)

theorem finishTornDown (h : first.Shuffles second) {one other : Scene}
    (hscene : one.Shuffles other) :
    (first.finishTornDown one).1.Shuffles (second.finishTornDown other).1 ∧
      (first.finishTornDown one).2.Shuffles (second.finishTornDown other).2 := by
  obtain ⟨hdismissed, hremoved⟩ := hscene.dismissAll
  have hadded := h.added_eq
  simp only [Walk.finishTornDown, hadded, hremoved.length_eq]
  exact ⟨hdismissed.record _, rfl, hremoved, h.updated⟩

theorem finish (h : first.Shuffles second) {one other : Scene} (hscene : one.Shuffles other) :
    (first.finish one).1.Shuffles (second.finish other).1 ∧
      (first.finish one).2.Shuffles (second.finish other).2 := by
  have hremoved := (hscene.roster_perm.filter fun entry => entry.1 ∉ first.reported).map Prod.fst
  have hresult : (first.finish one).2.Shuffles (second.finish other).2 := by
    refine ⟨h.added_eq, ?_, h.updated⟩
    simp only [Walk.finish, Roster.splitBy, ← h.reported]
    exact hremoved
  have hchanged : (second.finish other).2.membershipChanged =
      (first.finish one).2.membershipChanged := by
    rw [Reconciliation.membershipChanged, ← hresult.added, ← hresult.removed.isEmpty_eq]
    rfl
  have hsettled : (first.settled one).Shuffles (second.settled other) := by
    have hkept := hscene.keep first.reported
    rw [settled, settled, hchanged, ← h.reported]
    split
    · exact hkept.refreshManage
    · exact hkept
  refine ⟨?_, hresult⟩
  rw [finish_eq_settled, finish_eq_settled, ← hresult.added, ← hresult.removed.length_eq,
    ← hresult.updated, ← Roster.size_eq_of_perm hsettled.roster_perm]
  exact hsettled.record _

end Walk.Shuffles

namespace Scene.Shuffles

variable {first second : Scene}

theorem reconcileWith (h : first.Shuffles second) (entries : List Snapshot) :
    (first.reconcileWith react entries).1.Shuffles (second.reconcileWith react entries).1 ∧
      (first.reconcileWith react entries).2.Shuffles (second.reconcileWith react entries).2 := by
  simp only [Scene.reconcileWith, h.tornDown_eq]
  split
  · exact ⟨h.record _, rfl, .refl _, rfl⟩
  · have hstart : Walk.Shuffles { scene := first } { scene := second } := ⟨h, rfl, rfl, rfl⟩
    have hwalk := hstart.foldl hreact entries
    have hbrought := hwalk.bringUp
    rw [hbrought.tornDown_eq]
    split
    · exact hwalk.finishTornDown hbrought
    · exact hwalk.finish hbrought

theorem processWith (h : first.Shuffles second) (event : HostEvent) :
    (first.processWith react event).Shuffles (second.processWith react event) := by
  unfold Scene.processWith
  by_cases htorn : first.conference.tornDown = true
  · rw [if_pos htorn, if_pos (h.tornDown_eq.trans htorn)]
    exact h.record _
  · rw [if_neg htorn, if_neg (h.tornDown_eq ▸ htorn)]
    cases event with
    | stateChanged code =>
        cases hcode : ConnectionState.ofCode? code with
        | none =>
            simp only [hcode]
            exact h.record _
        | some state =>
            simp only [hcode]
            exact (h.remember state).applyHostState state
    | disconnected cause => exact h.setDisconnected _
    | destroyed => exact (h.record _).tearDown
    | participantsChanged entries => exact ((h.record _).reconcileWith hreact entries).1

theorem performWith (h : first.Shuffles second) (call : RegisterCall) :
    (first.performWith react call).Shuffles (second.performWith react call) := by
  cases call with
  | event event => exact h.processWith hreact event
  | participant number call => exact h.callParticipant number call

end Scene.Shuffles

end Reconcile

namespace Scene

variable {first second : Scene}

theorem shuffles_foldl {α : Type} {act : Scene → α → Scene}
    (hact : ∀ value {first second : Scene}, first.Shuffles second →
      (act first value).Shuffles (act second value))
    (h : first.Shuffles second) (values : List α) :
    (values.foldl act first).Shuffles (values.foldl act second) := by
  induction values generalizing first second with
  | nil => exact h
  | cons value values ih => exact ih (hact value h)

theorem shuffles_reactAt (depth : Nat) : React.Shuffles (reactAt depth) := by
  induction depth with
  | zero => exact fun _ _ _ h => h
  | succ depth ih =>
      exact fun calls _ _ h => shuffles_foldl (fun call _ _ h => h.performWith ih call) h calls

namespace Shuffles

theorem process (h : first.Shuffles second) (event : HostEvent) :
    (first.process event).Shuffles (second.process event) := by
  rw [Scene.process, Scene.process, h.register_eq]
  exact h.processWith (shuffles_reactAt _) event

theorem perform (h : first.Shuffles second) (call : RegisterCall) :
    (first.perform call).Shuffles (second.perform call) := by
  rw [Scene.perform, Scene.perform, h.register_eq]
  exact h.performWith (shuffles_reactAt _) call

theorem reconcile (h : first.Shuffles second) (entries : List Snapshot) :
    (first.reconcile entries).1.Shuffles (second.reconcile entries).1 ∧
      (first.reconcile entries).2.Shuffles (second.reconcile entries).2 := by
  rw [Scene.reconcile, Scene.reconcile, h.register_eq]
  exact h.reconcileWith (shuffles_reactAt _) entries

theorem processQueue (h : first.Shuffles second) (events : List HostEvent) :
    (first.processQueue events).Shuffles (second.processQueue events) := by
  induction events generalizing first second with
  | nil => exact h.record _
  | cons event events ih =>
      have hprocessed := h.process event
      simp only [Scene.processQueue, hprocessed.tornDown_eq]
      split
      · exact hprocessed.record _
      · exact ih hprocessed

theorem pass (h : first.Shuffles second) (command : HostCommand) :
    (first.pass command).1.Shuffles (second.pass command).1 ∧
      (first.pass command).2 = (second.pass command).2 := by
  have hobstacle : second.conference.host.obstacle? second.handle command =
      first.conference.host.obstacle? first.handle command := by
    cases h
    rfl
  have hanswer : second.handle.answer command = first.handle.answer command := by
    cases h
    rfl
  simp only [Scene.pass, hobstacle, hanswer]
  split
  · exact ⟨h.record _, rfl⟩
  · exact ⟨(shuffles_foldl (fun call _ _ h => h.perform call) (h.record _) _).record _, rfl⟩

theorem act (h : first.Shuffles second) (action : UserAction) :
    (first.act action).1.Shuffles (second.act action).1 ∧
      (first.act action).2 = (second.act action).2 := by
  cases action with
  | command command =>
      simp only [Scene.act, Scene.command]
      split
      · exact (h.record _).pass command
      · exact h.pass command
  | split endpoint => exact ⟨h.record _, rfl⟩
  | merge connection =>
      simp only [Scene.act, Scene.merge]
      split
      · exact ⟨h.record _, rfl⟩
      · split <;> exact ⟨(h.record _).record _, rfl⟩
  | offer connection => exact ⟨h.record _, rfl⟩

theorem serve (h : first.Shuffles second) (request : Request) :
    (first.serve request).Shuffles (second.serve request) := by
  cases request with
  | event event => exact h.process event
  | queue events => exact h.processQueue events
  | hostState state => exact h.applyHostState state
  | reconcile entries => exact (h.reconcile entries).1
  | action action => exact (h.act action).1
  | participant number call => exact h.callParticipant number call
  | handleChanged handle =>
      obtain ⟨hroster, htold⟩ := h
      exact .intro hroster htold
  | registerChanged register =>
      obtain ⟨hroster, htold⟩ := h
      exact .intro hroster htold

end Shuffles

/-- Whatever order a roster has its entries in, the same becomes of everyone, and the same is
seen. -/
theorem shuffles_run (h : first.Shuffles second) (requests : List Request) :
    (first.run requests).Shuffles (second.run requests) :=
  shuffles_foldl (fun request _ _ h => h.serve request) h requests

end Scene

end ConferenceBridge
