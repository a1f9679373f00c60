import ConferenceBridge.Proofs.Conference.Attribution

namespace ConferenceBridge

/-! The life of a participant, whatever is asked of it in whatever order. Its observer may be anyone,
and may ask something of it itself when it is told of the destruction; the conference is such an
observer. What is final stays, and is told once. -/

def Change.isStateChange : Change → Bool
  | .participantState _ _ _ => true
  | _ => false

namespace Participant

/-- What an observer does to a participant of whose destruction it is told. -/
abbrev Observer := Participant → List Operation

structure Moment where
  before : Participant
  operation : Operation

namespace Moment

def outcome (moment : Moment) : Outcome :=
  moment.before.perform moment.operation

def after (moment : Moment) : Participant :=
  moment.outcome.participant

/-- What is to be done next: an observer that is told goes before all that waits. -/
def agenda (observer : Observer) (moment : Moment) (waiting : List Operation) : List Operation :=
  if moment.outcome.notifies then observer moment.after ++ waiting else waiting

end Moment

theorem notifies_perform_iff {participant : Participant} {operation : Operation} :
    (participant.perform operation).notifies = true ↔
      operation = .call .destroy ∧ participant.destroyed = false ∧ participant.observed = true := by
  cases operation with
  | call call =>
      by_cases hdestroy : call = .destroy
      · subst hdestroy
        simp only [perform, destroy, unchanged]
        split <;> simp_all
      · simp [(perform_call_of_ne_destroy hdestroy participant).1, hdestroy]
  | unobserve =>
      simp only [perform, unobserve, unchanged]
      split <;> simp
  | detach =>
      simp only [perform, detach, unchanged]
      split <;> simp

theorem observed_perform_iff {participant : Participant}
    (hends : participant.destroyed = true → participant.observed = false) (operation : Operation) :
    (participant.perform operation).participant.observed = true ↔
      participant.observed = true ∧ operation ≠ .unobserve ∧ operation ≠ .call .destroy := by
  cases operation with
  | call call =>
      by_cases hdestroy : call = .destroy
      · subst hdestroy
        simp only [perform, destroy, unchanged]
        split <;> simp_all
      · simp [(perform_call_of_ne_destroy hdestroy participant).2.2.2, hdestroy]
  | unobserve =>
      simp only [perform, unobserve, unchanged]
      split <;> simp_all
  | detach =>
      simp only [perform, detach, unchanged]
      split <;> simp

/-- An observer that is told is not told again; otherwise there is less left to do. -/
theorem Moment.agenda_decreases (observer : Observer) (moment : Moment)
    (waiting : List Operation) :
    Prod.Lex (· < ·) (· < ·)
      (moment.after.observed.toNat, (moment.agenda observer waiting).length)
      (moment.before.observed.toNat, waiting.length + 1) := by
  unfold agenda
  split
  · rename_i hnotifies
    obtain ⟨hdestroy, hgoes, hobserved⟩ := notifies_perform_iff.mp hnotifies
    have hover : moment.after.observed = false := by
      simp [after, outcome, hdestroy, perform, destroy, hgoes]
    rw [hover, hobserved]
    exact .left _ _ Nat.one_pos
  · have hless : moment.after.observed.toNat ≤ moment.before.observed.toNat := by
      have hunobserved := (moment.before.continues_perform moment.operation).unobserved
      cases hobserved : moment.before.observed with
      | true => exact Bool.toNat_le _
      | false => simp [after, outcome, hunobserved hobserved]
    rcases Nat.lt_or_eq_of_le hless with hlt | heq
    · exact .left _ _ hlt
    · rw [heq]
      exact .right _ (Nat.lt_succ_self _)

def life (observer : Observer) : Participant → List Operation → List Moment
  | _, [] => []
  | participant, operation :: waiting =>
      let moment : Moment := ⟨participant, operation⟩
      moment :: life observer moment.after (moment.agenda observer waiting)
termination_by participant operations => (participant.observed.toNat, operations.length)
decreasing_by exact Moment.agenda_decreases observer _ _

/-- As it is after each operation, and before the first. -/
def stages (participant : Participant) (life : List Moment) : List Participant :=
  participant :: life.map Moment.after

def last (participant : Participant) (life : List Moment) : Participant :=
  life.foldl (fun _ moment => moment.after) participant

def tales (life : List Moment) : List Change :=
  life.flatMap fun moment => moment.outcome.changes

/-- A moment answers truly: what is accepted is done and told, and what is refused does nothing. -/
structure Moment.Candid (moment : Moment) : Prop where
  update : ∀ next, moment.operation = .call (.update next) →
    (moment.outcome.accepted = true ↔ moment.before.destroyed = false ∧
      moment.before.state ≠ .disconnected ∧ moment.before.state ≠ next) ∧
    (moment.outcome.accepted = true → moment.after = { moment.before with state := next } ∧
      moment.outcome.changes =
        [.participantState moment.before.endpoint moment.before.state next])
  disconnect : ∀ cause, moment.operation = .call (.disconnect cause) →
    (moment.outcome.accepted = true ↔
      moment.before.destroyed = false ∧ moment.before.cause = none) ∧
    (moment.outcome.accepted = true →
      moment.after = { moment.before with state := .disconnected, cause := some cause } ∧
      moment.outcome.changes = [.participantDisconnected moment.before.endpoint cause])
  refused : moment.outcome.accepted = false →
    moment.after = moment.before ∧ moment.outcome.changes = []
  notifies : moment.outcome.notifies = true →
    moment.after.destroyed = true ∧ moment.after.observed = false

theorem Moment.candid (moment : Moment) : moment.Candid where
  update next hoperation := by
    simp only [after, outcome, hoperation, perform, Participant.update, unchanged]
    cases hgone : moment.before.destroyed <;> by_cases hsame : moment.before.state = next <;>
      by_cases hfinal : moment.before.state = .disconnected <;>
        simp_all [ConnectionState.isFinal]
  disconnect cause hoperation := by
    simp only [after, outcome, hoperation, perform, Participant.disconnect, unchanged]
    cases hgone : moment.before.destroyed <;> cases hcause : moment.before.cause <;> simp
  refused := participant_perform_of_not_accepted
  notifies hnotifies := by
    obtain ⟨hdestroy, hgoes, -⟩ := notifies_perform_iff.mp hnotifies
    simp [after, outcome, hdestroy, perform, destroy, hgoes]

variable {observer : Observer} {participant : Participant} {operation : Operation}
  {operations waiting : List Operation} {moment : Moment} {earlier later : List Moment}

theorem life_cons (observer : Observer) (participant : Participant) (operation : Operation)
    (waiting : List Operation) :
    life observer participant (operation :: waiting) =
      ⟨participant, operation⟩ ::
        life observer (participant.perform operation).participant
          (Moment.agenda observer ⟨participant, operation⟩ waiting) := by
  rw [life]
  rfl

theorem life_singleton (observer : Observer) (participant : Participant) (operation : Operation) :
    life observer participant [operation] = ⟨participant, operation⟩ ::
      if (participant.perform operation).notifies then
        life observer (participant.perform operation).participant
          (observer (participant.perform operation).participant)
      else [] := by
  rw [life_cons, Moment.agenda, List.append_nil, Moment.after, Moment.outcome]
  cases (participant.perform operation).notifies with
  | true => rfl
  | false => simp [life]

theorem exists_life_eq (h : life observer participant operations = earlier ++ moment :: later) :
    ∃ waiting, later = life observer moment.after waiting := by
  induction earlier generalizing participant operations with
  | nil =>
      cases operations with
      | nil => simp [life] at h
      | cons operation operations =>
          rw [life_cons, List.nil_append, List.cons.injEq] at h
          obtain ⟨rfl, rfl⟩ := h
          exact ⟨_, rfl⟩
  | cons first earlier ih =>
      cases operations with
      | nil => simp [life] at h
      | cons operation operations =>
          rw [life_cons, List.cons_append, List.cons.injEq] at h
          exact ih h.2

theorem continues_of_mem_stages {stage : Participant}
    (h : stage ∈ participant.stages (life observer participant operations)) :
    participant.Continues stage := by
  induction participant, operations using life.induct observer with
  | case1 participant =>
      obtain rfl : stage = participant := by simpa [stages, life] using h
      exact .refl stage
  | case2 participant operation waiting moment ih =>
      rw [life_cons, stages, List.mem_cons] at h
      rcases h with rfl | hlater
      · exact .refl stage
      · exact (participant.continues_perform operation).trans (ih hlater)

theorem pairwise_stages (observer : Observer) (participant : Participant)
    (operations : List Operation) :
    (participant.stages (life observer participant operations)).Pairwise Continues := by
  induction participant, operations using life.induct observer with
  | case1 participant => simp [stages, life]
  | case2 participant operation waiting moment ih =>
      refine List.Pairwise.cons (fun stage hstage => ?_) ?_
      · exact continues_of_mem_stages (List.mem_cons_of_mem _ hstage)
      · rw [life_cons]
        exact ih

theorem last_mem_stages (participant : Participant) (life : List Moment) :
    participant.last life ∈ participant.stages life := by
  induction life generalizing participant with
  | nil => exact List.mem_cons_self
  | cons moment life ih => exact List.mem_cons_of_mem _ (ih moment.after)

theorem before_mem_stages (h : moment ∈ life observer participant operations) :
    moment.before ∈ participant.stages (life observer participant operations) := by
  induction participant, operations using life.induct observer with
  | case1 participant => simp [life] at h
  | case2 participant operation waiting first ih =>
      rw [life_cons, List.mem_cons] at h
      rw [life_cons]
      rcases h with rfl | hlater
      · exact List.mem_cons_self
      · exact List.mem_cons_of_mem _ (ih hlater)

theorem of_mem_stages {P : Participant → Prop}
    (hperform : ∀ participant operation, P participant → P (perform participant operation).participant)
    (hparticipant : P participant) {stage : Participant}
    (h : stage ∈ participant.stages (life observer participant operations)) : P stage := by
  induction participant, operations using life.induct observer with
  | case1 participant =>
      obtain rfl : stage = participant := by simpa [stages, life] using h
      exact hparticipant
  | case2 participant operation waiting moment ih =>
      rw [life_cons, stages, List.mem_cons] at h
      rcases h with rfl | hlater
      · exact hparticipant
      · exact ih (hperform participant operation hparticipant) hlater

/-- A disconnected participant with a cause is in its final state, and nobody observes a destroyed one. -/
structure Proper (participant : Participant) : Prop where
  final : participant.cause.isSome = true → participant.state = .disconnected
  ends : participant.destroyed = true → participant.observed = false

theorem Proper.perform (h : participant.Proper) (operation : Operation) :
    (participant.perform operation).participant.Proper where
  final := (changes_perform h.final operation).2.2
  ends := by
    have hends := h.ends
    unfold Participant.perform Participant.update Participant.disconnect destroy unobserve detach
      unchanged
    repeat' split
    all_goals simp_all

theorem proper_of_mem_stages (hproper : participant.Proper) {stage : Participant}
    (h : stage ∈ participant.stages (life observer participant operations)) : stage.Proper :=
  of_mem_stages (fun _ operation hother => hother.perform operation) hproper h

/-! What is told of a life. -/

/-- If each operation tells what it brings about, a whole life does, newest first. -/
theorem owed_last {kind : Change → Bool} {owed : Participant → List Change}
    (hperform : ∀ {participant : Participant}, participant.Proper → ∀ operation,
      owed (participant.perform operation).participant =
        (participant.perform operation).changes.filter kind ++ owed participant)
    (hproper : participant.Proper) (observer : Observer) (operations : List Operation) :
    owed (participant.last (life observer participant operations)) =
      ((tales (life observer participant operations)).filter kind).reverse ++ owed participant := by
  induction participant, operations using life.induct observer with
  | case1 participant => simp [life, last, tales]
  | case2 participant operation waiting moment ih =>
      have hfirst : owed moment.after = moment.outcome.changes.filter kind ++ owed participant :=
        hperform hproper operation
      have htold : (moment.outcome.changes.filter kind).reverse =
          moment.outcome.changes.filter kind := by
        rw [← List.filter_reverse]
        exact congrArg (List.filter kind) (participant.reverse_changes operation)
      have hlast : participant.last (life observer participant (operation :: waiting)) =
          moment.after.last (life observer moment.after (moment.agenda observer waiting)) := by
        rw [life_cons]
        rfl
      have htales : tales (life observer participant (operation :: waiting)) =
          moment.outcome.changes ++
            tales (life observer moment.after (moment.agenda observer waiting)) := by
        rw [life_cons]
        rfl
      rw [hlast, ih (hproper.perform operation), hfirst, htales, List.filter_append,
        List.reverse_append, htold, List.append_assoc]

def removals (participant : Participant) : List Change :=
  if participant.attached then [] else [.participantRemoved participant.endpoint]

def disconnections (participant : Participant) : List Change :=
  participant.cause.toList.map (.participantDisconnected participant.endpoint)

theorem removals_last (hproper : participant.Proper) (observer : Observer)
    (operations : List Operation) :
    (participant.last (life observer participant operations)).removals =
      ((tales (life observer participant operations)).filter Change.isRemoval).reverse ++
        participant.removals := by
  refine owed_last (fun hother operation => ?_) hproper observer operations
  rw [removals, endpoint_perform]
  exact (changes_perform hother.final operation).1

theorem disconnections_last (hproper : participant.Proper) (observer : Observer)
    (operations : List Operation) :
    (participant.last (life observer participant operations)).disconnections =
      ((tales (life observer participant operations)).filter Change.isDisconnection).reverse ++
        participant.disconnections := by
  refine owed_last (fun hother operation => ?_) hproper observer operations
  rw [disconnections, endpoint_perform]
  exact (changes_perform hother.final operation).2.1

/-- A removal is told at most once, and if and only if it takes place. -/
theorem filter_isRemoval_tales (hproper : participant.Proper) (hnone : participant.removals = []) :
    (tales (life observer participant operations)).filter Change.isRemoval =
      (participant.last (life observer participant operations)).removals := by
  have howed := removals_last hproper observer operations
  rw [hnone, List.append_nil] at howed
  rw [List.reverse_eq_iff.mp howed.symm, removals]
  split <;> rfl

theorem filter_isDisconnection_tales (hproper : participant.Proper)
    (hnone : participant.disconnections = []) :
    (tales (life observer participant operations)).filter Change.isDisconnection =
      (participant.last (life observer participant operations)).disconnections := by
  have howed := disconnections_last hproper observer operations
  rw [hnone, List.append_nil] at howed
  rw [List.reverse_eq_iff.mp howed.symm, disconnections]
  cases (participant.last (life observer participant operations)).cause <;> rfl

theorem Moment.changes_eq (moment : Moment) :
    moment.outcome.changes = [] ∨ ∃ change, moment.outcome.changes = [change] := by
  unfold outcome perform update disconnect destroy unobserve detach unchanged
  repeat' split
  all_goals simp

theorem exists_moment_of_tales {moments : List Moment} {told more : List Change} {change : Change}
    (h : tales moments = told ++ change :: more) :
    ∃ earlier moment later, moments = earlier ++ moment :: later ∧
      moment.outcome.changes = [change] ∧ more = tales later := by
  induction moments generalizing told with
  | nil => simp [tales] at h
  | cons moment moments ih =>
      have hsplit : moment.outcome.changes ++ tales moments = told ++ change :: more := h
      have hlater (rest : List Change) (hrest : tales moments = rest ++ change :: more) :
          ∃ earlier other later, moment :: moments = earlier ++ other :: later ∧
            other.outcome.changes = [change] ∧ more = tales later := by
        obtain ⟨earlier, other, later, rfl, hother⟩ := ih hrest
        exact ⟨moment :: earlier, other, later, rfl, hother⟩
      rcases moment.changes_eq with hnone | ⟨first, hfirst⟩
      · rw [hnone] at hsplit
        exact hlater told hsplit
      · rw [hfirst] at hsplit
        cases told with
        | nil =>
            obtain ⟨rfl, rfl⟩ := List.cons.inj hsplit
            exact ⟨[], moment, moments, rfl, hfirst, rfl⟩
        | cons _ rest => exact hlater rest (List.cons.inj hsplit).2

/-- If each operation keeps a condition and tells only certain things under it, a whole life does. -/
theorem forall_mem_tales (Kept : Participant → Prop) {Allowed : Change → Prop}
    (hperform : ∀ participant operation, Kept participant →
      Kept (perform participant operation).participant ∧
        ∀ change ∈ (perform participant operation).changes, Allowed change)
    (hkept : Kept participant) :
    ∀ change ∈ tales (life observer participant operations), Allowed change := by
  induction participant, operations using life.induct observer with
  | case1 participant => simp [life, tales]
  | case2 participant operation waiting moment ih =>
      rw [life_cons]
      intro change hchange
      obtain ⟨hnext, hallowed⟩ := hperform participant operation hkept
      rcases List.mem_append.mp hchange with hfirst | hlater
      · exact hallowed change hfirst
      · exact ih hnext change hlater

theorem Moment.disconnected_of_changes {endpoint : Endpoint} {cause : DisconnectCause}
    (h : moment.outcome.changes = [.participantDisconnected endpoint cause]) :
    moment.after.state = .disconnected := by
  revert h
  unfold after outcome perform update disconnect destroy unobserve detach unchanged
  repeat' split
  all_goals simp

theorem Moment.destroyed_of_destroy (h : moment.operation = .call .destroy) :
    moment.after.destroyed = true := by
  simp only [after, outcome, h, perform, destroy, unchanged]
  split
  · assumption
  · rfl

theorem no_stateChange_of_disconnected (h : participant.state = .disconnected) :
    ∀ change ∈ tales (life observer participant operations), change.isStateChange = false := by
  refine forall_mem_tales (fun participant => participant.state = .disconnected) ?_ h
  intro other operation hfinal
  refine ⟨(continues_perform other operation).disconnected hfinal, ?_⟩
  unfold perform update disconnect destroy unobserve detach unchanged
  repeat' split
  all_goals simp_all [Change.isStateChange, ConnectionState.isFinal]

theorem no_stateChange_after {told more : List Change} {endpoint : Endpoint}
    {cause : DisconnectCause} (h : tales (life observer participant operations) =
      told ++ .participantDisconnected endpoint cause :: more) :
    ∀ change ∈ more, change.isStateChange = false := by
  obtain ⟨earlier, moment, later, hmoments, hchanges, rfl⟩ := exists_moment_of_tales h
  obtain ⟨waiting, rfl⟩ := exists_life_eq hmoments
  exact no_stateChange_of_disconnected (Moment.disconnected_of_changes hchanges)

theorem isRemoval_of_destroyed (h : participant.destroyed = true) :
    ∀ change ∈ tales (life observer participant operations), change.isRemoval = true := by
  refine forall_mem_tales (fun participant => participant.destroyed = true) ?_ h
  intro other operation hgone
  refine ⟨(continues_perform other operation).destroyed hgone, ?_⟩
  unfold perform update disconnect destroy unobserve detach unchanged
  repeat' split
  all_goals simp_all [Change.isRemoval]

theorem tales_of_destroyed (hproper : participant.Proper) (hgone : participant.destroyed = true) :
    (tales (life observer participant operations)).Sublist
      [.participantRemoved participant.endpoint] := by
  have howed := removals_last hproper observer operations
  have hendpoint : (participant.last (life observer participant operations)).endpoint =
      participant.endpoint :=
    (continues_of_mem_stages (last_mem_stages _ _)).endpoint
  rw [List.filter_eq_self.mpr (isRemoval_of_destroyed hgone), removals, hendpoint] at howed
  have hpart : (tales (life observer participant operations)).reverse.Sublist
      ((tales (life observer participant operations)).reverse ++ participant.removals) :=
    List.sublist_append_left _ _
  rw [← howed] at hpart
  refine List.reverse_sublist.mp (hpart.trans ?_)
  split <;> simp

theorem tales_after_destroy (hproper : participant.Proper)
    (h : life observer participant operations = earlier ++ moment :: later)
    (hdestroy : moment.operation = .call .destroy) :
    (tales later).Sublist [.participantRemoved participant.endpoint] := by
  obtain ⟨waiting, rfl⟩ := exists_life_eq h
  have hbefore : moment.before ∈ participant.stages (life observer participant operations) :=
    before_mem_stages (h ▸ List.mem_append_right _ List.mem_cons_self)
  have hafter : moment.after.endpoint = participant.endpoint :=
    (endpoint_perform moment.before moment.operation).trans
      (continues_of_mem_stages hbefore).endpoint
  rw [← hafter]
  exact tales_of_destroyed ((proper_of_mem_stages hproper hbefore).perform _)
    (Moment.destroyed_of_destroy hdestroy)

/-! Who is told of the destruction. -/

theorem notifies_of_unobserved (hunobserved : participant.observed = false) :
    ∀ moment ∈ life observer participant operations, moment.outcome.notifies = false := by
  intro moment hmoment
  have hbefore : moment.before.observed = false :=
    (continues_of_mem_stages (before_mem_stages hmoment)).unobserved hunobserved
  rw [← Bool.not_eq_true]
  intro hnotifies
  obtain ⟨-, -, hobserved⟩ := notifies_perform_iff.mp hnotifies
  rw [hbefore] at hobserved
  cases hobserved

theorem notices_le_one (observer : Observer) (participant : Participant)
    (operations : List Operation) :
    (life observer participant operations).countP (·.outcome.notifies) ≤ 1 := by
  induction participant, operations using life.induct observer with
  | case1 participant => simp [life]
  | case2 participant operation waiting moment ih =>
      rw [life_cons, List.countP_cons]
      split
      · rename_i hnotifies
        have hover := ((Moment.candid moment).notifies hnotifies).2
        have hnever : (life observer moment.after (moment.agenda observer waiting)).countP
            (·.outcome.notifies) = 0 :=
          List.countP_eq_zero.mpr fun later hlater => by
            simp [notifies_of_unobserved hover later hlater]
        exact Nat.le_of_eq (congrArg (· + 1) hnever)
      · exact ih

theorem observed_before_iff (hproper : participant.Proper)
    (h : life observer participant operations = earlier ++ moment :: later) :
    moment.before.observed = true ↔ participant.observed = true ∧
      ∀ other ∈ earlier, other.operation ≠ .unobserve ∧ other.operation ≠ .call .destroy := by
  induction earlier generalizing participant operations with
  | nil =>
      cases operations with
      | nil => simp [life] at h
      | cons operation operations =>
          rw [life_cons, List.nil_append, List.cons.injEq] at h
          simp [← h.1]
  | cons first earlier ih =>
      cases operations with
      | nil => simp [life] at h
      | cons operation operations =>
          rw [life_cons, List.cons_append, List.cons.injEq] at h
          obtain ⟨rfl, hlater⟩ := h
          rw [ih (hproper.perform operation) hlater, observed_perform_iff hproper.ends,
            List.forall_mem_cons]
          exact ⟨fun ⟨⟨a, b⟩, c⟩ => ⟨a, b, c⟩, fun ⟨a, b, c⟩ => ⟨⟨a, b⟩, c⟩⟩

theorem notices_eq_one_iff (hproper : participant.Proper) :
    (life observer participant operations).countP (·.outcome.notifies) = 1 ↔
      ∃ moment ∈ life observer participant operations,
        moment.operation = .call .destroy ∧ moment.before.observed = true := by
  have hmost := notices_le_one observer participant operations
  constructor
  · intro hone
    obtain ⟨moment, hmoment, hnotifies⟩ :=
      List.countP_pos_iff.mp (Nat.lt_of_lt_of_eq Nat.one_pos hone.symm)
    obtain ⟨hdestroy, -, hobserved⟩ := notifies_perform_iff.mp hnotifies
    exact ⟨moment, hmoment, hdestroy, hobserved⟩
  · rintro ⟨moment, hmoment, hdestroy, hobserved⟩
    have hgoes : moment.before.destroyed = false := by
      rw [← Bool.not_eq_true]
      intro hgone
      rw [(proper_of_mem_stages hproper (before_mem_stages hmoment)).ends hgone] at hobserved
      cases hobserved
    exact Nat.le_antisymm hmost <| List.countP_pos_iff.mpr
      ⟨moment, hmoment, notifies_perform_iff.mpr ⟨hdestroy, hgoes, hobserved⟩⟩

theorem proper_ofSnapshot (snapshot : Snapshot) (initial : ConnectionState) :
    (ofSnapshot snapshot initial).Proper where
  final h := by cases h
  ends h := by cases h

/-- Whatever is asked of a participant, and whatever an observer asks of it that is told of its
destruction: what is final stays, what it accepts is done and told and nothing else is, and each end
is told once. -/
theorem life_in_order (snapshot : Snapshot) (initial : ConnectionState) (id : ConferenceId)
    (observer : Observer) (operations : List Operation) :
    let newborn := ofSnapshot snapshot initial
    let moments := life observer newborn operations
    let stages := newborn.stages moments
    let last := newborn.last moments
    stages.Pairwise (fun earlier later =>
        (earlier.state = .disconnected → later.state = .disconnected) ∧
        (earlier.cause.isSome = true → later.cause = earlier.cause) ∧
        (earlier.destroyed = true → later.destroyed = true) ∧
        (earlier.conference? id = none → later.conference? id = none)) ∧
      (∀ stage ∈ stages, stage.cause.isSome = true → stage.state = .disconnected) ∧
      (∀ moment ∈ moments, moment.Candid) ∧
      (tales moments).filter Change.isRemoval =
        (if last.attached then [] else [.participantRemoved snapshot.endpoint]) ∧
      (tales moments).filter Change.isDisconnection =
        last.cause.toList.map (.participantDisconnected snapshot.endpoint) ∧
      (∀ told cause more,
        tales moments = told ++ .participantDisconnected snapshot.endpoint cause :: more →
        ∀ change ∈ more, change.isStateChange = false) ∧
      (∀ earlier moment later, moments = earlier ++ moment :: later →
        moment.operation = .call .destroy →
        (tales later).Sublist [.participantRemoved snapshot.endpoint]) ∧
      moments.countP (·.outcome.notifies) ≤ 1 ∧
      (moments.countP (·.outcome.notifies) = 1 ↔ ∃ moment ∈ moments,
        moment.operation = .call .destroy ∧ moment.before.observed = true) ∧
      ∀ earlier moment later, moments = earlier ++ moment :: later →
        (moment.before.observed = true ↔
          ∀ other ∈ earlier, other.operation ≠ .unobserve ∧ other.operation ≠ .call .destroy) := by
  have hproper := proper_ofSnapshot snapshot initial
  have hlast := (continues_of_mem_stages (last_mem_stages (ofSnapshot snapshot initial)
    (life observer (ofSnapshot snapshot initial) operations))).endpoint
  refine ⟨?_, fun _ hstage => (proper_of_mem_stages hproper hstage).final,
    fun moment _ => moment.candid, ?_, ?_, fun _ _ _ => no_stateChange_after,
    fun _ _ _ => tales_after_destroy hproper, notices_le_one _ _ _, notices_eq_one_iff hproper, ?_⟩
  · refine (pairwise_stages observer _ operations).imp fun hcontinues => ?_
    refine ⟨hcontinues.disconnected, hcontinues.cause, hcontinues.destroyed, ?_⟩
    intro hdetached
    have hleft := hcontinues.detached
    simp_all [conference?]
  · rw [filter_isRemoval_tales hproper rfl, removals, hlast]
    rfl
  · rw [filter_isDisconnection_tales hproper rfl, disconnections, hlast]
    rfl
  · intro earlier moment later hmoments
    rw [observed_before_iff hproper hmoments]
    exact and_iff_right rfl

def called : Snapshot :=
  ⟨⟨"busyLine", by decide⟩, .active, none, none⟩

def meddlesome : Observer := fun _ => [.call (.update .active), .detach, .call .destroy]

def busyCall : List Moment :=
  life meddlesome (ofSnapshot called .held)
    [.call (.update .ringing), .call (.disconnect .busy), .call .destroy, .unobserve]

theorem life_in_order_busyCall :
    busyCall.map (·.outcome.accepted) = [true, true, true, false, true, false, false] ∧
      tales busyCall = [.participantState called.endpoint .held .ringing,
        .participantDisconnected called.endpoint .busy, .participantRemoved called.endpoint] ∧
      (Change.participantRemoved called.endpoint).isStateChange = false ∧
      (tales (busyCall.drop 3)).Sublist [.participantRemoved called.endpoint] ∧
      busyCall.countP (·.outcome.notifies) = 1 := by
  obtain ⟨-, -, -, -, -, hfinal, hends, -, hnotified, -⟩ :=
    life_in_order called .held .nil meddlesome
      [.call (.update .ringing), .call (.disconnect .busy), .call .destroy, .unobserve]
  let given : Moment :=
    ⟨{ ofSnapshot called .held with state := .disconnected, cause := some .busy }, .call .destroy⟩
  have hsplit : busyCall = busyCall.take 2 ++ given :: busyCall.drop 3 := by cbv
  refine ⟨by cbv, by cbv, ?_, ?_, ?_⟩
  · exact hfinal [.participantState called.endpoint .held .ringing] .busy
      [.participantRemoved called.endpoint] (by cbv) _ (List.mem_singleton.mpr rfl)
  · exact hends _ given _ hsplit rfl
  · have hgiven : given ∈ busyCall := by
      rw [hsplit]
      exact List.mem_append_right _ List.mem_cons_self
    exact hnotified.mpr ⟨given, hgiven, rfl, rfl⟩

end Participant

namespace Scene

variable {number : Nat} {participant : Participant} {scene : Scene}

/-- A conference that someone holds takes out of its list the participant that it is told of,
unless another one has taken its place in the roster. -/
def observer (number : Nat) (scene : Scene) : Participant.Observer := fun destroyed =>
  if scene.dropped = false ∧ scene.conference.roster.get? destroyed.endpoint = some number then
    [.detach]
  else []

theorem roster_settle (number : Nat) (outcome : Participant.Outcome) (scene : Scene) :
    (scene.settle number outcome).conference.roster = scene.conference.roster := rfl

theorem participant?_settle (h : scene.participant? number = some participant)
    (outcome : Participant.Outcome) :
    (scene.settle number outcome).participant? number = some outcome.participant := by
  have hbound : number < scene.conference.participants.length :=
    (List.getElem?_eq_some_iff.mp h).1
  simp [settle, participant?, hbound]

theorem participant?_forget (h : scene.participant? number = some participant) :
    (scene.forget number).participant? number =
      if scene.conference.roster.get? participant.endpoint = some number then
        some (participant.perform .detach).participant
      else some participant := by
  rw [participant?] at h
  rw [participant?, conference_forget, Conference.forget, h]
  by_cases hself : scene.conference.roster.get? participant.endpoint = some number
  · simp [Roster.eraseIf?, hself, Conference.getElem?_modify, h]
  · simp [Roster.eraseIf?, hself, h]

/-- A call to a participant is such a life, with the conference as the observer. -/
theorem participant?_callParticipant_eq_last (h : scene.participant? number = some participant)
    (call : ParticipantCall) :
    (scene.callParticipant number call).participant? number =
      some (participant.last (Participant.life (scene.observer number) participant [.call call])) := by
  have hcalled := participant?_settle h (participant.perform (.call call))
  have hquiet : ((participant.perform (.call call)).participant.perform .detach).notifies ≠ true := by
    rw [Ne, Participant.notifies_perform_iff]
    simp
  have hcall : scene.callParticipant number call =
      if (participant.perform (.call call)).notifies = true ∧ scene.dropped = false then
        (scene.settle number (participant.perform (.call call))).forget number
      else scene.settle number (participant.perform (.call call)) := by
    unfold callParticipant
    rw [h]
    rfl
  rw [hcall, Participant.life_singleton]
  by_cases hnotifies : (participant.perform (.call call)).notifies = true
  · rw [if_pos hnotifies, observer]
    by_cases hheld : scene.dropped = false
    · rw [if_pos (And.intro hnotifies hheld), participant?_forget hcalled, roster_settle]
      by_cases hself : scene.conference.roster.get?
          (participant.perform (.call call)).participant.endpoint = some number
      · rw [if_pos hself, if_pos ⟨hheld, hself⟩, Participant.life_singleton, if_neg hquiet]
        rfl
      · rw [if_neg hself, if_neg (hself ∘ And.right), Participant.life]
        rfl
    · rw [if_neg (hheld ∘ And.right), if_neg (hheld ∘ And.left), hcalled, Participant.life]
      rfl
  · rw [if_neg (hnotifies ∘ And.left), if_neg hnotifies, hcalled]
    rfl

end Scene

end ConferenceBridge
