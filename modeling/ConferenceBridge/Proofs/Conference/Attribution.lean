import ConferenceBridge.Proofs.Conference.Frame
import ConferenceBridge.Proofs.Conference.Membership

namespace ConferenceBridge

/-! Whom a change is about. Subscribers only hear an endpoint, which several participants may have
had one after the other; the change is about the one who was last handed over under it. So seen, what
is told of a participant fits its state at all times. -/

namespace Change

def isRemoval : Change → Bool
  | participantRemoved _ => true
  | _ => false

def isDisconnection : Change → Bool
  | participantDisconnected _ _ => true
  | _ => false

end Change

namespace Effect

variable {endpoint : Endpoint} {number : Nat} {told history : List Effect}

/-- Who was last handed over under an endpoint; the history is newest first. -/
def holder? (endpoint : Endpoint) (history : List Effect) : Option Nat :=
  ((history.filterMap publication?).find? fun publication => publication.endpoint = endpoint).map
    Publication.number

def concerns (number : Nat) (earlier : List Effect) (change : Change) : Bool :=
  (change.endpoint?.bind fun endpoint => holder? endpoint earlier) = some number

def about (number : Nat) : List Effect → List Change
  | [] => []
  | effect :: earlier =>
      (effect.change?.filter (concerns number earlier)).toList ++ about number earlier

theorem holder?_append (h : ∀ effect ∈ told, effect.publication? = none) (endpoint : Endpoint) :
    holder? endpoint (told ++ history) = holder? endpoint history := by
  have hnobody : told.filterMap publication? = [] := List.filterMap_eq_nil_iff.mpr h
  rw [holder?, List.filterMap_append, hnobody, List.nil_append, holder?]

theorem holder?_published_self (publication : Publication) (history : List Effect) :
    holder? publication.endpoint (.published publication :: history) = some publication.number := by
  simp [holder?, publication?]

theorem holder?_published_of_ne {publication : Publication} (h : publication.endpoint ≠ endpoint)
    (history : List Effect) :
    holder? endpoint (.published publication :: history) = holder? endpoint history := by
  simp [holder?, publication?, h]

/-- If all that is told has one endpoint, it is about the one who has it, and about nobody else. -/
theorem about_append (hunpublished : ∀ effect ∈ told, effect.publication? = none)
    (hendpoint : ∀ effect ∈ told, ∀ change, effect.change? = some change →
      change.endpoint? = some endpoint) (number : Nat) :
    about number (told ++ history) =
      (if holder? endpoint history = some number then told.filterMap change? else []) ++
        about number history := by
  induction told with
  | nil => simp
  | cons effect told ih =>
      rw [List.forall_mem_cons] at hunpublished hendpoint
      rw [List.cons_append, about, ih hunpublished.2 hendpoint.2, List.filterMap_cons]
      cases hchange : effect.change? with
      | none => simp
      | some change =>
          have hsame : concerns number (told ++ history) change =
              decide (holder? endpoint history = some number) := by
            rw [concerns, hendpoint.1 change hchange, Option.bind_some,
              holder?_append hunpublished.2]
          by_cases hholder : holder? endpoint history = some number <;>
            simp [Option.filter_some, hsame, hholder]

theorem about_eq_nil (h : ∀ publication ∈ history.filterMap publication?,
    publication.number ≠ number) : about number history = [] := by
  induction history with
  | nil => rfl
  | cons effect history ih =>
      have hearlier : ∀ publication ∈ history.filterMap publication?,
          publication.number ≠ number := by
        intro publication hmem
        apply h
        rw [List.filterMap_cons]
        split
        · exact hmem
        · exact List.mem_cons_of_mem _ hmem
      have hnobody : ∀ endpoint, holder? endpoint history ≠ some number := by
        intro endpoint heq
        rw [holder?, Option.map_eq_some_iff] at heq
        obtain ⟨publication, hfound, hnumber⟩ := heq
        exact hearlier publication (List.mem_of_find?_eq_some hfound) hnumber
      rw [about, ih hearlier, List.append_nil]
      cases effect.change? with
      | none => rfl
      | some change =>
          have hnot : concerns number history change = false := by
            rw [concerns, decide_eq_false_iff_not]
            cases change.endpoint? with
            | none => simp
            | some endpoint => exact hnobody endpoint
          simp [Option.filter_some, hnot]

def isUntraced : Effect → Bool
  | .published _ => false
  | .changed change => !change.isRemoval && !change.isDisconnection
  | _ => true

theorem isUntraced_of_isRemark {effect : Effect} (h : effect.isRemark = true) :
    effect.isUntraced = true := by
  cases effect with
  | published publication => cases h
  | changed change => cases h
  | _ => rfl

theorem filter_about_append {kind : Change → Bool} (h : ∀ effect ∈ told, ∀ change,
    effect.change? = some change → kind change = false) (number : Nat) :
    (about number (told ++ history)).filter kind = (about number history).filter kind := by
  induction told with
  | nil => rfl
  | cons effect told ih =>
      rw [List.forall_mem_cons] at h
      have hnothing :
          (effect.change?.filter (concerns number (told ++ history))).toList.filter kind = [] := by
        cases hchange : effect.change? with
        | none => rfl
        | some change =>
            rw [Option.filter_some]
            split <;> simp [h.1 change hchange]
      rw [List.cons_append, about, List.filter_append, hnothing, List.nil_append, ih h.2]

end Effect

namespace Participant

def isSilent (participant : Participant) : Bool :=
  participant.destroyed && !participant.attached

/-- What was told of a participant fits the state that it is in: it was said to leave once it is
detached, and to be disconnected with the cause that it has. -/
structure Traced (number : Nat) (participant : Participant) (history : List Effect) : Prop where
  holder : participant.isSilent = false →
    Effect.holder? participant.endpoint history = some number
  removed : (Effect.about number history).filter Change.isRemoval =
    if participant.attached then [] else [.participantRemoved participant.endpoint]
  disconnected : (Effect.about number history).filter Change.isDisconnection =
    participant.cause.toList.map (.participantDisconnected participant.endpoint)
  final : participant.cause.isSome = true → participant.state = .disconnected

variable {number : Nat} {participant : Participant} {history : List Effect}

theorem isSilent_perform (h : participant.isSilent = true) (operation : Operation) :
    (participant.perform operation).participant.isSilent = true ∧
      (participant.perform operation).changes = [] := by
  simp only [isSilent, Bool.and_eq_true, Bool.not_eq_true'] at h
  cases operation with
  | call call => cases call <;> simp [perform, update, disconnect, destroy, unchanged, isSilent, h]
  | unobserve =>
      simp only [perform, unobserve, unchanged]
      split <;> simp [isSilent, h]
  | detach => simp [perform, detach, unchanged, isSilent, h]

theorem changes_perform
    (hfinal : participant.cause.isSome = true → participant.state = .disconnected)
    (operation : Operation) :
    let outcome := participant.perform operation
    (if outcome.participant.attached then [] else [.participantRemoved participant.endpoint]) =
        outcome.changes.filter Change.isRemoval ++
          (if participant.attached then [] else [.participantRemoved participant.endpoint]) ∧
      outcome.participant.cause.toList.map (.participantDisconnected participant.endpoint) =
        outcome.changes.filter Change.isDisconnection ++
          participant.cause.toList.map (.participantDisconnected participant.endpoint) ∧
      (outcome.participant.cause.isSome = true → outcome.participant.state = .disconnected) := by
  cases operation with
  | call call =>
      cases call with
      | update next =>
          simp only [perform, update, unchanged]
          split
          · exact ⟨rfl, rfl, hfinal⟩
          · split
            · exact ⟨rfl, rfl, hfinal⟩
            · rename_i hgoes
              refine ⟨rfl, rfl, fun hcause => ?_⟩
              simp [hfinal hcause, ConnectionState.isFinal] at hgoes
      | disconnect cause =>
          simp only [perform, disconnect, unchanged]
          split
          · exact ⟨rfl, rfl, hfinal⟩
          · rename_i hfirst
            have hnone : participant.cause = none := by
              cases hcause : participant.cause <;> simp_all
            refine ⟨rfl, ?_, fun _ => rfl⟩
            rw [hnone]
            rfl
      | destroy =>
          simp only [perform, destroy, unchanged]
          split <;> exact ⟨rfl, rfl, hfinal⟩
  | unobserve =>
      simp only [perform, unobserve, unchanged]
      split <;> exact ⟨rfl, rfl, hfinal⟩
  | detach =>
      simp only [perform, detach, unchanged]
      split
      · exact ⟨rfl, rfl, hfinal⟩
      · exact ⟨rfl, rfl, hfinal⟩

theorem publication?_of_mem_told {operation : Operation} {effect : Effect}
    (h : effect ∈ (participant.perform operation).told) : effect.publication? = none := by
  rcases List.mem_append.mp h with hnotice | hchange
  · obtain ⟨notice, -, rfl⟩ := List.mem_map.mp hnotice
    rfl
  · obtain ⟨change, -, rfl⟩ := List.mem_map.mp hchange
    rfl

theorem mem_changes_of_mem_told {operation : Operation} {effect : Effect} {change : Change}
    (h : effect ∈ (participant.perform operation).told) (hchange : effect.change? = some change) :
    change ∈ (participant.perform operation).changes := by
  rcases List.mem_append.mp h with hnotice | hmem
  · obtain ⟨notice, -, rfl⟩ := List.mem_map.mp hnotice
    cases hchange
  · obtain ⟨other, hother, rfl⟩ := List.mem_map.mp hmem
    cases hchange
    exact hother

theorem reverse_changes (participant : Participant) (operation : Operation) :
    (participant.perform operation).changes.reverse = (participant.perform operation).changes := by
  unfold perform update disconnect destroy unobserve detach unchanged
  repeat' split
  all_goals rfl

theorem about_told (h : participant.isSilent = false →
      Effect.holder? participant.endpoint history = some number) (operation : Operation)
    (other : Nat) :
    Effect.about other ((participant.perform operation).told.reverse ++ history) =
      (if number = other then (participant.perform operation).changes else []) ++
        Effect.about other history := by
  have htold := @Effect.about_append participant.endpoint
    (participant.perform operation).told.reverse history
    (fun effect heffect => publication?_of_mem_told (List.mem_reverse.mp heffect))
    (fun effect heffect change hchange =>
      endpoint?_of_mem_changes (mem_changes_of_mem_told (List.mem_reverse.mp heffect) hchange)) other
  have hchanges : (participant.perform operation).told.reverse.filterMap Effect.change? =
      (participant.perform operation).changes := by
    rw [List.filterMap_reverse, Outcome.changes_told, reverse_changes]
  rw [htold, hchanges]
  cases hsilent : participant.isSilent with
  | true => simp [(isSilent_perform hsilent operation).2]
  | false => simp [h hsilent]

theorem Traced.perform (h : Traced number participant history) (operation : Operation) :
    Traced number (participant.perform operation).participant
      ((participant.perform operation).told.reverse ++ history) := by
  obtain ⟨hremoved, hdisconnected, hfinal⟩ := changes_perform h.final operation
  constructor
  · intro hsilent
    rw [Effect.holder?_append, endpoint_perform]
    · apply h.holder
      rw [← Bool.not_eq_true]
      intro hbefore
      rw [(isSilent_perform hbefore operation).1] at hsilent
      cases hsilent
    · exact fun effect heffect => publication?_of_mem_told (List.mem_reverse.mp heffect)
  · rw [about_told h.holder, if_pos rfl, List.filter_append, h.removed, endpoint_perform, hremoved]
  · rw [about_told h.holder, if_pos rfl, List.filter_append, h.disconnected, endpoint_perform,
      hdisconnected]
  · exact hfinal

theorem Traced.perform_other {other : Nat} {bystander : Participant}
    (h : Traced other bystander history)
    (hholder : participant.isSilent = false →
      Effect.holder? participant.endpoint history = some number) (hne : number ≠ other)
    (operation : Operation) :
    Traced other bystander ((participant.perform operation).told.reverse ++ history) := by
  have habout := about_told hholder operation other
  rw [if_neg hne, List.nil_append] at habout
  refine ⟨fun hsilent => ?_, habout ▸ h.removed, habout ▸ h.disconnected, h.final⟩
  rw [Effect.holder?_append, h.holder hsilent]
  exact fun effect heffect => publication?_of_mem_told (List.mem_reverse.mp heffect)

theorem Traced.append (h : Traced number participant history) {told : List Effect}
    (htold : ∀ effect ∈ told, effect.isUntraced = true) :
    Traced number participant (told ++ history) := by
  have hkinds : ∀ effect ∈ told, ∀ change, effect.change? = some change →
      change.isRemoval = false ∧ change.isDisconnection = false := by
    intro effect heffect change hchange
    have huntraced := htold effect heffect
    cases effect with
    | changed other =>
        cases hchange
        simpa [Effect.isUntraced] using huntraced
    | _ => cases hchange
  refine ⟨fun hsilent => ?_, ?_, ?_, h.final⟩
  · rw [Effect.holder?_append, h.holder hsilent]
    intro effect heffect
    have huntraced := htold effect heffect
    cases effect with
    | published publication => cases huntraced
    | _ => rfl
  · rw [Effect.filter_about_append fun effect heffect change hchange =>
      (hkinds effect heffect change hchange).1, h.removed]
  · rw [Effect.filter_about_append fun effect heffect change hchange =>
      (hkinds effect heffect change hchange).2, h.disconnected]

end Participant

namespace Scene

structure Attributed (scene : Scene) : Prop where
  numbers : ∀ publication ∈ scene.history.filterMap Effect.publication?,
    publication.number < scene.conference.participants.length
  traced : ∀ (number : Nat) (participant : Participant),
    scene.conference.participants[number]? = some participant →
      participant.Traced number scene.history

namespace Attributed

variable {scene next : Scene}

theorem of_tells (h : scene.Attributed) (htells : Tells Effect.isUntraced scene next)
    (hparticipants : next.conference.participants = scene.conference.participants) :
    next.Attributed := by
  obtain ⟨told, heffects, htold⟩ := htells
  have hhistory : next.history = told.reverse ++ scene.history := by
    have hreverse := congrArg List.reverse heffects
    simpa [effects] using hreverse
  have huntraced : ∀ effect ∈ told.reverse, effect.isUntraced = true :=
    fun effect heffect => htold effect (List.mem_reverse.mp heffect)
  constructor
  · intro publication hmem
    rw [hhistory, List.filterMap_append, List.mem_append] at hmem
    rw [hparticipants]
    rcases hmem with hnew | hold
    · obtain ⟨effect, heffect, hpublication⟩ := List.mem_filterMap.mp hnew
      cases effect with
      | published other => cases huntraced _ heffect
      | _ => cases hpublication
    · exact h.numbers publication hold
  · intro number participant hparticipant
    rw [hparticipants] at hparticipant
    rw [hhistory]
    exact (h.traced number participant hparticipant).append huntraced

theorem operate (h : scene.Attributed) (number : Nat) (operation : Participant.Operation) :
    (scene.operate number operation).Attributed := by
  cases hparticipant : scene.participant? number with
  | none =>
      have hsame : scene.operate number operation = scene := by
        rw [Scene.operate, hparticipant]
      rw [hsame]
      exact h
  | some participant =>
      have htraced := h.traced number participant hparticipant
      have hhistory : (scene.operate number operation).history =
          (participant.perform operation).told.reverse ++ scene.history := by
        rw [operate_eq_advance, told, hparticipant]
        rfl
      constructor
      · intro publication hmem
        rw [hhistory, List.filterMap_append, List.mem_append] at hmem
        rw [conference_operate, (Conference.frame_modify number _ _).count]
        rcases hmem with hnew | hold
        · obtain ⟨effect, heffect, hpublication⟩ := List.mem_filterMap.mp hnew
          rw [Participant.publication?_of_mem_told (List.mem_reverse.mp heffect)] at hpublication
          cases hpublication
        · exact h.numbers publication hold
      · intro other later hlater
        rw [hhistory]
        rw [conference_operate] at hlater
        rcases Conference.eq_some_of_modify hlater with
          ⟨rfl, before, hbefore, rfl⟩ | ⟨hother, hsame⟩
        · rw [participant?, hbefore] at hparticipant
          cases hparticipant
          exact htraced.perform operation
        · exact (h.traced other later hsame).perform_other htraced.holder (Ne.symm hother) operation

theorem enroll (h : scene.Attributed) (hcoherent : scene.conference.Coherent) {entry : Snapshot}
    {roster : Roster Nat} (habsent : scene.conference.roster.insertIfAbsent entry.endpoint
      scene.conference.participants.length = .stored roster) :
    (scene.enroll entry roster).Attributed := by
  have hfree := (Roster.stored_of_insertIfAbsent habsent).1
  constructor
  · intro publication hmem
    have hcount : (scene.enroll entry roster).conference.participants.length =
        scene.conference.participants.length + 1 := by
      simp [Scene.enroll, Conference.enroll]
    rw [hcount]
    rcases List.mem_cons.mp hmem with rfl | hold
    · exact Nat.lt_succ_self _
    · exact Nat.lt_succ_of_lt (h.numbers publication hold)
  · intro number participant hparticipant
    have hwho : (scene.conference.enroll entry roster).participants[number]? =
        some participant := hparticipant
    rw [Conference.getElem?_enroll] at hwho
    split at hwho
    · rename_i hnew
      subst hnew
      cases hwho
      have hnothing : Effect.about scene.conference.participants.length scene.history = [] :=
        Effect.about_eq_nil fun publication hmem => Nat.ne_of_lt (h.numbers publication hmem)
      have habout : Effect.about scene.conference.participants.length
          (scene.enroll entry roster).history = [] := hnothing
      refine ⟨fun _ => Effect.holder?_published_self (scene.publication entry) _, ?_, ?_, ?_⟩
      · rw [habout]
        rfl
      · rw [habout]
        rfl
      · intro hcause
        cases hcause
    · have htraced := h.traced number participant hwho
      refine ⟨fun hsilent => ?_, htraced.removed, htraced.disconnected, htraced.final⟩
      have hne : (scene.publication entry).endpoint ≠ participant.endpoint := by
        intro heq
        have hgone := hcoherent.unlisted number participant hwho fun hmem =>
          hfree (List.mem_map.mpr ⟨_, hmem, heq.symm⟩)
        simp [Participant.isSilent, hgone.destroyed, hgone.attached] at hsilent
      have hholder := Effect.holder?_published_of_ne hne scene.history
      exact hholder.trans (htraced.holder hsilent)

end Attributed

variable {scene next : Scene}

theorem tells_isUntraced_setState (state : ConnectionState) (scene : Scene) :
    Tells Effect.isUntraced scene (scene.setState state) := by
  simp only [setState]
  split
  · exact .of_effects_eq rfl
  · exact (Tells.of_record rfl scene).trans (.of_record rfl _)

theorem Act.attributed (hact : Act scene next) (h : scene.Attributed) : next.Attributed := by
  cases hact with
  | remark effect heffect =>
      exact h.of_tells (.of_record (Effect.isUntraced_of_isRemark heffect) scene) rfl
  | operate number operation hoperation => exact h.operate number operation
  | setRoster roster => exact h.of_tells (.of_effects_eq rfl) rfl
  | setHost host => exact h.of_tells (.of_effects_eq rfl) rfl
  | refreshManage =>
      refine h.of_tells ?_ (by rw [conference_refreshManage,
        Conference.participants_refreshManage])
      simp only [Scene.refreshManage]
      split
      · exact .of_record rfl scene
      · exact (Tells.of_record rfl scene).trans (.of_record rfl _)

theorem Beat.attributed (hbeat : Beat scene next) (h : scene.Attributed) : next.Attributed := by
  cases hbeat with
  | act hact => exact hact.attributed h
  | update number state => exact h.operate number _
  | hostState state => exact h.of_tells (.of_record rfl scene) rfl
  | setState state =>
      exact h.of_tells (tells_isUntraced_setState state scene) (by rw [conference_setState])
  | setCause cause => exact h.of_tells (.of_record rfl scene) rfl
  | flag => exact h.of_tells (.of_effects_eq rfl) rfl
  | conclude => exact h.of_tells (.of_record rfl scene) rfl

theorem Reaches.attributed (hreach : Reaches scene next) (hheld : scene.dropped = false)
    (hcoherent : scene.conference.Coherent) (h : scene.Attributed) : next.Attributed := by
  induction hreach with
  | refl => exact h
  | tail hbefore hlast ih =>
      cases hlast.rhythm with
      | beats hbeats => exact hbeats.preserves Beat.attributed ih
      | surroundings handle register => exact ih.of_tells (.of_effects_eq rfl) rfl
      | enroll entry hopen habsent =>
          exact ih.enroll ((Reaches.evolves hbefore hheld).coherent hcoherent) habsent
      | welcome endpoint => exact ih.of_tells (.of_record rfl _) rfl

end Scene

end ConferenceBridge
