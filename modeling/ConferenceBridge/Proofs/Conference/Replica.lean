import ConferenceBridge.Proofs.Conference.Reconciliation
import Mathlib.Logic.Function.Basic

namespace ConferenceBridge

/-! A subscriber that hears every change can keep a replica of the conference. As long as nobody
calls back during a publication, no change ever contradicts the replica, and between two requests it
shows the conference as it is. -/

structure Member where
  state : ConnectionState
  cause : Option DisconnectCause := none
  deriving DecidableEq, Repr

def Participant.member (participant : Participant) : Member where
  state := participant.state
  cause := participant.cause

/-- What a subscriber knows of a conference; at first, that it is new. -/
structure Replica where
  members : Endpoint → Option Member := fun _ => none
  state : ConnectionState := .new
  capabilities : Capabilities := .atStart
  destroyed : Bool := false

namespace Replica

def set (endpoint : Endpoint) (member : Option Member) (replica : Replica) : Replica :=
  { replica with members := Function.update replica.members endpoint member }

/-- The replica after a change, unless the change contradicts it. A disconnection may be told late:
it says nothing about someone who was removed. -/
def follow? (initial : ConnectionState) (replica : Replica) : Change → Option Replica
  | .participantAdded endpoint =>
      match replica.members endpoint with
      | some _ => none
      | none => some (replica.set endpoint (some { state := initial }))
  | .participantState endpoint previous next =>
      match replica.members endpoint with
      | none => none
      | some member =>
          if member.state = previous ∧ previous ≠ next then
            some (replica.set endpoint (some { member with state := next }))
          else none
  | .participantDisconnected endpoint cause =>
      match replica.members endpoint with
      | none => some replica
      | some _ =>
          some (replica.set endpoint (some { state := .disconnected, cause := some cause }))
  | .participantRemoved endpoint =>
      match replica.members endpoint with
      | none => none
      | some _ => some (replica.set endpoint none)
  | .capabilities mask => some { replica with capabilities := mask }
  | .state previous next =>
      if replica.state = previous ∧ previous ≠ next then some { replica with state := next }
      else none
  | .destroyed => some { replica with destroyed := true }

def followAll? (initial : ConnectionState) (changes : List Change) (replica : Replica) :
    Option Replica :=
  changes.foldlM (follow? initial) replica

variable {initial : ConnectionState}

theorem followAll?_concat (changes : List Change) (change : Change) (replica : Replica) :
    followAll? initial (changes ++ [change]) replica =
      (followAll? initial changes replica).bind fun replica => replica.follow? initial change := by
  simp [followAll?]

theorem followAll?_append (first second : List Change) (replica : Replica) :
    followAll? initial (first ++ second) replica =
      (followAll? initial first replica).bind (followAll? initial second) := by
  simp only [followAll?, List.foldlM_append]
  rfl

@[simp] theorem followAll?_singleton (change : Change) (replica : Replica) :
    followAll? initial [change] replica = replica.follow? initial change := by
  simp [followAll?]

theorem members_set (endpoint other : Endpoint) (member : Option Member) (replica : Replica) :
    (replica.set endpoint member).members other =
      if other = endpoint then member else replica.members other := by
  simp [set, Function.update_apply]

theorem set_of_members_eq {endpoint : Endpoint} {member : Option Member} {replica : Replica}
    (h : replica.members endpoint = member) : replica.set endpoint member = replica := by
  simp [set, ← h]

def settle (before after : Participant) (replica : Replica) : Replica :=
  if before.attached then
    replica.set before.endpoint (if after.attached then some after.member else none)
  else replica

theorem members_settle {before after : Participant} {replica : Replica} {endpoint : Endpoint}
    (hplace : endpoint ≠ before.endpoint ∨ before.attached = false) :
    (replica.settle before after).members endpoint = replica.members endpoint := by
  unfold settle
  split
  · rename_i hshown
    rw [members_set, if_neg (hplace.resolve_right (by simp [hshown]))]
  · rfl

section Settle

variable (before after : Participant) (replica : Replica)

theorem state_settle : (replica.settle before after).state = replica.state := by
  unfold settle
  split <;> rfl

theorem capabilities_settle :
    (replica.settle before after).capabilities = replica.capabilities := by
  unfold settle
  split <;> rfl

theorem destroyed_settle : (replica.settle before after).destroyed = replica.destroyed := by
  unfold settle
  split <;> rfl

end Settle

structure Knows (replica : Replica) (participant : Participant) : Prop where
  attached : participant.attached = true →
    replica.members participant.endpoint = some participant.member
  leaving : participant.attached = false → participant.destroyed = false →
    replica.members participant.endpoint = none

theorem Knows.settle_self {replica : Replica} {participant : Participant}
    (h : replica.Knows participant) : replica.settle participant participant = replica := by
  unfold settle
  split
  · rename_i hattached
    exact set_of_members_eq (h.attached hattached)
  · rfl

theorem Knows.update {replica : Replica} {participant : Participant} (h : replica.Knows participant)
    (hplace : participant.attached = true ∨ participant.destroyed = true)
    (next : ConnectionState) :
    followAll? initial (participant.update next).changes replica =
      some (replica.settle participant (participant.update next).participant) := by
  unfold Participant.update
  split
  · exact congrArg some h.settle_self.symm
  · rename_i hchanges
    rw [not_or, Bool.not_eq_true] at hchanges
    obtain ⟨hstays, hother⟩ := hchanges
    split
    · exact congrArg some h.settle_self.symm
    · have hattached : participant.attached = true := hplace.resolve_right (by simp [hstays])
      simp [follow?, settle, hattached, h.attached hattached, Participant.member, hother]

theorem Knows.disconnect {replica : Replica} {participant : Participant}
    (h : replica.Knows participant) (cause : DisconnectCause) :
    followAll? initial (participant.disconnect cause).changes replica =
      some (replica.settle participant (participant.disconnect cause).participant) := by
  unfold Participant.disconnect
  split
  · exact congrArg some h.settle_self.symm
  · rename_i hchanges
    rw [not_or, Bool.not_eq_true] at hchanges
    cases hattached : participant.attached with
    | true => simp [follow?, settle, hattached, h.attached hattached, Participant.member]
    | false => simp [follow?, settle, hattached, h.leaving hattached hchanges.1]

theorem Knows.destroy {replica : Replica} {participant : Participant}
    (h : replica.Knows participant) :
    followAll? initial participant.destroy.changes replica =
      some (replica.settle participant participant.destroy.participant) := by
  unfold Participant.destroy
  split
  · exact congrArg some h.settle_self.symm
  · exact congrArg some h.settle_self.symm

theorem Knows.unobserve {replica : Replica} {participant : Participant}
    (h : replica.Knows participant) :
    followAll? initial participant.unobserve.changes replica =
      some (replica.settle participant participant.unobserve.participant) := by
  unfold Participant.unobserve
  split
  · exact congrArg some h.settle_self.symm
  · exact congrArg some h.settle_self.symm

theorem Knows.detach {replica : Replica} {participant : Participant}
    (h : replica.Knows participant) :
    followAll? initial participant.detach.changes replica =
      some (replica.settle participant participant.detach.participant) := by
  unfold Participant.detach
  split
  · rename_i hattached
    simp [follow?, settle, hattached, h.attached hattached]
  · exact congrArg some h.settle_self.symm

/-- No state is reported of someone who is on the way out; all else the replica can follow. -/
theorem Knows.perform {replica : Replica} {participant : Participant} (h : replica.Knows participant)
    {operation : Participant.Operation}
    (hplace : operation.isUpdate = true →
      participant.attached = true ∨ participant.destroyed = true) :
    followAll? initial (participant.perform operation).changes replica =
      some (replica.settle participant (participant.perform operation).participant) := by
  cases operation with
  | call call =>
      cases call with
      | update next => exact h.update (hplace rfl) next
      | disconnect cause => exact h.disconnect cause
      | destroy => exact h.destroy
  | unobserve => exact h.unobserve
  | detach => exact h.detach

end Replica

theorem Participant.place_perform (participant : Participant) (operation : Operation) :
    let after := (participant.perform operation).participant
    (after.attached = true → participant.attached = true) ∧
      (after.destroyed = false → participant.destroyed = false) := by
  have hcontinues := participant.continues_perform operation
  constructor
  · intro hafter
    cases hattached : participant.attached with
    | true => rfl
    | false =>
        rw [hcontinues.detached hattached] at hafter
        cases hafter
  · intro hafter
    cases hdestroyed : participant.destroyed with
    | false => rfl
    | true =>
        rw [hcontinues.destroyed hdestroyed] at hafter
        cases hafter

namespace Conference

def replica (conference : Conference) : Replica where
  members endpoint := (conference.roster.get? endpoint).bind fun number =>
    conference.participants[number]?.map (·.member)
  state := conference.state
  capabilities := conference.capabilities
  destroyed := conference.tornDown

/-- The replica shows those that are attached, also while a participant is on its way out and not in
the roster any more. The end is told last: `ended` says whether it was. -/
structure Tracked (conference : Conference) (ended : Bool) (replica : Replica) : Prop where
  attached : ∀ {number : Nat} {participant : Participant},
    conference.participants[number]? = some participant → participant.attached = true →
      replica.members participant.endpoint = some participant.member
  absent : ∀ endpoint,
    (∀ (number : Nat) (participant : Participant),
      conference.participants[number]? = some participant → participant.attached = true →
        participant.endpoint ≠ endpoint) →
    replica.members endpoint = none
  unique : ∀ {first second : Nat} {participant other : Participant},
    conference.participants[first]? = some participant →
    conference.participants[second]? = some other →
    participant.attached = true → other.attached = true →
    participant.endpoint = other.endpoint → first = second
  leaving : ∀ {first second : Nat} {participant other : Participant},
    conference.participants[first]? = some participant →
    conference.participants[second]? = some other →
    participant.attached = false → participant.destroyed = false → other.attached = true →
    participant.endpoint ≠ other.endpoint
  state : replica.state = conference.state
  capabilities : replica.capabilities = conference.capabilities
  destroyed : replica.destroyed = ended

namespace Tracked

variable {conference next : Conference} {ended : Bool} {replica : Replica}

theorem congr (h : conference.Tracked ended replica)
    (hparticipants : next.participants = conference.participants)
    (hstate : next.state = conference.state)
    (hcapabilities : next.capabilities = conference.capabilities) : next.Tracked ended replica where
  attached := hparticipants ▸ h.attached
  absent := hparticipants ▸ h.absent
  unique := hparticipants ▸ h.unique
  leaving := hparticipants ▸ h.leaving
  state := h.state.trans hstate.symm
  capabilities := h.capabilities.trans hcapabilities.symm
  destroyed := h.destroyed

theorem knows (h : conference.Tracked ended replica) {number : Nat} {participant : Participant}
    (hparticipant : conference.participants[number]? = some participant) :
    replica.Knows participant where
  attached := h.attached hparticipant
  leaving hdetached hstays := h.absent _ fun _ _ hother hattached heq =>
    h.leaving hparticipant hother hdetached hstays hattached heq.symm

section Settle

variable {number other : Nat} {participant after member : Participant}

theorem eq_of_settled
    (h : (conference.modify number fun _ => after).participants[other]? = some member) :
    (other = number ∧ member = after) ∨
      (other ≠ number ∧ conference.participants[other]? = some member) := by
  rcases eq_some_of_modify h with ⟨heq, -, -, rfl⟩ | hother
  · exact .inl ⟨heq, rfl⟩
  · exact .inr hother

variable (h : conference.Tracked ended replica)
  (hparticipant : conference.participants[number]? = some participant)
  (hendpoint : after.endpoint = participant.endpoint)
  (hattached : after.attached = true → participant.attached = true)
  (hdestroyed : after.destroyed = false → participant.destroyed = false)

include h hparticipant hendpoint hattached

theorem attached_settle
    (hmember : (conference.modify number fun _ => after).participants[other]? = some member)
    (hshown : member.attached = true) :
    (replica.settle participant after).members member.endpoint = some member.member := by
  rcases eq_of_settled hmember with ⟨-, rfl⟩ | ⟨hother, hbefore⟩
  · rw [Replica.settle, if_pos (hattached hshown), Replica.members_set, if_pos hendpoint,
      if_pos hshown]
  · rw [Replica.members_settle ?_, h.attached hbefore hshown]
    cases hbeforehand : participant.attached with
    | false => exact .inr rfl
    | true => exact .inl fun heq => hother (h.unique hbefore hparticipant hshown hbeforehand heq)

omit hattached in
theorem absent_settle {endpoint : Endpoint}
    (hnobody : ∀ (other : Nat) (member : Participant),
      (conference.modify number fun _ => after).participants[other]? = some member →
        member.attached = true → member.endpoint ≠ endpoint) :
    (replica.settle participant after).members endpoint = none := by
  by_cases hplace : endpoint ≠ participant.endpoint ∨ participant.attached = false
  · rw [Replica.members_settle hplace]
    apply h.absent
    intro other member hbefore hshown heq
    by_cases hother : other = number
    · subst hother
      rw [hparticipant] at hbefore
      cases hbefore
      rcases hplace with hne | hdetached
      · exact hne heq.symm
      · rw [hdetached] at hshown
        cases hshown
    · refine hnobody other member ?_ hshown heq
      rw [getElem?_modify, hbefore]
      simp [hother]
  · rw [not_or, not_not, Bool.not_eq_false] at hplace
    obtain ⟨rfl, hshown⟩ := hplace
    have hgone : after.attached ≠ true := fun hstill =>
      hnobody number after (by simp [getElem?_modify, hparticipant]) hstill hendpoint
    rw [Replica.settle, if_pos hshown, Replica.members_set, if_pos rfl, if_neg hgone]

theorem unique_settle {first second : Nat} {one another : Participant}
    (hone : (conference.modify number fun _ => after).participants[first]? = some one)
    (hanother : (conference.modify number fun _ => after).participants[second]? = some another)
    (hshown : one.attached = true) (hshownToo : another.attached = true)
    (heq : one.endpoint = another.endpoint) : first = second := by
  rcases eq_of_settled hone with ⟨rfl, rfl⟩ | ⟨-, hbefore⟩
  · rcases eq_of_settled hanother with ⟨rfl, -⟩ | ⟨-, hbefore⟩
    · rfl
    · exact h.unique hparticipant hbefore (hattached hshown) hshownToo (hendpoint ▸ heq)
  · rcases eq_of_settled hanother with ⟨rfl, rfl⟩ | ⟨-, hbeforeToo⟩
    · exact h.unique hbefore hparticipant hshown (hattached hshownToo) (hendpoint ▸ heq)
    · exact h.unique hbefore hbeforeToo hshown hshownToo heq

include hdestroyed

theorem leaving_settle {first second : Nat} {one another : Participant}
    (hone : (conference.modify number fun _ => after).participants[first]? = some one)
    (hanother : (conference.modify number fun _ => after).participants[second]? = some another)
    (hdetached : one.attached = false) (hstays : one.destroyed = false)
    (hshown : another.attached = true) : one.endpoint ≠ another.endpoint := by
  intro heq
  rcases eq_of_settled hone with ⟨rfl, rfl⟩ | ⟨-, hbefore⟩
  · rcases eq_of_settled hanother with ⟨-, rfl⟩ | ⟨hsecond, hbefore⟩
    · rw [hdetached] at hshown
      cases hshown
    · rw [hendpoint] at heq
      cases hbeforehand : participant.attached with
      | true => exact hsecond (h.unique hparticipant hbefore hbeforehand hshown heq).symm
      | false => exact h.leaving hparticipant hbefore hbeforehand (hdestroyed hstays) hshown heq
  · rcases eq_of_settled hanother with ⟨-, rfl⟩ | ⟨-, hbeforeToo⟩
    · exact h.leaving hbefore hparticipant hdetached hstays (hattached hshown)
        (heq.trans hendpoint)
    · exact h.leaving hbefore hbeforeToo hdetached hstays hshown heq

theorem settle : (conference.modify number fun _ => after).Tracked ended
    (replica.settle participant after) where
  attached := h.attached_settle hparticipant hendpoint hattached
  absent _ := h.absent_settle hparticipant hendpoint
  unique := h.unique_settle hparticipant hendpoint hattached
  leaving := h.leaving_settle hparticipant hendpoint hattached hdestroyed
  state := (Replica.state_settle _ _ _).trans h.state
  capabilities := (Replica.capabilities_settle _ _ _).trans h.capabilities
  destroyed := (Replica.destroyed_settle _ _ _).trans h.destroyed

end Settle

theorem enroll (h : conference.Tracked ended replica) (hcoherent : conference.Coherent)
    {entry : Snapshot} {roster : Roster Nat}
    (habsent : conference.roster.insertIfAbsent entry.endpoint
      conference.participants.length = .stored roster) :
    replica.members entry.endpoint = none ∧
      (conference.enroll entry roster).Tracked ended
        (replica.set entry.endpoint (some { state := conference.config.initialState })) := by
  have hmissing := (Roster.stored_of_insertIfAbsent habsent).1
  have hlisted : ∀ {number : Nat} {participant : Participant},
      conference.participants[number]? = some participant →
      participant.attached = true ∨ participant.destroyed = false →
        (participant.endpoint, number) ∈ conference.roster.entries := by
    intro number participant hparticipant hplace
    by_contra hmem
    have hgone := hcoherent.unlisted number participant hparticipant hmem
    rcases hplace with hattached | hdestroyed
    · rw [hgone.attached] at hattached
      cases hattached
    · rw [hgone.destroyed] at hdestroyed
      cases hdestroyed
  have hnobody : ∀ (number : Nat) (participant : Participant),
      conference.participants[number]? = some participant → participant.attached = true →
        participant.endpoint ≠ entry.endpoint := by
    intro number participant hparticipant hattached heq
    have hmem := hlisted hparticipant (.inl hattached)
    rw [heq] at hmem
    exact hmissing (List.mem_map_of_mem (f := Prod.fst) hmem)
  have hafter : ∀ {number : Nat} {participant : Participant},
      (conference.enroll entry roster).participants[number]? = some participant →
      (number = conference.participants.length ∧
          participant = .ofSnapshot entry conference.config.initialState) ∨
        (number ≠ conference.participants.length ∧
          conference.participants[number]? = some participant) := by
    intro number participant hparticipant
    rw [getElem?_enroll] at hparticipant
    split at hparticipant
    · rename_i hnew
      exact .inl ⟨hnew, (Option.some.inj hparticipant).symm⟩
    · rename_i hold
      exact .inr ⟨hold, hparticipant⟩
  have hkept : ∀ {number : Nat} {participant : Participant},
      conference.participants[number]? = some participant →
      (conference.enroll entry roster).participants[number]? = some participant := by
    intro number participant hparticipant
    obtain ⟨hlt, -⟩ := List.getElem?_eq_some_iff.mp hparticipant
    rw [getElem?_enroll, if_neg (Nat.ne_of_lt hlt), hparticipant]
  refine ⟨h.absent _ hnobody, ?_⟩
  constructor
  · intro number participant hparticipant hattached
    rcases hafter hparticipant with ⟨-, rfl⟩ | ⟨-, hbefore⟩
    · rw [Replica.members_set]
      exact if_pos rfl
    · rw [Replica.members_set, if_neg (hnobody number participant hbefore hattached),
        h.attached hbefore hattached]
  · intro endpoint hempty
    have hother : endpoint ≠ entry.endpoint := by
      rintro rfl
      exact hempty conference.participants.length
        (.ofSnapshot entry conference.config.initialState) (by simp [getElem?_enroll]) rfl rfl
    rw [Replica.members_set, if_neg hother]
    exact h.absent endpoint fun number participant hbefore =>
      hempty number participant (hkept hbefore)
  · intro first second one other hone hother hattached hattachedToo heq
    rcases hafter hone with ⟨rfl, rfl⟩ | ⟨-, hbefore⟩
    · rcases hafter hother with ⟨rfl, -⟩ | ⟨-, hbefore⟩
      · rfl
      · exact absurd heq.symm (hnobody second other hbefore hattachedToo)
    · rcases hafter hother with ⟨-, rfl⟩ | ⟨-, hbeforeToo⟩
      · exact absurd heq (hnobody first one hbefore hattached)
      · exact h.unique hbefore hbeforeToo hattached hattachedToo heq
  · intro first second one other hone _ hdetached hstays _ _
    rcases hafter hone with ⟨-, rfl⟩ | ⟨-, hbefore⟩
    · cases hdetached
    · have hlive := hcoherent.isLive_of_mem hbefore (hlisted hbefore (.inr hstays))
      rw [hlive.attached] at hdetached
      cases hdetached
  · exact h.state
  · exact h.capabilities
  · exact h.destroyed

/-- Between two requests the attached are those in the roster. -/
theorem eq_replica (h : conference.Tracked conference.tornDown replica)
    (hcoherent : conference.Coherent) : replica = conference.replica := by
  have hmembers : replica.members = conference.replica.members := by
    funext endpoint
    cases hnumber : conference.roster.get? endpoint with
    | some number =>
        obtain ⟨participant, hparticipant, rfl, hlive⟩ :=
          hcoherent.listed endpoint number (Roster.get?_eq_some_iff.mp hnumber)
        rw [h.attached hparticipant hlive.attached]
        simp [Conference.replica, hnumber, hparticipant]
    | none =>
        have habsent := Roster.get?_eq_none_iff.mp hnumber
        have hempty : replica.members endpoint = none := by
          apply h.absent
          rintro number participant hparticipant hattached rfl
          have hmem : (participant.endpoint, number) ∉ conference.roster.entries := fun hmem =>
            habsent (List.mem_map_of_mem (f := Prod.fst) hmem)
          rw [(hcoherent.unlisted number participant hparticipant hmem).attached] at hattached
          cases hattached
        rw [hempty]
        simp [Conference.replica, hnumber]
  obtain ⟨members, state, capabilities, destroyed⟩ := replica
  simp only [Conference.replica, Replica.mk.injEq]
  exact ⟨hmembers, h.state, h.capabilities, h.destroyed⟩

end Tracked

end Conference

end ConferenceBridge
