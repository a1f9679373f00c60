import ConferenceBridge.Proofs.Conference.Coupling
import ConferenceBridge.Proofs.Conference.Sifting

namespace ConferenceBridge

/-! Who is on a roster, from when to when. A member is put under an endpoint by whoever brings it,
which need not be the endpoint that the member itself names; and it is told apart from others by who
it is, whatever both of them name. It stays until one removal takes it out. -/

/-- All that may be asked of a roster that changes it. Whoever inserts brings a way to make the new
member, in a world that is theirs. -/
inductive RosterCall (σ α : Type)
  | insert (endpoint : Endpoint) (make : σ → α × σ)
  | remove (endpoint : Endpoint)
  | removeIf (member : α)
  | keepOnly (listed : List Endpoint)
  | clear

inductive RosterAnswer (α : Type)
  | stored (member : α)
  | present (member : α)
  | removed (member? : Option α)
  | removedIf (found : Bool)
  | dropped (members : List α)

namespace RosterAnswer

def stored? : RosterAnswer α → Option α
  | .stored member => some member
  | _ => none

end RosterAnswer

namespace RosterCall

/-- Who is handed back: those whom the answer names, or the one who was asked about. -/
def handedBack : RosterCall σ α → RosterAnswer α → List α
  | _, .removed member? => member?.toList
  | .removeIf member, .removedIf true => [member]
  | _, .dropped members => members
  | _, _ => []

end RosterCall

structure Reception (σ α : Type) where
  roster : Roster α
  world : σ

namespace Reception

variable {σ α : Type}

def insert (endpoint : Endpoint) (make : σ → α × σ) (reception : Reception σ α) :
    RosterAnswer α × Reception σ α :=
  match reception.roster.get? endpoint with
  | some present => (.present present, reception)
  | none =>
      let (member, world) := make reception.world
      match reception.roster.insertIfAbsent endpoint member with
      | .stored roster => (.stored member, { roster, world })
      | .present present => (.present present, { reception with world })

variable {reception : Reception σ α} {endpoint : Endpoint} {member : α} {make : σ → α × σ}

theorem insert_of_present (h : reception.roster.get? endpoint = some member) :
    reception.insert endpoint make = (.present member, reception) := by
  rw [insert, h]

theorem insert_of_free (h : reception.roster.get? endpoint = none) (make : σ → α × σ) :
    ∃ roster : Roster α, roster.entries =
        reception.roster.entries ++ [(endpoint, (make reception.world).1)] ∧
      reception.insert endpoint make =
        (.stored (make reception.world).1, ⟨roster, (make reception.world).2⟩) := by
  cases hinsert : reception.roster.insertIfAbsent endpoint (make reception.world).1 with
  | stored roster =>
      refine ⟨roster, (Roster.stored_of_insertIfAbsent hinsert).2, ?_⟩
      simp only [insert, h, hinsert]
  | present present =>
      have hmem := Roster.get?_of_mem (Roster.present_of_insertIfAbsent hinsert)
      rw [h] at hmem
      cases hmem

theorem get?_of_stored (h : (reception.insert endpoint make).1 = .stored member) :
    (reception.insert endpoint make).2.roster.get? endpoint = some member := by
  cases hplace : reception.roster.get? endpoint with
  | some present =>
      rw [insert_of_present hplace] at h
      cases h
  | none =>
      obtain ⟨roster, hentries, hinsert⟩ := insert_of_free hplace make
      rw [hinsert] at h ⊢
      cases h
      rw [Roster.get?_of_append hentries, if_pos rfl]

end Reception

/-- A reconcile creates a participant only for an entry whose endpoint is free on the roster. -/
theorem Walk.enterWith_eq_insert {walk : Walk} {entry : Snapshot} (react : React)
    (hopen : walk.scene.conference.tornDown = false)
    (hunknown : walk.knows entry.endpoint = false) :
    walk.enterWith react entry =
      match (Reception.mk walk.scene.conference.roster walk.scene).insert entry.endpoint
          (Scene.create entry) with
      | (.stored number, ⟨roster, scene⟩) =>
          { walk with
            scene := (scene.setRoster roster).publishWith react number
            reported := entry.endpoint :: walk.reported
            newcomers := walk.newcomers ++ [⟨entry.endpoint, number, entry.state⟩] }
      | (.present number, ⟨_, scene⟩) =>
          { walk with
            scene := scene.callParticipant number (.update entry.state)
            reported := entry.endpoint :: walk.reported
            updated := walk.updated +
              (scene.accepts number (.call (.update entry.state))).toNat }
      | _ => walk := by
  cases hinsert : walk.scene.conference.roster.insertIfAbsent entry.endpoint
      (walk.scene.create entry).1 with
  | stored roster =>
      have hfree := Roster.get?_eq_none_iff.mpr (Roster.stored_of_insertIfAbsent hinsert).1
      simp only [enterWith_of_absent hopen react hunknown hinsert, Reception.insert, hfree, hinsert]
      rw [Scene.publishWith_create]
      rfl
  | present number =>
      have hpresent := Roster.get?_of_mem (Roster.present_of_insertIfAbsent hinsert)
      simp only [enterWith_of_present hopen react hunknown hinsert, Reception.insert, hpresent]

namespace Reception

variable {σ α : Type} [DecidableEq α]

/-- `address` is the endpoint that a member itself names. -/
def serve (address : α → Endpoint) (call : RosterCall σ α) (reception : Reception σ α) :
    RosterAnswer α × Reception σ α :=
  match call with
  | .insert endpoint make => reception.insert endpoint make
  | .remove endpoint =>
      (.removed (reception.roster.get? endpoint),
        { reception with roster := reception.roster.erase endpoint })
  | .removeIf member =>
      match reception.roster.eraseIf? (address member) member with
      | some roster => (.removedIf true, { reception with roster })
      | none => (.removedIf false, reception)
  | .keepOnly listed =>
      let (roster, dropped) := reception.roster.splitBy listed
      (.dropped (dropped.map Prod.snd), { reception with roster })
  | .clear => (.dropped reception.roster.members, { reception with roster := .empty })

def run (address : α → Endpoint) (calls : List (RosterCall σ α)) (reception : Reception σ α) :
    Reception σ α :=
  calls.foldl (fun reception call => (reception.serve address call).2) reception

def dialogue (address : α → Endpoint) :
    List (RosterCall σ α) → Reception σ α → List (RosterCall σ α × RosterAnswer α)
  | [], _ => []
  | call :: calls, reception =>
      (call, (reception.serve address call).1) ::
        dialogue address calls (reception.serve address call).2

def stored (address : α → Endpoint) (calls : List (RosterCall σ α)) (reception : Reception σ α) :
    List α :=
  (dialogue address calls reception).filterMap fun turn => turn.2.stored?

def handedBack (address : α → Endpoint) (calls : List (RosterCall σ α))
    (reception : Reception σ α) : List α :=
  (dialogue address calls reception).flatMap fun turn => turn.1.handedBack turn.2

variable {address : α → Endpoint} {reception : Reception σ α} {call : RosterCall σ α}
  {calls : List (RosterCall σ α)} {endpoint : Endpoint} {member : α}

/-! A call either stores one new member, or sifts the roster and hands back who falls through. -/

structure Stores (address : α → Endpoint) (endpoint : Endpoint) (member : α)
    (call : RosterCall σ α) (reception : Reception σ α) : Prop where
  call_eq : ∃ make, call = .insert endpoint make
  answer : (reception.serve address call).1 = .stored member
  free : reception.roster.get? endpoint = none
  entries : (reception.serve address call).2.roster.entries =
    reception.roster.entries ++ [(endpoint, member)]

structure Sifts (address : α → Endpoint) (keep : Endpoint × α → Bool) (call : RosterCall σ α)
    (reception : Reception σ α) : Prop where
  roster : (reception.serve address call).2.roster = reception.roster.filter keep
  handedBack : call.handedBack (reception.serve address call).1 =
    (reception.roster.entries.filter fun entry => !keep entry).map Prod.snd
  stored? : (reception.serve address call).1.stored? = none

theorem sifts_of_unchanged {answer : RosterAnswer α}
    (hserve : reception.serve address call = (answer, reception))
    (hback : call.handedBack answer = []) (hstored : answer.stored? = none) :
    reception.Sifts address (fun _ => true) call where
  roster := by rw [hserve, Roster.filter_everyone]
  handedBack := by
    rw [hserve, hback]
    exact (congrArg Roster.members reception.roster.filter_nobody).symm
  stored? := by rw [hserve, hstored]

theorem serve_insert (address : α → Endpoint) (endpoint : Endpoint) (make : σ → α × σ)
    (reception : Reception σ α) :
    reception.serve address (.insert endpoint make) = reception.insert endpoint make :=
  rfl

theorem sifts_insert (address : α → Endpoint) (make : σ → α × σ)
    (h : reception.roster.get? endpoint = some member) :
    reception.Sifts address (fun _ => true) (.insert endpoint make) :=
  sifts_of_unchanged (insert_of_present h) rfl rfl

theorem stores_insert (address : α → Endpoint) (make : σ → α × σ)
    (h : reception.roster.get? endpoint = none) :
    reception.Stores address endpoint (make reception.world).1 (.insert endpoint make) := by
  obtain ⟨roster, hentries, hinsert⟩ := insert_of_free h make
  refine ⟨⟨make, rfl⟩, ?_, h, ?_⟩
  · rw [serve_insert, hinsert]
  · rw [serve_insert, hinsert, hentries]

theorem sifts_remove (address : α → Endpoint) (endpoint : Endpoint) (reception : Reception σ α) :
    reception.Sifts address (fun entry => entry.1 != endpoint) (.remove endpoint) where
  roster := rfl
  handedBack := (reception.roster.erased_eq endpoint).symm
  stored? := rfl

theorem serve_removeIf_of_there (h : reception.roster.get? (address member) = some member) :
    reception.serve address (.removeIf member) =
      (.removedIf true, (reception.serve address (.remove (address member))).2) := by
  simp only [serve, Roster.eraseIf?, if_pos h]

theorem serve_removeIf_of_elsewhere (h : reception.roster.get? (address member) ≠ some member) :
    reception.serve address (.removeIf member) = (.removedIf false, reception) := by
  simp only [serve, Roster.eraseIf?, if_neg h]

theorem exists_sifts_removeIf (address : α → Endpoint) (member : α) (reception : Reception σ α) :
    ∃ keep, reception.Sifts address keep (.removeIf member) := by
  by_cases h : reception.roster.get? (address member) = some member
  · have hserve := serve_removeIf_of_there h
    have hremove := sifts_remove address (address member) reception
    refine ⟨_, (congrArg (·.2.roster) hserve).trans hremove.roster, ?_, by rw [hserve]; rfl⟩
    rw [← hremove.handedBack, hserve]
    simp [RosterCall.handedBack, serve, h]
  · exact ⟨_, sifts_of_unchanged (serve_removeIf_of_elsewhere h) rfl rfl⟩

theorem sifts_keepOnly (address : α → Endpoint) (listed : List Endpoint)
    (reception : Reception σ α) :
    reception.Sifts address (fun entry => entry.1 ∈ listed) (.keepOnly listed) where
  roster := rfl
  handedBack := by simp [serve, RosterCall.handedBack, Roster.splitBy]
  stored? := rfl

theorem sifts_clear (address : α → Endpoint) (reception : Reception σ α) :
    reception.Sifts address (fun _ => false) .clear where
  roster := reception.roster.filter_nobody.symm
  handedBack := by simp [serve, RosterCall.handedBack, Roster.members]
  stored? := rfl

theorem stores_or_sifts (address : α → Endpoint) (call : RosterCall σ α)
    (reception : Reception σ α) :
    (∃ endpoint member, reception.Stores address endpoint member call) ∨
      ∃ keep, reception.Sifts address keep call := by
  cases call with
  | insert endpoint make =>
      cases hplace : reception.roster.get? endpoint with
      | some present => exact .inr ⟨_, sifts_insert address make hplace⟩
      | none => exact .inl ⟨endpoint, _, stores_insert address make hplace⟩
  | remove endpoint => exact .inr ⟨_, sifts_remove address endpoint reception⟩
  | removeIf member => exact .inr (exists_sifts_removeIf address member reception)
  | keepOnly listed => exact .inr ⟨_, sifts_keepOnly address listed reception⟩
  | clear => exact .inr ⟨_, sifts_clear address reception⟩

/-! Nobody is lost, and nobody is there twice for having been stored once. -/

theorem handedBack_cons (address : α → Endpoint) (call : RosterCall σ α)
    (calls : List (RosterCall σ α)) (reception : Reception σ α) :
    reception.handedBack address (call :: calls) =
      call.handedBack (reception.serve address call).1 ++
        (reception.serve address call).2.handedBack address calls :=
  rfl

theorem stored_cons (address : α → Endpoint) (call : RosterCall σ α)
    (calls : List (RosterCall σ α)) (reception : Reception σ α) :
    reception.stored address (call :: calls) =
      (reception.serve address call).1.stored?.toList ++
        (reception.serve address call).2.stored address calls := by
  rw [stored, dialogue, List.filterMap_cons]
  cases (reception.serve address call).1.stored? <;> rfl

theorem perm_serve (address : α → Endpoint) (call : RosterCall σ α) (reception : Reception σ α) :
    (call.handedBack (reception.serve address call).1 ++
        (reception.serve address call).2.roster.members).Perm
      (reception.roster.members ++ (reception.serve address call).1.stored?.toList) := by
  obtain ⟨endpoint, member, hstores⟩ | ⟨keep, hsifts⟩ := stores_or_sifts address call reception
  · obtain ⟨make, rfl⟩ := hstores.call_eq
    rw [hstores.answer, Roster.members, hstores.entries, List.map_append]
    exact .refl _
  · rw [hsifts.handedBack, hsifts.stored?, hsifts.roster, Option.toList_none, List.append_nil,
      Roster.members, Roster.members, Roster.filter, ← List.map_append]
    exact (List.perm_append_comm.trans (List.filter_append_perm keep _)).map Prod.snd

theorem perm_run (address : α → Endpoint) (calls : List (RosterCall σ α))
    (reception : Reception σ α) :
    (reception.handedBack address calls ++ (reception.run address calls).roster.members).Perm
      (reception.roster.members ++ reception.stored address calls) := by
  induction calls generalizing reception with
  | nil =>
      simp only [handedBack, stored, dialogue, run]
      exact (List.append_nil _).symm ▸ .refl _
  | cons call calls ih =>
      rw [handedBack_cons, stored_cons, List.append_assoc]
      refine ((ih (reception.serve address call).2).append_left _).trans ?_
      rw [← List.append_assoc, ← List.append_assoc]
      exact (perm_serve address call reception).append_right _

/-! From when to when a member is under an endpoint. -/

/-- The member is under the endpoint before, between and after the calls. -/
def StaysThrough (address : α → Endpoint) (endpoint : Endpoint) (member : α)
    (calls : List (RosterCall σ α)) (reception : Reception σ α) : Prop :=
  ∀ early, early <+: calls → (reception.run address early).roster.get? endpoint = some member

structure Leaves (address : α → Endpoint) (endpoint : Endpoint) (member : α)
    (call : RosterCall σ α) (reception : Reception σ α) : Prop where
  there : reception.roster.get? endpoint = some member
  handedBack : member ∈ call.handedBack (reception.serve address call).1
  gone : (reception.serve address call).2.roster.get? endpoint = none

/-- The member stays under the endpoint, unless one call takes it out; and no other call does so
again before another insertion stores it there once more. -/
def Attends (address : α → Endpoint) (endpoint : Endpoint) (member : α)
    (calls : List (RosterCall σ α)) (reception : Reception σ α) : Prop :=
  reception.StaysThrough address endpoint member calls ∨
    ∃ part call rest, calls = part ++ call :: rest ∧
      reception.StaysThrough address endpoint member part ∧
      (reception.run address part).Leaves address endpoint member call ∧
      ∀ first again last, rest = first ++ again :: last →
        (reception.run address (part ++ call :: first)).Leaves address endpoint member again →
        ∃ early insertion late, first = early ++ insertion :: late ∧
          (reception.run address (part ++ call :: early)).Stores address endpoint member insertion

theorem Sifts.stays_or_leaves {keep : Endpoint × α → Bool}
    (h : reception.Sifts address keep call)
    (hthere : reception.roster.get? endpoint = some member) :
    (reception.serve address call).2.roster.get? endpoint = some member ∨
      reception.Leaves address endpoint member call := by
  have hnext := congrArg (·.get? endpoint) h.roster
  simp only [Roster.get?_filter, hthere, Option.filter_some] at hnext
  cases hkeep : keep (endpoint, member) with
  | true => exact .inl (by rw [hnext, hkeep, if_pos rfl])
  | false =>
      refine .inr ⟨hthere, ?_, by rw [hnext, hkeep]; rfl⟩
      rw [h.handedBack]
      refine List.mem_map_of_mem (f := Prod.snd) (a := (endpoint, member)) ?_
      exact List.mem_filter.mpr ⟨Roster.get?_eq_some_iff.mp hthere, by rw [hkeep]; rfl⟩

theorem Stores.get?_serve (h : reception.Stores address endpoint member call) (other : Endpoint) :
    (reception.serve address call).2.roster.get? other =
      if other = endpoint then some member else reception.roster.get? other :=
  Roster.get?_of_append h.entries other

theorem stays_or_leaves (hthere : reception.roster.get? endpoint = some member)
    (address : α → Endpoint) (call : RosterCall σ α) :
    (reception.serve address call).2.roster.get? endpoint = some member ∨
      reception.Leaves address endpoint member call := by
  obtain ⟨other, newcomer, hstores⟩ | ⟨keep, hsifts⟩ := stores_or_sifts address call reception
  · left
    rw [hstores.get?_serve, if_neg, hthere]
    rintro rfl
    rw [hstores.free] at hthere
    cases hthere
  · exact hsifts.stays_or_leaves hthere

theorem stores_of_appears (habsent : reception.roster.get? endpoint ≠ some member)
    (hthere : (reception.serve address call).2.roster.get? endpoint = some member) :
    reception.Stores address endpoint member call := by
  obtain ⟨other, newcomer, hstores⟩ | ⟨keep, hsifts⟩ := stores_or_sifts address call reception
  · rw [hstores.get?_serve] at hthere
    by_cases hsame : endpoint = other
    · subst hsame
      rw [if_pos rfl, Option.some.injEq] at hthere
      exact hthere ▸ hstores
    · rw [if_neg hsame] at hthere
      exact absurd hthere habsent
  · rw [hsifts.roster, Roster.get?_filter, Option.filter_eq_some_iff] at hthere
    exact absurd hthere.1 habsent

theorem exists_stores (habsent : reception.roster.get? endpoint ≠ some member)
    (hthere : (reception.run address calls).roster.get? endpoint = some member) :
    ∃ early insertion late, calls = early ++ insertion :: late ∧
      (reception.run address early).Stores address endpoint member insertion := by
  induction calls generalizing reception with
  | nil => exact absurd hthere habsent
  | cons call calls ih =>
      by_cases hnext : (reception.serve address call).2.roster.get? endpoint = some member
      · exact ⟨[], call, calls, rfl, stores_of_appears habsent hnext⟩
      · obtain ⟨early, insertion, late, rfl, hstores⟩ := ih hnext hthere
        exact ⟨call :: early, insertion, late, rfl, hstores⟩

theorem staysThrough_nil (hthere : reception.roster.get? endpoint = some member) :
    reception.StaysThrough address endpoint member [] := by
  intro early hearly
  rw [List.prefix_nil.mp hearly]
  exact hthere

theorem StaysThrough.cons (hthere : reception.roster.get? endpoint = some member)
    (h : (reception.serve address call).2.StaysThrough address endpoint member calls) :
    reception.StaysThrough address endpoint member (call :: calls) := by
  intro early hearly
  obtain rfl | ⟨later, rfl, hlater⟩ := List.prefix_cons_iff.mp hearly
  · exact hthere
  · exact h later hlater

theorem attends (hthere : reception.roster.get? endpoint = some member)
    (address : α → Endpoint) (calls : List (RosterCall σ α)) :
    reception.Attends address endpoint member calls := by
  induction calls generalizing reception with
  | nil => exact .inl (staysThrough_nil hthere)
  | cons call calls ih =>
      obtain hstays | hleaves := stays_or_leaves hthere address call
      · obtain hstill | ⟨part, last, rest, rfl, hpart, hlast⟩ := ih hstays
        · exact .inl (hstill.cons hthere)
        · exact .inr ⟨call :: part, last, rest, rfl, hpart.cons hthere, hlast⟩
      · refine .inr ⟨[], call, calls, rfl, staysThrough_nil hthere, hleaves, ?_⟩
        intro first again last _ hagain
        have hgone : (reception.serve address call).2.roster.get? endpoint ≠ some member := by
          rw [hleaves.gone]
          exact (Option.some_ne_none member).symm
        exact exists_stores hgone hagain.there

/-- Whoever was stored once is handed back once, if at all. -/
theorem count_handedBack (address : α → Endpoint) (calls : List (RosterCall σ α))
    (reception : Reception σ α)
    (honce : (reception.roster.members ++ reception.stored address calls).count member = 1) :
    (reception.handedBack address calls).count member =
      if member ∈ (reception.run address calls).roster.members then 0 else 1 := by
  rw [← (reception.perm_run address calls).count_eq, List.count_append] at honce
  split
  · next hthere =>
      have hpositive := List.count_pos_iff.mpr hthere
      omega
  · next habsent =>
      have hzero := List.count_eq_zero.mpr habsent
      omega

/-- What each call does to a roster and to the world, and what it is answered. -/
structure Answers (address : α → Endpoint) (reception : Reception σ α) : Prop where
  present : ∀ endpoint make member, reception.roster.get? endpoint = some member →
    reception.serve address (.insert endpoint make) = (.present member, reception)
  stored : ∀ endpoint make, reception.roster.get? endpoint = none →
    let made := make reception.world
    let served := reception.serve address (.insert endpoint make)
    served.1 = .stored made.1 ∧ served.2.world = made.2 ∧
      ∀ other, served.2.roster.get? other =
        if other = endpoint then some made.1 else reception.roster.get? other
  removed : ∀ endpoint,
    let served := reception.serve address (.remove endpoint)
    served.1 = .removed (reception.roster.get? endpoint) ∧ served.2.world = reception.world ∧
      ∀ other, served.2.roster.get? other =
        if other = endpoint then none else reception.roster.get? other
  removedIf : ∀ member, reception.roster.get? (address member) = some member →
    reception.serve address (.removeIf member) =
      (.removedIf true, (reception.serve address (.remove (address member))).2)
  spared : ∀ member, reception.roster.get? (address member) ≠ some member →
    reception.serve address (.removeIf member) = (.removedIf false, reception)
  kept : ∀ listed, ∃ members,
    let served := reception.serve address (.keepOnly listed)
    served.1 = .dropped members ∧ served.2.world = reception.world ∧
      members.map some =
        (reception.roster.endpoints.filter (· ∉ listed)).map reception.roster.get? ∧
      ∀ other, served.2.roster.get? other =
        if other ∈ listed then reception.roster.get? other else none
  cleared : ∃ members,
    reception.serve address .clear = (.dropped members, { reception with roster := .empty }) ∧
      members.map some = reception.roster.endpoints.map reception.roster.get?

theorem answers (address : α → Endpoint) (reception : Reception σ α) :
    reception.Answers address where
  present _ _ _ hpresent := insert_of_present hpresent
  stored endpoint make hfree := by
    obtain ⟨roster, hentries, hinsert⟩ := insert_of_free hfree make
    rw [serve_insert, hinsert]
    exact ⟨rfl, rfl, Roster.get?_of_append hentries⟩
  removed endpoint := ⟨rfl, rfl, fun _ => Roster.get?_erase⟩
  removedIf _ hthere := serve_removeIf_of_there hthere
  spared _ helsewhere := serve_removeIf_of_elsewhere helsewhere
  kept listed := by
    refine ⟨_, rfl, rfl, ?_, fun other => ?_⟩
    · exact reception.roster.map_some_filter fun endpoint => endpoint ∉ listed
    · refine Roster.get?_filter.trans ?_
      cases reception.roster.get? other <;> by_cases hlisted : other ∈ listed <;> simp [hlisted]
  cleared := ⟨_, rfl, reception.roster.map_some_members⟩

/-- A roster loses nobody and doubles nobody. Every call keeps to what it promises: an insertion
under an endpoint that is taken finds who is there and makes nobody new, and asking to remove a
member never removes another one that has its place now. Taking many out at once comes to the same
as removing one after another, and what can be seen of the roster fits together at any time. Whoever
is stored stays under that endpoint until one removal takes it out and hands it back; all in all,
those who were stored are those who were handed back and those who are still there. -/
theorem keeps_everyone (address : α → Endpoint) (start : Reception σ α)
    (calls : List (RosterCall σ α)) :
    let reception := start.run address calls
    reception.Answers address ∧ reception.roster.SiftsOneByOne ∧ reception.roster.Tallies ∧
    (∀ endpoint make member,
      (reception.serve address (.insert endpoint make)).1 = .stored member →
        ∀ more, (reception.serve address (.insert endpoint make)).2.Attends address endpoint
          member more) ∧
    (start.handedBack address calls ++ reception.roster.members).Perm
      (start.roster.members ++ start.stored address calls) ∧
    (∀ member, (start.roster.members ++ start.stored address calls).count member = 1 →
      (start.handedBack address calls).count member =
        if member ∈ reception.roster.members then 0 else 1) := by
  intro reception
  refine ⟨answers address reception, reception.roster.siftsOneByOne, reception.roster.tallies, ?_,
    perm_run address calls start, fun _ => count_handedBack address calls start⟩
  intro endpoint make member hstored more
  exact attends (get?_of_stored hstored) address more

def door (_ : Nat) : Endpoint :=
  { text := "front" }

def sideDoor : Endpoint :=
  { text := "side" }

def nextGuest (world : Nat) : Nat × Nat :=
  (world, world + 1)

def atStart : Reception Nat Nat :=
  ⟨.empty, 0⟩

def twoGuests : List (RosterCall Nat Nat) :=
  [.insert (door 0) nextGuest, .remove (door 0), .insert (door 1) nextGuest]

theorem keeps_everyone_twoGuests :
    let reception := atStart.run door twoGuests
    reception.serve door (.removeIf 0) = (.removedIf false, reception) ∧
      reception.serve door (.insert (door 0) nextGuest) = (.present 1, reception) ∧
      (atStart.handedBack door twoGuests).count 0 = 1 ∧
      (atStart.handedBack door twoGuests).count 1 = 0 ∧
      (reception.serve door (.insert sideDoor nextGuest)).2.Attends door sideDoor 2
        [.removeIf 2, .clear] := by
  obtain ⟨hanswers, -, -, hattends, -, hcount⟩ := keeps_everyone door atStart twoGuests
  refine ⟨hanswers.spared 0 (by decide), hanswers.present _ _ 1 (by decide), ?_, ?_, ?_⟩
  · exact (hcount 0 (by decide)).trans (if_neg (by decide))
  · exact (hcount 1 (by decide)).trans (if_pos (by decide))
  · exact hattends _ _ 2 rfl _

end Reception

end ConferenceBridge
