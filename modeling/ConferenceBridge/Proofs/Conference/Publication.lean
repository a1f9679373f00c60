import ConferenceBridge.Proofs.Conference.Announcement

namespace ConferenceBridge

/-! Who was handed to the call list, and under which account. The account is made from the telephone
that the handle named when the conference was opened; a participant is asked for it later and has
the handle name its telephone again. -/

theorem AccountHandle.forPhone_inj {first second : PhoneId} :
    forPhone first = forPhone second ↔ first = second := by
  constructor
  · intro h
    have hdigits : Nat.toDigits 10 first.number.toNat = Nat.toDigits 10 second.number.toNat := by
      have hid : toString first.number.toNat = toString second.number.toNat :=
        congrArg AccountHandle.id h
      rwa [Nat.toString_eq_ofList_toDigits, Nat.toString_eq_ofList_toDigits, String.ofList_inj] at hid
    have hvalue := congrArg (fun digits => Nat.ofDigitChars 10 digits 0) hdigits
    simp only [Nat.ofDigitChars_ten_toDigits, UInt32.toNat_inj] at hvalue
    cases first
    cases second
    exact congrArg PhoneId.mk hvalue
  · exact congrArg forPhone

namespace Conference

/-! A conference keeps the telephone that its host had at first. -/

theorem phone_release (line : HostLine) : line.release.1.phone = line.phone := by
  unfold HostLine.release
  split <;> rfl

theorem Transition.phone_eq (h : Transition conference next) :
    next.host.phone = conference.host.phone := by
  cases h with
  | call number call => rw [host_call]
  | keep listed hopen => rw [host_keep]
  | dismiss htorn => rw [host_dismissAll]
  | refreshManage => rw [host_refreshManage]
  | tearDown =>
      cases hflag : conference.tornDown with
      | true => simp [Conference.tearDown, hflag]
      | false => rw [host_tearDown hflag, phone_release]
  | _ => rfl

theorem Evolves.phone_eq (h : Evolves conference next) :
    next.host.phone = conference.host.phone :=
  h.preserves (P := fun later => later.host.phone = conference.host.phone)
    (fun htransition hphone => htransition.phone_eq.trans hphone) rfl

end Conference

namespace Scene

variable {scene next : Scene}

def publications (scene : Scene) : List Publication :=
  scene.effects.filterMap Effect.publication?

def Recorded (scene : Scene) : Prop :=
  scene.publications.length = scene.conference.participants.length

theorem Tells.publications_eq (h : Tells (fun effect => effect.publication?.isNone) scene next) :
    next.publications = scene.publications := by
  obtain ⟨told, heffects, htold⟩ := h
  have hnobody : told.filterMap Effect.publication? = [] :=
    List.filterMap_eq_nil_iff.mpr fun effect heffect =>
      Option.isNone_iff_eq_none.mp (htold effect heffect)
  rw [publications, heffects, List.filterMap_append, hnobody, List.append_nil, publications]

theorem Reaches.recorded (hreach : Reaches scene next) (h : scene.Recorded) : next.Recorded := by
  apply hreach.preserves_of_beats _ _ _ _ h
  · intro scene next hbeat h
    rw [Recorded, hbeat.unpublished.2.publications_eq, hbeat.count_eq]
    exact h
  · exact fun handle register h => h
  · intro scene roster entry h
    rw [Recorded, publications, effects_enroll, List.filterMap_append, List.length_append,
      ← publications, h]
    simp [Effect.publication?, enroll, Conference.enroll]
  · intro scene endpoint h
    have htells : Tells (fun effect => effect.publication?.isNone) scene
        (scene.announce (.participantAdded endpoint)) := .of_record rfl scene
    rw [Recorded, htells.publications_eq]
    exact h

theorem recorded_openOver (id : ConferenceId) (config : ConferenceConfig) (handle : Handle) :
    (openOver id config handle).Recorded := rfl

theorem Recorded.newcomers (h : scene.Recorded) (hnext : next.Recorded)
    (hgrow : scene.effects <+: next.effects) :
    scene.conference.participants.length +
        ((next.effectsAfter scene.history.length).filterMap Effect.publication?).length =
      next.conference.participants.length := by
  obtain ⟨told, heffects⟩ := hgrow
  have hlength : scene.history.length = scene.effects.length := by simp [effects]
  have hnew : next.effectsAfter scene.history.length = told := by
    rw [effectsAfter_eq_drop, ← heffects, hlength, List.drop_left]
  rw [← h, ← hnext, hnew, publications, publications, ← heffects, List.filterMap_append,
    List.length_append]

/-- Everyone who was handed over got the account of one and the same telephone. -/
structure Billed (phone : PhoneId) (scene : Scene) : Prop where
  host : scene.conference.host.phone = phone
  recorded : scene.Recorded
  accounts : ∀ publication ∈ scene.publications, publication.account = .forPhone phone

theorem billed_openOver (id : ConferenceId) (config : ConferenceConfig) (handle : Handle) :
    (openOver id config handle).Billed handle.phone := by
  refine ⟨rfl, recorded_openOver id config handle, ?_⟩
  intro publication hmem
  cases hmem

theorem Step.phone_eq (h : Step scene next) :
    next.conference.host.phone = scene.conference.host.phone := by
  cases h with
  | call number call =>
      rcases callParticipant_eq_or number call scene with heq | ⟨-, heq⟩
      · rw [heq, conference_operate]
        rfl
      · rw [heq, conference_forget, Conference.host_forget, conference_operate]
        rfl
  | keep listed hopen =>
      rw [conference_keep]
      exact (Conference.Transition.keep listed hopen).phone_eq
  | dismiss htorn =>
      rw [conference_dismissAll]
      exact (Conference.Transition.dismiss htorn).phone_eq
  | refreshManage => rw [conference_refreshManage, Conference.host_refreshManage]
  | follow state => exact (evolves_applyHostState state scene).phone_eq
  | disconnect cause => exact (evolves_setDisconnected cause scene).phone_eq
  | tearDown =>
      rw [conference_tearDown]
      exact Conference.Transition.tearDown.phone_eq
  | _ => rfl

theorem Beats.publications_eq (h : Beats scene next) : next.publications = scene.publications := by
  induction h with
  | refl => rfl
  | tail _ hlast ih => rw [hlast.unpublished.2.publications_eq, ih]

theorem Step.billed {phone : PhoneId} (hstep : Step scene next) (h : scene.Billed phone) :
    next.Billed phone := by
  refine ⟨hstep.phone_eq.trans h.host, Reaches.recorded hstep.reaches h.recorded, ?_⟩
  have haccounts := h.accounts
  cases hstep.rhythm with
  | beats hbeats => rwa [hbeats.publications_eq]
  | surroundings handle register => exact haccounts
  | enroll entry hopen habsent =>
      rw [publications, effects_enroll, List.filterMap_append]
      intro publication hmem
      rcases List.mem_append.mp hmem with hearlier | hnew
      · exact haccounts publication hearlier
      · obtain rfl : publication = scene.publication entry := by
          simpa [Effect.publication?] using hnew
        exact congrArg AccountHandle.forPhone h.host
  | welcome endpoint =>
      have htells : Tells (fun effect => effect.publication?.isNone) scene
          (scene.announce (.participantAdded endpoint)) := .of_record rfl scene
      rwa [htells.publications_eq]

/-- What may become of a conference: it takes a step, or someone gets or loses hold of its handle or
of the conference itself. -/
inductive Happens (scene : Scene) : Scene → Prop
  | step {next : Scene} (h : Step scene next) : Happens scene next
  | hold (handleHeld dropped : Bool) : Happens scene { scene with handleHeld, dropped }

abbrev Leads : Scene → Scene → Prop :=
  Relation.ReflTransGen Happens

theorem leads_run (requests : List Request) (scene : Scene) : Leads scene (scene.run requests) :=
  Relation.ReflTransGen.mono (fun _ _ => Happens.step) _ _ (reaches_run requests scene)

theorem Leads.billed {phone : PhoneId} (hleads : Leads scene next) (h : scene.Billed phone) :
    next.Billed phone := by
  induction hleads with
  | refl => exact h
  | tail _ hlast ih =>
      cases hlast with
      | step hstep => exact hstep.billed ih
      | hold handleHeld dropped => exact ⟨ih.host, ih.recorded, ih.accounts⟩

theorem account?_eq_some_iff {phone : PhoneId} (halive : scene.phone?.isSome = true) :
    scene.account? = some (.forPhone phone) ↔ scene.handle.phone = phone := by
  unfold account?
  unfold phone? at halive ⊢
  split
  · rw [Option.map_some, Option.some_inj, AccountHandle.forPhone_inj]
  · rename_i hgone
    rw [if_neg hgone] at halive
    cases halive

variable {id : ConferenceId} {config : ConferenceConfig} {handle : Handle} {start : Scene}

/-- Everyone who ever takes part is handed over once, under the account of the telephone that the
handle named when the conference was opened. At any moment from then on, as long as anyone holds the
handle, participants name that account exactly if the handle still names that telephone; afterwards
they name none. -/
theorem account_kept_iff (hopen : openOver? id config handle = .ok start) {scene : Scene}
    (hleads : Leads start scene) :
    scene.publications.length = scene.conference.participants.length ∧
    ∀ publication ∈ scene.publications,
      publication.account = .forPhone handle.phone ∧
      (scene.phone?.isSome = true →
        (scene.account? = some publication.account ↔ scene.handle.phone = handle.phone)) ∧
      (scene.phone?.isSome = false → scene.account? = none) := by
  obtain ⟨rfl, -⟩ := eq_openOver_of_openOver? hopen
  have hbilled := hleads.billed (billed_openOver id config handle)
  refine ⟨hbilled.recorded, fun publication hmem => ⟨hbilled.accounts publication hmem, ?_, ?_⟩⟩
  · intro halive
    rw [hbilled.accounts publication hmem, account?_eq_some_iff halive]
  · intro hgone
    rw [account?, Option.map_eq_none_iff]
    simpa using hgone

def movedPhone : List Request :=
  [.reconcile [⟨⟨"published", by decide⟩, .active, none, none⟩],
    .handleChanged { label := "host", phone := ⟨7⟩ }]

theorem account_kept_iff_movedPhone :
    (fresh.run (movedPhone.take 1)).account? = some (.forPhone ⟨1⟩) ∧
      (fresh.run movedPhone).publications.length = 1 ∧
      ∀ publication ∈ (fresh.run movedPhone).publications,
        (fresh.run movedPhone).account? ≠ some publication.account := by
  obtain ⟨hcount, hnow⟩ := account_kept_iff openOver?_fresh (leads_run movedPhone fresh)
  refine ⟨rfl, hcount, fun publication hmem haccount => ?_⟩
  have hphone := ((hnow publication hmem).2.1 rfl).mp haccount
  exact absurd hphone (by decide)

theorem account_differs :
    (fresh.run movedPhone).phone?.isSome = true ∧
      (fresh.run movedPhone).publications.map (·.account) = [.forPhone ⟨1⟩] ∧
      (fresh.run movedPhone).account? = some (.forPhone ⟨7⟩) ∧
      AccountHandle.forPhone ⟨7⟩ ≠ .forPhone ⟨1⟩ :=
  ⟨rfl, rfl, rfl, by decide⟩

end Scene

end ConferenceBridge
