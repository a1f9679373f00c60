import ConferenceBridge.Wire.Scalar
import Mathlib

namespace ConferenceBridge.Json

/-! Two decoders that differ in one thing: the first one looks whether an address is blank, and the
second one takes any text for an address. -/

variable {α β γ δ : Type}

/-- Whatever the first decoder accepts, the second one accepts as well and finds the same. What the
second one alone accepts has a blank address in it, and is refused for that. -/
structure Screens (forget : α → β) (addresses : β → List String) (strict : Decoded α)
    (loose : Decoded β) : Prop where
  kept : ∀ value, strict = .ok value → loose = .ok (forget value)
  screened : ∀ found, loose = .ok found → (∃ value, strict = .ok value) ∨
    ∃ text ∈ addresses found, Text.allBlank text = true ∧ strict = .error (.blankEndpoint text)

theorem bind_eq_ok_iff {first : Decoded α} {next : α → Decoded γ} {result : γ} :
    first >>= next = .ok result ↔ ∃ value, first = .ok value ∧ next value = .ok result := by
  cases first with
  | error fault => exact ⟨nofun, nofun⟩
  | ok value => exact ⟨fun h => ⟨value, rfl, h⟩, fun ⟨_, hvalue, h⟩ => Except.ok.inj hvalue ▸ h⟩

theorem map_eq_ok_iff {first : Decoded α} {change : α → γ} {result : γ} :
    change <$> first = .ok result ↔ ∃ value, first = .ok value ∧ change value = result := by
  cases first with
  | error fault => exact ⟨nofun, nofun⟩
  | ok value =>
      constructor
      · exact fun h => ⟨value, rfl, Except.ok.inj h⟩
      · rintro ⟨_, ⟨⟩, rfl⟩
        rfl

section

variable {forget : α → β} {addresses : β → List String} {strict : Decoded α} {loose : Decoded β}
  {forgetNext : γ → δ} {addressesNext : δ → List String}

namespace Screens

theorem ok (forget : α → β) (addresses : β → List String) (value : α) :
    Screens forget addresses (.ok value) (.ok (forget value)) :=
  ⟨fun _ h => by cases h; rfl, fun _ _ => .inl ⟨value, rfl⟩⟩

theorem refused (forget : α → β) (addresses : β → List String) :
    Screens forget addresses malformed malformed :=
  ⟨nofun, nofun⟩

/-- If one goes on from the same and no address is lost on the way, nothing changes. -/
theorem bind {next : α → Decoded γ} {looseNext : β → Decoded δ}
    (h : Screens forget addresses strict loose)
    (hnext : ∀ value, Screens forgetNext addressesNext (next value) (looseNext (forget value)))
    (hholds : ∀ found result, looseNext found = .ok result →
      addresses found ⊆ addressesNext result) :
    Screens forgetNext addressesNext (strict >>= next) (loose >>= looseNext) := by
  constructor
  · intro result hresult
    obtain ⟨value, hvalue, hthen⟩ := bind_eq_ok_iff.mp hresult
    rw [h.kept value hvalue]
    exact (hnext value).kept result hthen
  · intro result hresult
    obtain ⟨found, hfound, hthen⟩ := bind_eq_ok_iff.mp hresult
    rcases h.screened found hfound with ⟨value, hvalue⟩ | ⟨text, hmem, hblank, hrefused⟩
    · obtain rfl : forget value = found := Except.ok.inj ((h.kept value hvalue).symm.trans hfound)
      rw [hvalue]
      exact (hnext value).screened result hthen
    · rw [hrefused]
      exact .inr ⟨text, hholds found result hthen hmem, hblank, rfl⟩

theorem map {change : α → γ} {looseChange : β → δ} (h : Screens forget addresses strict loose)
    (hchange : ∀ value, looseChange (forget value) = forgetNext (change value))
    (hholds : ∀ found, addresses found ⊆ addressesNext (looseChange found)) :
    Screens forgetNext addressesNext (change <$> strict) (looseChange <$> loose) := by
  have hnext (value : α) : Screens forgetNext addressesNext (.ok (change value))
      (.ok (looseChange (forget value))) := by
    rw [hchange]
    exact ok _ _ _
  have hbind := @bind _ _ _ _ _ _ _ _ forgetNext addressesNext
    (fun value => .ok (change value)) (fun found => .ok (looseChange found)) h hnext ?_
  · cases strict <;> cases loose <;> exact hbind
  · rintro found result ⟨⟩
    exact hholds found

theorem after (common : Decoded γ) {next : γ → Decoded α} {looseNext : γ → Decoded β}
    (h : ∀ value, Screens forget addresses (next value) (looseNext value)) :
    Screens forget addresses (common >>= next) (common >>= looseNext) := by
  cases common with
  | error fault => exact ⟨nofun, nofun⟩
  | ok value => exact h value

theorem andThen (h : Screens forget addresses strict loose) (sound : Bool) :
    Screens forget addresses (strict >>= fun value => if sound then .ok value else malformed)
      (loose >>= fun found => if sound then .ok found else malformed) := by
  cases sound with
  | true =>
      refine h.bind (ok forget addresses) ?_
      rintro found result ⟨⟩
      exact List.Subset.refl _
  | false => exact h.bind (fun _ => refused _ _) nofun

theorem of_map (forget : α → β) (addresses : β → List String) (strict : Decoded α) :
    Screens forget addresses strict (forget <$> strict) := by
  cases strict with
  | error fault => exact ⟨nofun, nofun⟩
  | ok value => exact ok forget addresses value

end Screens

theorem screens_asEndpoint (value : Json) :
    Screens Endpoint.text (fun text => [text]) value.asEndpoint value.asText := by
  have hscreen (text : String) : Screens Endpoint.text (fun text => [text])
      (if h : Text.allBlank text = false then .ok ⟨text, h⟩ else .error (.blankEndpoint text))
      (.ok text) := by
    constructor
    · intro endpoint hendpoint
      split at hendpoint <;> cases hendpoint
      rfl
    · rintro found ⟨⟩
      split
      · exact .inl ⟨_, rfl⟩
      · rename_i hblank
        exact .inr ⟨text, List.mem_singleton_self text, by simpa using hblank, rfl⟩
  have hafter := Screens.after value.asText hscreen
  rwa [show value.asText >>= Except.ok = value.asText from bind_pure _] at hafter

/-- One blank address voids the whole list. -/
theorem screens_mapM {decode : Json → Decoded α} {looseDecode : Json → Decoded β}
    (h : ∀ value, Screens forget addresses (decode value) (looseDecode value))
    (items : List Json) :
    Screens (List.map forget) (List.flatMap addresses) (items.mapM decode)
      (items.mapM looseDecode) := by
  induction items with
  | nil => exact Screens.ok (List.map forget) (List.flatMap addresses) []
  | cons item items ih =>
      rw [List.mapM_cons, List.mapM_cons]
      refine (h item).bind (fun value => ?_) ?_
      · exact ih.map (fun _ => rfl) fun found => List.subset_append_right _ _
      · intro found result hresult
        obtain ⟨rest, -, hlisted⟩ := bind_eq_ok_iff.mp hresult
        cases hlisted
        exact List.subset_append_left _ _

theorem screens_asList {decode : Json → Decoded α} {looseDecode : Json → Decoded β}
    (h : ∀ value, Screens forget addresses (decode value) (looseDecode value)) (value : Json) :
    Screens (List.map forget) (List.flatMap addresses) (value.asList decode)
      (value.asList looseDecode) := by
  cases value with
  | array items => exact screens_mapM h items
  | _ => exact Screens.refused _ _

end

/-! Records of which one member, the place, has the addresses. -/

structure FieldScreens (place : String) (forget : α → β) (addresses : β → List String)
    (field : RecordField α) (looseField : RecordField β) : Prop where
  key : looseField.key = field.key
  kept : ∀ value set, field.decode value = .ok set → ∃ looseSet,
    looseField.decode value = .ok looseSet ∧ ∀ draft, looseSet (forget draft) = forget (set draft)
  screened : ∀ value looseSet, looseField.decode value = .ok looseSet →
    (∃ set, field.decode value = .ok set) ∨ field.key = place ∧ ∃ text,
      Text.allBlank text = true ∧ field.decode value = .error (.blankEndpoint text) ∧
        ∀ draft, text ∈ addresses (looseSet draft)
  inert : field.key ≠ place → ∀ value looseSet, looseField.decode value = .ok looseSet →
    ∀ draft, addresses (looseSet draft) = addresses draft

section

variable {place : String} {forget : α → β} {addresses : β → List String}
  {fields : List (RecordField α)} {looseFields : List (RecordField β)}

theorem FieldScreens.plain (place key : String) {decode : Json → Decoded γ} {set : γ → α → α}
    {looseSet : γ → β → β}
    (hset : ∀ part draft, looseSet part (forget draft) = forget (set part draft))
    (hinert : ∀ part draft, addresses (looseSet part draft) = addresses draft) :
    FieldScreens place forget addresses (.of key decode set) (.of key decode looseSet) := by
  refine ⟨rfl, fun value => ?_, fun value => ?_, fun _ value => ?_⟩
  all_goals
    simp only [RecordField.of]
    cases decode value with
    | error fault => exact nofun
    | ok part => ?_
  · rintro _ ⟨⟩
    exact ⟨_, rfl, hset part⟩
  · exact fun _ _ => .inl ⟨_, rfl⟩
  · rintro _ ⟨⟩
    exact hinert part

theorem FieldScreens.atPlace (place : String) {decode : Json → Decoded γ}
    {looseDecode : Json → Decoded δ} {forgetPart : γ → δ} {addressesPart : δ → List String}
    {set : γ → α → α} {looseSet : δ → β → β}
    (h : ∀ value, Screens forgetPart addressesPart (decode value) (looseDecode value))
    (hset : ∀ part draft, looseSet (forgetPart part) (forget draft) = forget (set part draft))
    (hholds : ∀ part draft, addressesPart part ⊆ addresses (looseSet part draft)) :
    FieldScreens place forget addresses (.of place decode set)
      (.of place looseDecode looseSet) := by
  refine ⟨rfl, fun value => ?_, fun value => ?_, fun hne => absurd rfl hne⟩
  · simp only [RecordField.of]
    intro _ hdecode
    obtain ⟨part, hpart, rfl⟩ := map_eq_ok_iff.mp hdecode
    rw [(h value).kept part hpart]
    exact ⟨_, rfl, hset part⟩
  · simp only [RecordField.of]
    intro _ hdecode
    obtain ⟨part, hpart, rfl⟩ := map_eq_ok_iff.mp hdecode
    rcases (h value).screened part hpart with ⟨found, hfound⟩ | ⟨text, hmem, hblank, hrefused⟩
    · rw [hfound]
      exact .inl ⟨_, rfl⟩
    · rw [hrefused]
      exact .inr ⟨trivial, text, hblank, rfl, fun draft => hholds part draft hmem⟩

theorem FieldScreens.screens {field : RecordField α} {looseField : RecordField β}
    (hfield : FieldScreens place forget addresses field looseField) {value : Json} (draft : α)
    {next : α → Decoded α} {looseNext : β → Decoded β}
    (hnext : ∀ draft, Screens forget addresses (next draft) (looseNext (forget draft)))
    (hholds : field.key = place → ∀ draft result, looseNext draft = .ok result →
      addresses result = addresses draft) :
    Screens forget addresses (field.decode value >>= fun set => next (set draft))
      (looseField.decode value >>= fun set => looseNext (set (forget draft))) := by
  constructor
  · intro result hresult
    obtain ⟨set, hset, hthen⟩ := bind_eq_ok_iff.mp hresult
    obtain ⟨looseSet, hlooseSet, hforget⟩ := hfield.kept value set hset
    have hkept := (hnext (set draft)).kept result hthen
    rw [hlooseSet]
    rwa [← hforget] at hkept
  · intro result hresult
    obtain ⟨looseSet, hlooseSet, hthen⟩ := bind_eq_ok_iff.mp hresult
    rcases hfield.screened value looseSet hlooseSet with
      ⟨set, hset⟩ | ⟨hplace, text, hblank, hrefused, hmem⟩
    · obtain ⟨sameSet, hsameSet, hforget⟩ := hfield.kept value set hset
      obtain rfl : sameSet = looseSet := Except.ok.inj (hsameSet.symm.trans hlooseSet)
      have hscreened := (hnext (set draft)).screened result
      rw [← hforget] at hscreened
      rw [hset]
      exact hscreened hthen
    · rw [hrefused]
      refine .inr ⟨text, ?_, hblank, rfl⟩
      rw [hholds hplace _ result hthen]
      exact hmem _

theorem find?_of_screens
    (hfields : List.Forall₂ (FieldScreens place forget addresses) fields looseFields)
    (key : String) :
    (fields.find? (fun field => field.key == key) = none ∧
        looseFields.find? (fun field => field.key == key) = none) ∨
      ∃ field looseField, fields.find? (fun field => field.key == key) = some field ∧
        looseFields.find? (fun field => field.key == key) = some looseField ∧
          FieldScreens place forget addresses field looseField ∧ field.key = key := by
  induction hfields with
  | nil => exact .inl ⟨rfl, rfl⟩
  | @cons field looseField fields looseFields hfield _ ih =>
      rw [List.find?_cons, List.find?_cons, hfield.key]
      cases hkey : field.key == key with
      | true => exact .inr ⟨field, looseField, rfl, rfl, hfield, eq_of_beq hkey⟩
      | false => exact ih

theorem fromMembers_of_none {key : String} {value : Json} (hvalue : value ≠ .nameless)
    (hfield : fields.find? (fun field => field.key == key) = none)
    (rest : List (String × Json)) (seen : List String) (draft : α) :
    fromMembers fields ((key, value) :: rest) seen draft = fromMembers fields rest seen draft := by
  rw [fromMembers]
  · simp only [hfield]
  · exact hvalue

theorem fromMembers_of_some {key : String} {value : Json} (hvalue : value ≠ .nameless)
    {field : RecordField α} (hfield : fields.find? (fun field => field.key == key) = some field)
    (rest : List (String × Json)) (seen : List String) (draft : α) :
    fromMembers fields ((key, value) :: rest) seen draft =
      if key ∈ seen then malformed
      else field.decode value >>= fun set => fromMembers fields rest (key :: seen) (set draft) := by
  rw [fromMembers]
  · simp only [hfield]
  · exact hvalue

theorem addresses_fromMembers
    (hfields : List.Forall₂ (FieldScreens place forget addresses) fields looseFields)
    {members : List (String × Json)} {seen : List String} {draft result : β}
    (hseen : place ∈ seen) (hresult : fromMembers looseFields members seen draft = .ok result) :
    addresses result = addresses draft := by
  induction members generalizing seen draft with
  | nil =>
      cases hresult
      rfl
  | cons member members ih =>
      obtain ⟨key, value⟩ := member
      by_cases hvalue : value = .nameless
      · rw [hvalue] at hresult
        cases hresult
      rcases find?_of_screens hfields key with
        ⟨-, hnone⟩ | ⟨field, looseField, -, hsome, hfield, hkey⟩
      · rw [fromMembers_of_none hvalue hnone] at hresult
        exact ih hseen hresult
      · rw [fromMembers_of_some hvalue hsome] at hresult
        split at hresult
        · cases hresult
        · rename_i hnew
          have hother : field.key ≠ place := by
            rintro hplace
            rw [← hplace, hkey] at hseen
            exact hnew hseen
          obtain ⟨set, hset, hthen⟩ := bind_eq_ok_iff.mp hresult
          rw [ih (.tail _ hseen) hthen, hfield.inert hother value set hset]

theorem screens_fromMembers
    (hfields : List.Forall₂ (FieldScreens place forget addresses) fields looseFields)
    (members : List (String × Json)) (seen : List String) (draft : α) :
    Screens forget addresses (fromMembers fields members seen draft)
      (fromMembers looseFields members seen (forget draft)) := by
  induction members generalizing seen draft with
  | nil => exact Screens.ok forget addresses draft
  | cons member members ih =>
      obtain ⟨key, value⟩ := member
      by_cases hvalue : value = .nameless
      · rw [hvalue]
        exact Screens.refused _ _
      rcases find?_of_screens hfields key with
        ⟨hnone, hlooseNone⟩ | ⟨field, looseField, hsome, hlooseSome, hfield, hkey⟩
      · rw [fromMembers_of_none hvalue hnone, fromMembers_of_none hvalue hlooseNone]
        exact ih seen draft
      · rw [fromMembers_of_some hvalue hsome, fromMembers_of_some hvalue hlooseSome]
        split
        · exact Screens.refused _ _
        · refine hfield.screens draft (ih (key :: seen)) ?_
          intro hplace draft result hresult
          refine addresses_fromMembers hfields ?_ hresult
          rw [← hplace, hkey]
          exact List.mem_cons_self

theorem addresses_fromElements
    (hfields : List.Forall₂ (FieldScreens place forget addresses) fields looseFields)
    (hothers : place ∉ fields.map RecordField.key) {dialect : Dialect} {items : List Json}
    {draft result : β} (hresult : fromElements dialect looseFields items draft = .ok result) :
    addresses result = addresses draft := by
  induction hfields generalizing items draft with
  | nil =>
      cases items with
      | nil =>
          cases hresult
          rfl
      | cons value rest =>
          unfold fromElements at hresult
          split at hresult <;> cases hresult
          rfl
  | @cons field looseField fields looseFields hfield _ ih =>
      rw [List.map_cons, List.mem_cons, not_or] at hothers
      cases items with
      | nil =>
          cases hresult
          rfl
      | cons value rest =>
          rw [fromElements] at hresult
          obtain ⟨set, hset, hthen⟩ := bind_eq_ok_iff.mp hresult
          rw [ih hothers.2 hthen, hfield.inert (Ne.symm hothers.1) value set hset]

theorem screens_fromElements
    (hfields : List.Forall₂ (FieldScreens place forget addresses) fields looseFields)
    (hnodup : (fields.map RecordField.key).Nodup) (dialect : Dialect) (items : List Json)
    (draft : α) :
    Screens forget addresses (fromElements dialect fields items draft)
      (fromElements dialect looseFields items (forget draft)) := by
  induction hfields generalizing items draft with
  | nil =>
      cases items with
      | nil => exact Screens.ok forget addresses draft
      | cons value rest =>
          unfold fromElements
          split
          · exact Screens.ok forget addresses draft
          · exact Screens.refused _ _
  | @cons field looseField fields looseFields hfield hfields ih =>
      rw [List.map_cons, List.nodup_cons] at hnodup
      cases items with
      | nil => exact Screens.ok forget addresses draft
      | cons value rest =>
          rw [fromElements, fromElements]
          refine hfield.screens draft (ih hnodup.2 rest) ?_
          intro hplace draft result hresult
          exact addresses_fromElements hfields (hplace ▸ hnodup.1) hresult

theorem screens_asRecord
    (hfields : List.Forall₂ (FieldScreens place forget addresses) fields looseFields)
    (hnodup : (fields.map RecordField.key).Nodup) (dialect : Dialect) (draft : α) (value : Json) :
    Screens forget addresses (value.asRecord dialect fields draft)
      (value.asRecord dialect looseFields (forget draft)) := by
  cases value with
  | object members => exact screens_fromMembers hfields members [] draft
  | array items => exact screens_fromElements hfields hnodup dialect items draft
  | _ => exact Screens.refused _ _

end

/-! Texts. -/

section

variable {forget : α → β} {addresses : β → List String} {decode : Json → Decoded α}
  {looseDecode : Json → Decoded β}

theorem screens_decodeText
    (h : ∀ value, Screens forget addresses (decode value) (looseDecode value)) (text : String) :
    Screens forget addresses (decodeText decode text) (decodeText looseDecode text) :=
  .after _ fun value => (h value).andThen _

theorem screens_decodeWhole
    (h : ∀ value, Screens forget addresses (decode value) (looseDecode value)) (text : String) :
    Screens forget addresses (decodeWhole decode text) (decodeWhole looseDecode text) := by
  refine .after _ fun value => ?_
  split
  · exact (h value).andThen _
  · exact Screens.refused _ _

end

end ConferenceBridge.Json
