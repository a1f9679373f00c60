import ConferenceBridge.Proofs.Json.RoundTrip
import ConferenceBridge.Wire.Event

namespace ConferenceBridge

/-! What the host reports and what a conference tells, written as JSON and decoded again. -/

open Json (Decoded Dialect RecordField Writable)

namespace Json

variable {α β : Type}

theorem asInt_ofInt (value : Int) : (ofInt value).asInt = .ok value := by
  simp [asInt, ofInt]

theorem asIntBetween_ofInt {low high value : Int} (h : low ≤ value ∧ value ≤ high) :
    (ofInt value).asIntBetween low high = .ok value := by
  simp [asIntBetween, asInt_ofInt, bind, Except.bind, h]

theorem asInt32_ofInt (value : Int32) : (ofInt value.toInt).asInt32 = .ok value := by
  rw [asInt32, asIntBetween_ofInt ⟨value.minValue_le_toInt, value.toInt_le⟩]
  simp [Functor.map, Except.map]

theorem asUInt32_ofNat (value : UInt32) : (ofNat value.toNat).asUInt32 = .ok value := by
  have hsize := value.toNat_lt_size
  rw [asUInt32, ofNat, asIntBetween_ofInt ⟨by omega, by omega⟩]
  simp [Functor.map, Except.map]

theorem asChar_toString (c : Char) : (text c.toString).asChar = .ok c := by
  simp [asChar]

theorem mapM_map {encode : α → Json} {decode : Json → Decoded α}
    (h : ∀ part, decode (encode part) = .ok part) (parts : List α) :
    (parts.map encode).mapM decode = .ok parts := by
  induction parts with
  | nil => rfl
  | cons part parts ih =>
      rw [List.map_cons, List.mapM_cons, h, ih]
      rfl

theorem writable_ofInt (room : Nat) {value : Int} (h : value.natAbs < UInt64.size) :
    Writable room (ofInt value) := by
  cases value with
  | ofNat magnitude => exact .whole room false h
  | negSucc magnitude => exact .whole room true h

theorem fromMembers_field (fields : List (RecordField α)) {key : String}
    {decode : Json → Decoded β} {set : β → α → α} {seen : List String} {value : Json} {part : β}
    (hfield : fields.find? (fun field => field.key == key) = some (.of key decode set))
    (hseen : key ∉ seen) (hvalue : value ≠ .nameless) (hdecode : decode value = .ok part)
    (rest : List (String × Json)) (draft : α) :
    fromMembers fields ((key, value) :: rest) seen draft =
      fromMembers fields rest (key :: seen) (set part draft) := by
  rw [fromMembers]
  · simp only [hfield, if_neg hseen, RecordField.of, hdecode]
    rfl
  · exact hvalue

theorem asTagged_object (dialect : Dialect) {key name : String} {tags : List (String × α)} {tag : α}
    (htag : tags.lookup name = some tag) {members : List (String × Json)}
    (hkey : ∀ member ∈ members, member.1 ≠ key) :
    asTagged dialect key tags (.object ((key, .text name) :: members)) =
      .ok (tag, .object members) := by
  have hnone : members.filter (fun member => member.1 == key) = [] := by
    simpa [List.filter_eq_nil_iff] using hkey
  have hall : members.filter (fun member => member.1 != key) = members := by
    simpa [List.filter_eq_self] using hkey
  simp [asTagged, asTag, lookup, hnone, hall, htag, bind, Except.bind]

end Json

namespace ConferenceId

theorem ofHyphenated?_groups {a b c d e : List Char} (ha : a.length = 8) (hb : b.length = 4)
    (hc : c.length = 4) (hd : d.length = 4) (he : e.length = 12) :
    ofHyphenated? (a ++ '-' :: b ++ '-' :: c ++ '-' :: d ++ '-' :: e) =
      ofSimple? (a ++ b ++ c ++ d ++ e) := by
  rw [ofHyphenated?, if_pos]
  · simp (disch := omega) [List.drop_append, List.drop_of_length_le, ha, hb, hc, hd]
  · simp [List.getElem?_append, ha, hb, hc, hd, he]

theorem ofHexDigit?_hexDigit (digit : Fin 16) : ofHexDigit? (hexDigit digit) = some digit := by
  decide +revert

theorem ofSimple?_hexDigits (id : ConferenceId) : ofSimple? (id.digits.map hexDigit) = some id := by
  have hdigits : (id.digits.map hexDigit).mapM ofHexDigit? = some id.digits := by
    induction id.digits with
    | nil => rfl
    | cons digit digits ih => simp [ofHexDigit?_hexDigit, ih]
  simp [ofSimple?, hdigits, ofDigits?, id.length_digits]

theorem ofHyphenated?_hyphenated (id : ConferenceId) :
    ofHyphenated? id.hyphenated = some id := by
  have hlength : (id.digits.map hexDigit).length = 32 := by simp [id.length_digits]
  rw [← ofSimple?_hexDigits id, hyphenated]
  generalize id.digits.map hexDigit = cs at *
  rw [ofHyphenated?_groups]
  · congr 1
    have h₁ := List.take_append_drop 4 (cs.drop 8)
    have h₂ := List.take_append_drop 4 (cs.drop 12)
    have h₃ := List.take_append_drop 4 (cs.drop 16)
    simp only [List.drop_drop] at h₁ h₂ h₃
    simp [h₁, h₂, h₃]
  all_goals simp [hlength]

theorem length_hyphenated (id : ConferenceId) : id.hyphenated.length = 36 := by
  simp [hyphenated, id.length_digits]

theorem hexDigit_plain (digit : Fin 16) :
    (hexDigit digit).toLower ≠ 'u' ∧ hexDigit digit ≠ '\x7b' := by
  decide +revert

theorem hyphenated_eq_cons (id : ConferenceId) :
    ∃ digit rest, id.hyphenated = hexDigit digit :: rest := by
  have hlength := id.length_digits
  rw [hyphenated]
  generalize id.digits = digits at hlength ⊢
  cases digits with
  | nil => cases hlength
  | cons digit digits => exact ⟨digit, _, rfl⟩

theorem ofUuid?_uuid (id : ConferenceId) : ofUuid? id.uuid = some id := by
  obtain ⟨digit, rest, hcs⟩ := hyphenated_eq_cons id
  have hlength := length_hyphenated id
  have hread := ofHyphenated?_hyphenated id
  have hplain := hexDigit_plain digit
  rw [hcs] at hlength hread
  simp only [ofUuid?, uuid, String.toList_ofList, hcs]
  rw [if_neg]
  · split
    · next heq => exact absurd (List.cons.inj heq).1 hplain.2
    · rw [if_neg (by omega), hread]
  · intro hurn
    exact hplain.1 (List.cons.inj hurn).1

theorem ofJson_toJson (id : ConferenceId) : ofJson id.toJson = .ok id := by
  simp [ofJson, toJson, Json.asText, bind, Except.bind, ofUuid?_uuid, Json.required]

end ConferenceId

namespace Capabilities

theorem ofJson_toJson (mask : Capabilities) : ofJson mask.toJson = .ok mask := by
  rw [ofJson, toJson, Json.asUInt32_ofNat]
  rfl

theorem writable_toJson (room : Nat) (mask : Capabilities) : Writable room mask.toJson :=
  .whole room false (Nat.lt_trans mask.bits.toNat_lt_size (by decide))

end Capabilities

namespace Snapshot

theorem writable_of_mem_optionalMember (room : Nat) {key : String} {text : Option String}
    {member : String × Json} (h : member ∈ optionalMember key text) : Writable room member.2 := by
  cases text with
  | none => cases h
  | some text =>
      obtain rfl := List.mem_singleton.mp h
      exact .text room text

theorem ofJson_toJson (dialect : Dialect) (snapshot : Snapshot) :
    ofJson dialect snapshot.toJson = .ok snapshot := by
  obtain ⟨endpoint, state, displayName, userUri⟩ := snapshot
  simp only [toJson, ofJson, Json.asRecord, List.cons_append, List.nil_append]
  rw [Json.fromMembers_field _ rfl (by decide) (by simp) (Json.asEndpoint_text endpoint),
    Json.fromMembers_field _ rfl (by decide) (by simp [ConnectionState.toJson])
      (ConnectionState.ofJson_toJson dialect state)]
  cases displayName <;> cases userUri <;> rfl

theorem writable_toJson (room : Nat) (snapshot : Snapshot) :
    Writable (room + 1) snapshot.toJson := by
  refine .object fun member hmember => ?_
  simp only [List.cons_append, List.nil_append, List.mem_cons, List.mem_append] at hmember
  rcases hmember with rfl | rfl | hname | huri
  · exact .text room _
  · exact .text room _
  · exact writable_of_mem_optionalMember room hname
  · exact writable_of_mem_optionalMember room huri

end Snapshot

namespace HostEvent

theorem exists_kind (event : HostEvent) :
    ∃ kind, kinds.lookup event.name = some kind ∧
      ofRest kind (.object (toJson.rest event)) = .ok event := by
  cases event with
  | stateChanged code =>
      refine ⟨_, rfl, ?_⟩
      simp only [ofRest, toJson.rest, Json.asRecord]
      rw [Json.fromMembers_field _ rfl (by decide) (by simp [Json.ofInt]) (Json.asInt32_ofInt code)]
      rfl
  | disconnected cause =>
      refine ⟨_, rfl, ?_⟩
      simp only [ofRest, toJson.rest, Json.asRecord]
      rw [Json.fromMembers_field _ rfl (by decide) (by simp [SignallingCause.toJson])
        (SignallingCause.ofJson_toJson .buffered cause)]
      rfl
  | destroyed => exact ⟨_, rfl, rfl⟩
  | participantsChanged participants =>
      refine ⟨_, rfl, ?_⟩
      simp only [ofRest, toJson.rest, Json.asRecord]
      rw [Json.fromMembers_field _ rfl (by decide) (by simp)
        (Json.mapM_map (Snapshot.ofJson_toJson .buffered) participants)]
      rfl

theorem ofJson_toJson (dialect : Dialect) (event : HostEvent) :
    ofJson dialect event.toJson = .ok event := by
  obtain ⟨kind, hkind, hrest⟩ := exists_kind event
  have htyp : ∀ member ∈ toJson.rest event, member.1 ≠ "typ" := by
    cases event <;> simp [toJson.rest]
  rw [ofJson, toJson, Json.asTagged_object dialect hkind htyp]
  exact hrest

theorem writable_toJson (room : Nat) (event : HostEvent) : Writable (room + 3) event.toJson := by
  refine .object (List.forall_mem_cons.mpr ⟨.text _ _, ?_⟩)
  cases event with
  | stateChanged code =>
      have hlow := code.minValue_le_toInt
      have hhigh := code.toInt_le
      have hleast : Int32.minValue.toInt = -2 ^ 31 := by decide
      have hgreatest : Int32.maxValue.toInt = 2 ^ 31 - 1 := by decide
      have hlarge : 2 ^ 31 < UInt64.size := by decide
      exact List.forall_mem_singleton.mpr (Json.writable_ofInt _ (by omega))
  | disconnected cause => exact List.forall_mem_singleton.mpr (.text _ _)
  | destroyed => simp [toJson.rest]
  | participantsChanged participants =>
      refine List.forall_mem_singleton.mpr (.array ?_)
      exact List.forall_mem_map.mpr fun snapshot _ => snapshot.writable_toJson room

end HostEvent

namespace ConferenceEvent

theorem exists_kind (id : ConferenceId) (change : Change) :
    ∃ kind, Json.lookup kinds change.name = .ok kind ∧
      ∃ draft : Draft, draft.conference = some id ∧ kind.change draft = .ok change ∧
        Json.fromMembers (conferenceField :: kind.fields) change.details ["konferenz_id"]
          { conference := some id } = .ok draft := by
  cases change with
  | participantAdded endpoint | participantRemoved endpoint =>
      refine ⟨_, rfl, { conference := some id, endpoint := some endpoint }, rfl, rfl, ?_⟩
      rw [Change.details,
        Json.fromMembers_field _ rfl (by decide) (by simp) (Json.asEndpoint_text endpoint)]
      rfl
  | participantState endpoint previous next =>
      refine ⟨_, rfl,
        { conference := some id, endpoint := some endpoint, previous := some previous,
          next := some next }, rfl, rfl, ?_⟩
      rw [Change.details,
        Json.fromMembers_field _ rfl (by decide) (by simp) (Json.asEndpoint_text endpoint),
        Json.fromMembers_field _ rfl (by decide) (by simp [ConnectionState.toJson])
          (ConnectionState.ofJson_toJson .direct previous),
        Json.fromMembers_field _ rfl (by decide) (by simp [ConnectionState.toJson])
          (ConnectionState.ofJson_toJson .direct next)]
      rfl
  | participantDisconnected endpoint cause =>
      refine ⟨_, rfl, { conference := some id, endpoint := some endpoint, cause := some cause },
        rfl, rfl, ?_⟩
      rw [Change.details,
        Json.fromMembers_field _ rfl (by decide) (by simp) (Json.asEndpoint_text endpoint),
        Json.fromMembers_field _ rfl (by decide) (by simp [DisconnectCause.toJson])
          (DisconnectCause.ofJson_toJson .direct cause)]
      rfl
  | capabilities mask =>
      refine ⟨_, rfl, { conference := some id, mask := some mask }, rfl, rfl, ?_⟩
      rw [Change.details,
        Json.fromMembers_field _ rfl (by decide)
          (by simp [Capabilities.toJson, Json.ofNat, Json.ofInt]) (Capabilities.ofJson_toJson mask)]
      rfl
  | state previous next =>
      refine ⟨_, rfl, { conference := some id, previous := some previous, next := some next },
        rfl, rfl, ?_⟩
      rw [Change.details,
        Json.fromMembers_field _ rfl (by decide) (by simp [ConnectionState.toJson])
          (ConnectionState.ofJson_toJson .direct previous),
        Json.fromMembers_field _ rfl (by decide) (by simp [ConnectionState.toJson])
          (ConnectionState.ofJson_toJson .direct next)]
      rfl
  | destroyed => exact ⟨_, rfl, { conference := some id }, rfl, rfl, rfl⟩

theorem ofJson_toJson (event : ConferenceEvent) : ofJson event.toJson = .ok event := by
  obtain ⟨id, change⟩ := event
  obtain ⟨kind, hkind, draft, hid, hchange, hdraft⟩ := exists_kind id change
  simp only [ofJson, toJson, hkind, bind, Except.bind, Json.asRecord]
  rw [Json.fromMembers_field _ rfl (by decide) (by simp [ConferenceId.toJson])
    (ConferenceId.ofJson_toJson id), hdraft]
  simp only [hid, hchange]
  rfl

theorem writable_toJson (room : Nat) (event : ConferenceEvent) :
    Writable (room + 2) event.toJson := by
  refine .object (List.forall_mem_singleton.mpr (.object ?_))
  refine List.forall_mem_cons.mpr ⟨.text _ _, ?_⟩
  cases event.change <;>
    simp [Change.details, ConnectionState.toJson, DisconnectCause.toJson,
      Capabilities.writable_toJson]

end ConferenceEvent

end ConferenceBridge
