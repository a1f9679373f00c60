import ConferenceBridge.Proofs.Json.Screening
import ConferenceBridge.Wire.Event

namespace ConferenceBridge

/-! What was written in a text, before anyone looked at the addresses: these may be blank. All else
is decoded as usual. -/

open Json (Decoded Dialect RecordField Screens FieldScreens)

structure WrittenSnapshot where
  address : String
  state : ConnectionState
  displayName : Option String
  userUri : Option String
  deriving DecidableEq, Repr

namespace WrittenSnapshot

def addresses (entry : WrittenSnapshot) : List String :=
  [entry.address]

structure Draft where
  address : Option String := none
  state : Option ConnectionState := none
  displayName : Option String := none
  userUri : Option String := none

def Draft.addresses (draft : Draft) : List String :=
  draft.address.toList

def fields (dialect : Dialect) : List (RecordField Draft) :=
  [.of "endpoint" Json.asText fun address draft => { draft with address := some address },
    .of "zustand" (ConnectionState.ofJson dialect) fun state draft =>
      { draft with state := some state },
    .of "anzeigename" Json.asOptionalText fun displayName draft => { draft with displayName },
    .of "benutzer_uri" Json.asOptionalText fun userUri draft => { draft with userUri }]

def ofJson (dialect : Dialect) (value : Json) : Decoded WrittenSnapshot := do
  let draft ← value.asRecord dialect (fields dialect) {}
  let address ← Json.required draft.address
  let state ← Json.required draft.state
  return { address, state, displayName := draft.displayName, userUri := draft.userUri }

end WrittenSnapshot

namespace Snapshot

def written (entry : Snapshot) : WrittenSnapshot where
  address := entry.endpoint.text
  state := entry.state
  displayName := entry.displayName
  userUri := entry.userUri

def Draft.written (draft : Draft) : WrittenSnapshot.Draft where
  address := draft.endpoint.map Endpoint.text
  state := draft.state
  displayName := draft.displayName
  userUri := draft.userUri

theorem screens_fields (dialect : Dialect) :
    List.Forall₂ (FieldScreens "endpoint" Draft.written WrittenSnapshot.Draft.addresses)
      (fields dialect) (WrittenSnapshot.fields dialect) := by
  refine .cons (.atPlace _ Json.screens_asEndpoint (fun _ _ => rfl) ?_) <|
    .cons (.plain _ _ (fun _ _ => rfl) fun _ _ => rfl) <|
      .cons (.plain _ _ (fun _ _ => rfl) fun _ _ => rfl) <|
        .cons (.plain _ _ (fun _ _ => rfl) fun _ _ => rfl) .nil
  exact fun part draft => List.Subset.refl _

theorem screens_ofJson (dialect : Dialect) (value : Json) :
    Screens written WrittenSnapshot.addresses (ofJson dialect value)
      (WrittenSnapshot.ofJson dialect value) := by
  have hkeys : (fields dialect).map RecordField.key =
      ["endpoint", "zustand", "anzeigename", "benutzer_uri"] := rfl
  have hnodup : ((fields dialect).map RecordField.key).Nodup := by
    rw [hkeys]
    decide
  refine (Json.screens_asRecord (screens_fields dialect) hnodup dialect {} value).bind
    (fun draft => ?_) ?_
  · obtain ⟨endpoint, state, displayName, userUri⟩ := draft
    cases endpoint with
    | none => exact .refused _ _
    | some endpoint =>
        cases state with
        | none => exact .refused _ _
        | some state => exact .ok _ _ (⟨endpoint, state, displayName, userUri⟩ : Snapshot)
  · rintro ⟨address, state, displayName, userUri⟩ result hresult
    cases address with
    | none => cases hresult
    | some address =>
        cases state with
        | none => cases hresult
        | some state =>
            cases hresult
            exact List.Subset.refl _

end Snapshot

inductive WrittenEvent
  | other (event : HostEvent)
  | listing (entries : List WrittenSnapshot)
  deriving DecidableEq, Repr

namespace HostEvent

def written : HostEvent → WrittenEvent
  | participantsChanged entries => .listing (entries.map Snapshot.written)
  | event => .other event

end HostEvent

namespace WrittenEvent

def addresses : WrittenEvent → List String
  | other _ => []
  | listing entries => entries.flatMap WrittenSnapshot.addresses

def ofRest : HostEvent.Kind → Json → Decoded WrittenEvent
  | .participantsChanged, rest => do
      let entries ← rest.asRecord .buffered
        [.of "teilnehmer" (Json.asList (WrittenSnapshot.ofJson .buffered))
          fun entries _ => some entries] none
      listing <$> Json.required entries
  | kind, rest => HostEvent.written <$> HostEvent.ofRest kind rest

def ofJson (dialect : Dialect) (value : Json) : Decoded WrittenEvent := do
  let (kind, rest) ← value.asTagged dialect "typ" HostEvent.kinds
  ofRest kind rest

end WrittenEvent

namespace HostEvent

theorem screens_ofRest (kind : Kind) (rest : Json) :
    Screens written WrittenEvent.addresses (ofRest kind rest) (WrittenEvent.ofRest kind rest) := by
  cases kind with
  | participantsChanged =>
      let listed (entries : Option (List WrittenSnapshot)) : List String :=
        entries.toList.flatMap (List.flatMap WrittenSnapshot.addresses)
      have hfields : List.Forall₂ (FieldScreens "teilnehmer"
          (Option.map (List.map Snapshot.written)) listed)
          [.of "teilnehmer" (Json.asList (Snapshot.ofJson .buffered))
            fun participants _ => some participants]
          [.of "teilnehmer" (Json.asList (WrittenSnapshot.ofJson .buffered))
            fun entries _ => some entries] := by
        refine .cons (.atPlace _ (Json.screens_asList (Snapshot.screens_ofJson .buffered))
          (fun _ _ => rfl) fun entries draft => ?_) .nil
        simp [listed]
      refine (Json.screens_asRecord hfields (by decide) .buffered none rest).bind
        (fun draft => ?_) ?_
      · cases draft with
        | none => exact .refused _ _
        | some entries => exact .ok _ _ (participantsChanged entries)
      · intro draft result hresult
        cases draft with
        | none => cases hresult
        | some entries =>
            cases hresult
            simp [listed, WrittenEvent.addresses]
  | _ => exact .of_map _ _ _

theorem screens_ofJson (dialect : Dialect) (value : Json) :
    Screens written WrittenEvent.addresses (ofJson dialect value)
      (WrittenEvent.ofJson dialect value) :=
  .after _ fun (kind, rest) => screens_ofRest kind rest

end HostEvent

inductive WrittenChange
  | participantAdded (address : String)
  | participantState (address : String) (previous next : ConnectionState)
  | participantDisconnected (address : String) (cause : DisconnectCause)
  | participantRemoved (address : String)
  | other (change : Change)
  deriving DecidableEq, Repr

structure WrittenTelling where
  conference : ConferenceId
  change : WrittenChange
  deriving DecidableEq, Repr

namespace Change

def written : Change → WrittenChange
  | participantAdded endpoint => .participantAdded endpoint.text
  | participantState endpoint previous next => .participantState endpoint.text previous next
  | participantDisconnected endpoint cause => .participantDisconnected endpoint.text cause
  | participantRemoved endpoint => .participantRemoved endpoint.text
  | change => .other change

end Change

namespace ConferenceEvent

def written (event : ConferenceEvent) : WrittenTelling :=
  ⟨event.conference, event.change.written⟩

end ConferenceEvent

namespace WrittenChange

def addresses : WrittenChange → List String
  | participantAdded address | participantState address _ _ | participantDisconnected address _
  | participantRemoved address => [address]
  | other _ => []

end WrittenChange

namespace WrittenTelling

def addresses (telling : WrittenTelling) : List String :=
  telling.change.addresses

structure Draft where
  conference : Option ConferenceId := none
  address : Option String := none
  previous : Option ConnectionState := none
  next : Option ConnectionState := none
  cause : Option DisconnectCause := none

def Draft.addresses (draft : Draft) : List String :=
  draft.address.toList

def conferenceField : RecordField Draft :=
  .of "konferenz_id" ConferenceId.ofJson fun id draft => { draft with conference := some id }

def addressField : RecordField Draft :=
  .of "endpoint" Json.asText fun address draft => { draft with address := some address }

def previousField : RecordField Draft :=
  .of "alt" (ConnectionState.ofJson .direct) fun state draft =>
    { draft with previous := some state }

def nextField : RecordField Draft :=
  .of "neu" (ConnectionState.ofJson .direct) fun state draft =>
    { draft with next := some state }

def causeField : RecordField Draft :=
  .of "grund" (DisconnectCause.ofJson .direct) fun cause draft => { draft with cause := some cause }

structure Kind where
  fields : List (RecordField Draft)
  change : Draft → Decoded WrittenChange

def kinds : List (String × Kind) :=
  [("TeilnehmerHinzugefuegt",
      ⟨[addressField], fun draft => .participantAdded <$> Json.required draft.address⟩),
    ("TeilnehmerZustandGeaendert",
      ⟨[addressField, previousField, nextField], fun draft =>
        return .participantState (← Json.required draft.address)
          (← Json.required draft.previous) (← Json.required draft.next)⟩),
    ("TeilnehmerGetrennt",
      ⟨[addressField, causeField], fun draft =>
        return .participantDisconnected (← Json.required draft.address)
          (← Json.required draft.cause)⟩),
    ("TeilnehmerEntfernt",
      ⟨[addressField], fun draft => .participantRemoved <$> Json.required draft.address⟩)]

def ofKind (kind : Kind) (content : Json) (others : List (String × Json)) :
    Decoded WrittenTelling := do
  let draft ← content.asRecord .direct (conferenceField :: kind.fields) {}
  let conference ← Json.required draft.conference
  let change ← kind.change draft
  if others.isEmpty then return { conference, change } else Json.malformed

def ofJson : Json → Decoded WrittenTelling
  | .object ((name, content) :: others) =>
      match kinds.lookup name with
      | some kind => ofKind kind content others
      | none =>
          ConferenceEvent.written <$> ConferenceEvent.ofJson (.object ((name, content) :: others))
  | _ => Json.malformed

end WrittenTelling

namespace ConferenceEvent

def Draft.written (draft : Draft) : WrittenTelling.Draft where
  conference := draft.conference
  address := draft.endpoint.map Endpoint.text
  previous := draft.previous
  next := draft.next
  cause := draft.cause

structure KindScreens (kind : Kind) (looseKind : WrittenTelling.Kind) : Prop where
  fields : List.Forall₂
    (FieldScreens "endpoint" Draft.written WrittenTelling.Draft.addresses)
    kind.fields looseKind.fields
  nodup : ((conferenceField :: kind.fields).map RecordField.key).Nodup
  change : ∀ draft, looseKind.change (Draft.written draft) = Change.written <$> kind.change draft
  holds : ∀ draft change, looseKind.change draft = .ok change →
    draft.addresses ⊆ change.addresses

theorem screens_endpointField :
    FieldScreens "endpoint" Draft.written WrittenTelling.Draft.addresses endpointField
      WrittenTelling.addressField :=
  .atPlace _ Json.screens_asEndpoint (fun _ _ => rfl) fun _ _ => List.Subset.refl _

theorem kindScreens_alone {change : Endpoint → Change} {looseChange : String → WrittenChange}
    (hwritten : ∀ endpoint, looseChange endpoint.text = (change endpoint).written)
    (haddresses : ∀ address, (looseChange address).addresses = [address]) :
    KindScreens ⟨[endpointField], fun draft => change <$> Json.required draft.endpoint⟩
      ⟨[WrittenTelling.addressField],
        fun draft => looseChange <$> Json.required draft.address⟩ where
  fields := .cons screens_endpointField .nil
  nodup := by
    change ["konferenz_id", "endpoint"].Nodup
    decide
  change := by
    rintro ⟨_, _ | endpoint⟩
    · rfl
    · exact congrArg Except.ok (hwritten endpoint)
  holds := by
    rintro ⟨_, _ | address⟩ result hresult
    · cases hresult
    · cases hresult
      rw [haddresses]
      exact List.Subset.refl _

theorem exists_kindScreens {name : String} {looseKind : WrittenTelling.Kind}
    (h : WrittenTelling.kinds.lookup name = some looseKind) :
    ∃ kind, kinds.lookup name = some kind ∧ KindScreens kind looseKind := by
  unfold WrittenTelling.kinds at h
  simp only [List.lookup_cons, List.lookup_nil] at h
  repeat' split at h
  all_goals cases h
  all_goals
    rename_i hname
    refine ⟨_, by rw [eq_of_beq hname]; rfl, ?_⟩
  · exact kindScreens_alone (fun _ => rfl) fun _ => rfl
  · refine ⟨.cons screens_endpointField <| .cons (.plain _ _ (fun _ _ => rfl) fun _ _ => rfl) <|
      .cons (.plain _ _ (fun _ _ => rfl) fun _ _ => rfl) .nil, by decide, ?_, ?_⟩
    · rintro ⟨_, _ | endpoint, _ | previous, _ | next⟩ <;> rfl
    · rintro ⟨_, _ | address, _ | previous, _ | next⟩ result hresult <;> cases hresult
      exact List.Subset.refl _
  · refine ⟨.cons screens_endpointField <| .cons (.plain _ _ (fun _ _ => rfl) fun _ _ => rfl) .nil,
      by decide, ?_, ?_⟩
    · rintro ⟨_, _ | endpoint, _, _, _ | cause⟩ <;> rfl
    · rintro ⟨_, _ | address, _, _, _ | cause⟩ result hresult <;> cases hresult
      exact List.Subset.refl _
  · exact kindScreens_alone (fun _ => rfl) fun _ => rfl

theorem screens_ofKind {kind : Kind} {looseKind : WrittenTelling.Kind}
    (h : KindScreens kind looseKind) (content : Json) (others : List (String × Json)) :
    Screens written WrittenTelling.addresses
      (do
        let draft ← content.asRecord .direct (conferenceField :: kind.fields) {}
        let conference ← Json.required draft.conference
        let change ← kind.change draft
        if others.isEmpty then return { conference, change } else Json.malformed)
      (WrittenTelling.ofKind looseKind content others) := by
  have hfields := List.Forall₂.cons (.plain "endpoint" "konferenz_id" (fun _ _ => rfl)
    fun _ _ => rfl : FieldScreens "endpoint" Draft.written WrittenTelling.Draft.addresses
      conferenceField WrittenTelling.conferenceField) h.fields
  refine (Json.screens_asRecord hfields h.nodup .direct {} content).bind (fun draft => ?_) ?_
  · have hconference : (Draft.written draft).conference = draft.conference := rfl
    rw [hconference]
    refine .after _ fun conference => ?_
    rw [h.change]
    cases kind.change draft with
    | error fault => exact .of_map _ _ (.error fault)
    | ok change =>
        split
        · exact .ok _ _ (⟨conference, change⟩ : ConferenceEvent)
        · exact .refused _ _
  · intro draft result hresult
    obtain ⟨conference, -, hrest⟩ := Json.bind_eq_ok_iff.mp hresult
    obtain ⟨change, hchange, hrest⟩ := Json.bind_eq_ok_iff.mp hrest
    split at hrest
    · cases hrest
      exact h.holds draft change hchange
    · cases hrest

theorem screens_ofJson (value : Json) :
    Screens written WrittenTelling.addresses (ofJson value) (WrittenTelling.ofJson value) := by
  cases value with
  | object members =>
      cases members with
      | nil => exact .refused _ _
      | cons member others =>
          obtain ⟨name, content⟩ := member
          rw [WrittenTelling.ofJson]
          cases hloose : WrittenTelling.kinds.lookup name with
          | none => exact .of_map _ _ _
          | some looseKind =>
              obtain ⟨kind, hkind, hscreens⟩ := exists_kindScreens hloose
              have hlookup : Json.lookup kinds name = .ok kind := by
                rw [Json.lookup, hkind]
                rfl
              rw [ofJson, hlookup]
              exact screens_ofKind hscreens content others
  | _ => exact .refused _ _

end ConferenceEvent

end ConferenceBridge
