import ConferenceBridge.Proofs.Wire.Screening
import ConferenceBridge.Replay.Line

namespace ConferenceBridge

/-! Addresses in the lines of a replay, and what it means that no text with a blank one gets in. -/

open Json (Decoded Dialect RecordField Screens FieldScreens)

namespace Text

theorem allBlank_eq_true_iff {text : String} :
    allBlank text = true ↔ ∀ c ∈ text.toList, isBlank c = true :=
  List.all_eq_true

theorem allBlank_eq_false_iff {text : String} :
    allBlank text = false ↔ ∃ c ∈ text.toList, isBlank c = false := by
  simp [allBlank]

end Text

inductive WrittenAction
  | other (action : LineAction)
  | split (address : String)
  deriving DecidableEq, Repr

inductive WrittenContent
  | event (event : WrittenEvent)
  | action (action : WrittenAction)
  deriving DecidableEq, Repr

structure WrittenLine where
  conference : String
  content : WrittenContent
  deriving DecidableEq, Repr

namespace LineAction

def written : LineAction → WrittenAction
  | split endpoint => .split endpoint.text
  | action => .other action

end LineAction

namespace LineContent

def written : LineContent → WrittenContent
  | event reported => .event reported.written
  | action wanted => .action wanted.written

end LineContent

namespace Line

def written (line : Line) : WrittenLine :=
  ⟨line.conference, line.content.written⟩

end Line

namespace WrittenAction

def addresses : WrittenAction → List String
  | other _ => []
  | split address => [address]

def ofRest : LineAction.Kind → Json → Decoded WrittenAction
  | .split, rest => do
      let address ← rest.asRecord .buffered
        [.of "endpoint" Json.asText fun address _ => some address] none
      return .split (← Json.required address)
  | kind, rest => LineAction.written <$> LineAction.ofRest kind rest

def ofJson (dialect : Dialect) (value : Json) : Decoded WrittenAction := do
  let (kind, rest) ← value.asTagged dialect "typ" LineAction.kinds
  ofRest kind rest

end WrittenAction

namespace WrittenContent

def addresses : WrittenContent → List String
  | event reported => reported.addresses
  | action wanted => wanted.addresses

def ofMembers (members : List (String × Json)) : Decoded WrittenContent :=
  match members.find? fun member => member.1 == "ereignis" || member.1 == "aktion" with
  | none => Json.malformed
  | some (key, value) =>
      if key = "ereignis" then event <$> WrittenEvent.ofJson .buffered value
      else action <$> WrittenAction.ofJson .buffered value

end WrittenContent

namespace WrittenLine

def addresses (line : WrittenLine) : List String :=
  line.content.addresses

def ofJson : Json → Decoded WrittenLine
  | .object members => do
      let conference ← Line.nameOf members
      let content ← WrittenContent.ofMembers members
      return { conference, content }
  | _ => Json.malformed

def parse (text : String) : Decoded (Option WrittenLine) :=
  match Text.trim text.toList with
  | [] | '#' :: _ => .ok none
  | cs => some <$> Json.decodeWhole ofJson (String.ofList cs)

end WrittenLine

namespace LineAction

theorem screens_ofRest (kind : Kind) (rest : Json) :
    Screens written WrittenAction.addresses (ofRest kind rest)
      (WrittenAction.ofRest kind rest) := by
  cases kind with
  | split =>
      have hfields : List.Forall₂ (FieldScreens "endpoint" (Option.map Endpoint.text)
          Option.toList)
          [.of "endpoint" Json.asEndpoint fun endpoint _ => some endpoint]
          [.of "endpoint" Json.asText fun address _ => some address] :=
        .cons (.atPlace _ Json.screens_asEndpoint (fun _ _ => rfl)
          fun _ _ => List.Subset.refl _) .nil
      refine (Json.screens_asRecord hfields (by decide) .buffered none rest).bind
        (fun draft => ?_) ?_
      · cases draft with
        | none => exact .refused _ _
        | some endpoint => exact .ok _ _ (split endpoint)
      · intro draft result hresult
        cases draft with
        | none => cases hresult
        | some address =>
            cases hresult
            exact List.Subset.refl _
  | _ => exact .of_map _ _ _

theorem screens_ofJson (dialect : Dialect) (value : Json) :
    Screens written WrittenAction.addresses (ofJson dialect value)
      (WrittenAction.ofJson dialect value) :=
  .after _ fun (kind, rest) => screens_ofRest kind rest

end LineAction

namespace LineContent

theorem screens_ofMembers (members : List (String × Json)) :
    Screens written WrittenContent.addresses (ofMembers members)
      (WrittenContent.ofMembers members) := by
  unfold ofMembers WrittenContent.ofMembers
  cases members.find? fun member => member.1 == "ereignis" || member.1 == "aktion" with
  | none => exact .refused _ _
  | some member =>
      obtain ⟨key, value⟩ := member
      dsimp only
      split
      · exact (HostEvent.screens_ofJson .buffered value).map (fun _ => rfl)
          fun _ => List.Subset.refl _
      · exact (LineAction.screens_ofJson .buffered value).map (fun _ => rfl)
          fun _ => List.Subset.refl _

end LineContent

namespace Line

theorem screens_ofJson (value : Json) :
    Screens written WrittenLine.addresses (ofJson value) (WrittenLine.ofJson value) := by
  cases value with
  | object members =>
      exact .after _ fun name => (LineContent.screens_ofMembers members).map (fun _ => rfl)
        fun _ => List.Subset.refl _
  | _ => exact .refused _ _

theorem parse_of_written {text : String} (hwritten : Text.trim text.toList ≠ [])
    (hcomment : ∀ rest, Text.trim text.toList ≠ '#' :: rest) :
    parse text = some <$> Json.decodeWhole ofJson (String.ofList (Text.trim text.toList)) ∧
      WrittenLine.parse text =
        some <$> Json.decodeWhole WrittenLine.ofJson (String.ofList (Text.trim text.toList)) := by
  unfold parse WrittenLine.parse
  constructor
  all_goals
    split
    · rename_i hempty
      exact absurd hempty hwritten
    · rename_i hhash
      exact absurd hhash (hcomment _)
    · rfl

theorem screens_parse (text : String) :
    Screens (Option.map written) (fun line => line.elim [] WrittenLine.addresses) (parse text)
      (WrittenLine.parse text) := by
  by_cases hwritten : Text.trim text.toList = []
  · simp only [parse, WrittenLine.parse, hwritten]
    exact .ok _ _ none
  by_cases hcomment : ∃ rest, Text.trim text.toList = '#' :: rest
  · obtain ⟨rest, hhash⟩ := hcomment
    simp only [parse, WrittenLine.parse, hhash]
    exact .ok _ _ none
  · obtain ⟨hstrict, hloose⟩ :=
      parse_of_written hwritten fun rest hhash => hcomment ⟨rest, hhash⟩
    rw [hstrict, hloose]
    exact (Json.screens_decodeWhole screens_ofJson _).map (fun _ => rfl)
      fun _ => List.Subset.refl _

end Line

/-! A text is taken exactly if none of the addresses in it is blank, and then all of them are as
they were written. -/

/-- That a text may be decoded apart from its addresses says the loose decoder. -/
structure Guards {α β : Type} (written : α → β) (addresses : β → List String)
    (decode : String → Decoded α) (looseDecode : String → Decoded β) : Prop where
  kept : ∀ text value, decode text = .ok value → looseDecode text = .ok (written value) ∧
    ∀ address ∈ addresses (written value), ∃ c ∈ address.toList, Text.isBlank c = false
  accepted : ∀ text found, looseDecode text = .ok found →
    (∀ address ∈ addresses found, ∃ c ∈ address.toList, Text.isBlank c = false) →
      ∃ value, decode text = .ok value ∧ written value = found
  refused : ∀ text found, looseDecode text = .ok found →
    (∃ address ∈ addresses found, ∀ c ∈ address.toList, Text.isBlank c = true) →
      ∃ address ∈ addresses found, (∀ c ∈ address.toList, Text.isBlank c = true) ∧
        decode text = .error (.blankEndpoint address)

theorem guards_of_screens {α β : Type} {written : α → β} {addresses : β → List String}
    {decode : String → Decoded α} {looseDecode : String → Decoded β}
    (h : ∀ text, Screens written addresses (decode text) (looseDecode text))
    (hvisible : ∀ value, ∀ address ∈ addresses (written value), Text.allBlank address = false) :
    Guards written addresses decode looseDecode where
  kept := by
    intro text value hvalue
    refine ⟨(h text).kept value hvalue, fun address haddress => ?_⟩
    exact Text.allBlank_eq_false_iff.mp (hvisible value address haddress)
  accepted := by
    intro text found hfound hall
    rcases (h text).screened found hfound with ⟨value, hvalue⟩ | ⟨address, hmem, hblank, -⟩
    · have hkept := (h text).kept value hvalue
      rw [hfound] at hkept
      exact ⟨value, hvalue, (Except.ok.inj hkept).symm⟩
    · rw [Text.allBlank_eq_false_iff.mpr (hall address hmem)] at hblank
      cases hblank
  refused := by
    rintro text found hfound ⟨address, hmem, hblank⟩
    rcases (h text).screened found hfound with ⟨value, hvalue⟩ | ⟨other, hother, hrefused⟩
    · have hkept := (h text).kept value hvalue
      rw [hfound] at hkept
      cases hkept
      have hseen := hvisible value address hmem
      rw [Text.allBlank_eq_true_iff.mpr hblank] at hseen
      cases hseen
    · exact ⟨other, hother, Text.allBlank_eq_true_iff.mp hrefused.1, hrefused.2⟩

theorem Snapshot.guards_decode :
    Guards Snapshot.written WrittenSnapshot.addresses (Json.decodeText (Snapshot.ofJson .direct))
      (Json.decodeText (WrittenSnapshot.ofJson .direct)) := by
  refine guards_of_screens (Json.screens_decodeText (Snapshot.screens_ofJson .direct)) ?_
  intro entry address haddress
  rw [List.mem_singleton.mp haddress]
  exact entry.endpoint.notBlank

theorem HostEvent.allBlank_of_mem_addresses {event : HostEvent} {address : String}
    (h : address ∈ event.written.addresses) : Text.allBlank address = false := by
  cases event with
  | participantsChanged entries =>
      obtain ⟨_, hentry, haddress⟩ := List.mem_flatMap.mp h
      obtain ⟨entry, -, rfl⟩ := List.mem_map.mp hentry
      rw [List.mem_singleton.mp haddress]
      exact entry.endpoint.notBlank
  | _ => cases h

theorem HostEvent.guards_decode :
    Guards HostEvent.written WrittenEvent.addresses
      (Json.decodeWhole (HostEvent.ofJson .direct))
      (Json.decodeWhole (WrittenEvent.ofJson .direct)) :=
  guards_of_screens (Json.screens_decodeWhole (HostEvent.screens_ofJson .direct))
    fun _ _ => HostEvent.allBlank_of_mem_addresses

theorem ConferenceEvent.guards_decode :
    Guards ConferenceEvent.written WrittenTelling.addresses (Json.decodeText ConferenceEvent.ofJson)
      (Json.decodeText WrittenTelling.ofJson) := by
  refine guards_of_screens (Json.screens_decodeText ConferenceEvent.screens_ofJson) ?_
  rintro ⟨conference, change⟩ address haddress
  cases change with
  | participantAdded endpoint | participantState endpoint _ _
  | participantDisconnected endpoint _ | participantRemoved endpoint =>
      rw [List.mem_singleton.mp haddress]
      exact endpoint.notBlank
  | _ => cases haddress

theorem Line.guards_parse :
    Guards (Option.map Line.written) (fun line => line.elim [] WrittenLine.addresses) Line.parse
      WrittenLine.parse := by
  refine guards_of_screens Line.screens_parse ?_
  rintro (_ | ⟨conference, event | action⟩) address haddress
  · cases haddress
  · exact HostEvent.allBlank_of_mem_addresses haddress
  · cases action with
    | command command => cases haddress
    | split endpoint =>
        rw [List.mem_singleton.mp haddress]
        exact endpoint.notBlank

end ConferenceBridge
