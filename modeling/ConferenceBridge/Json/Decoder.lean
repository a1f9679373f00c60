import ConferenceBridge.Json.Reader

namespace ConferenceBridge.Json

/-! From JSON values to values of other types. Parts are decoded in the order in which they are
written, and the first fault is the one reported. -/

inductive Fault
  | malformed
  | unknownName (name : String)
  | blankEndpoint (text : String)
  deriving DecidableEq, Repr

abbrev Decoded := Except Fault

def malformed : Decoded α :=
  .error .malformed

/-- What is accepted besides the usual forms. -/
structure Dialect where
  numberedTags : Bool
  /-- What may stand for the content of a constant that is written as an object. -/
  emptyContent : Json → Bool
  surplusElements : Bool

namespace Dialect

def direct : Dialect where
  numberedTags := false
  emptyContent
    | .null => true
    | _ => false
  surplusElements := false

/-- For values below a tagged object, which is read as a whole before its tag is known. -/
def buffered : Dialect where
  numberedTags := true
  emptyContent
    | .null | .object [] => true
    | _ => false
  surplusElements := false

def table : Dialect where
  numberedTags := false
  emptyContent
    | .object [] | .array [] => true
    | _ => false
  surplusElements := true

end Dialect

def asText : Json → Decoded String
  | .text value => .ok value
  | _ => malformed

def asOptionalText : Json → Decoded (Option String)
  | .null => .ok none
  | value => some <$> value.asText

def asChar : Json → Decoded Char
  | .text value =>
      match value.toList with
      | [c] => .ok c
      | _ => malformed
  | _ => malformed

def asInt : Json → Decoded Int
  | .number numeral => numeral.int?.elim malformed .ok
  | _ => malformed

def asIntBetween (low high : Int) (value : Json) : Decoded Int := do
  let value ← value.asInt
  if low ≤ value ∧ value ≤ high then .ok value else malformed

def asInt32 (value : Json) : Decoded Int32 :=
  Int32.ofInt <$> value.asIntBetween Int32.minValue.toInt Int32.maxValue.toInt

def asUInt32 (value : Json) : Decoded UInt32 :=
  (fun value => UInt32.ofNat value.toNat) <$> value.asIntBetween 0 (UInt32.size - 1)

def asUInt64 (value : Json) : Decoded UInt64 :=
  (fun value => UInt64.ofNat value.toNat) <$> value.asIntBetween 0 (UInt64.size - 1)

def asList (decode : Json → Decoded α) : Json → Decoded (List α)
  | .array items => items.mapM decode
  | _ => malformed

/-! Constants, records and tagged values. -/

def lookup (names : List (String × α)) (name : String) : Decoded α :=
  (names.lookup name).elim (.error (.unknownName name)) .ok

def asConstant (dialect : Dialect) (names : List (String × α)) : Json → Decoded α
  | .text name => lookup names name
  | .object [(name, content)] => do
      let value ← lookup names name
      if dialect.emptyContent content then .ok value else malformed
  | _ => malformed

structure RecordField (α : Type) where
  key : String
  decode : Json → Decoded (α → α)

def RecordField.of (key : String) (decode : Json → Decoded β) (set : β → α → α) :
    RecordField α where
  key := key
  decode value := set <$> decode value

/-- Keys that are no field are passed over; a field given twice is refused, and so is a key that
stands for no characters. -/
def fromMembers (fields : List (RecordField α)) :
    List (String × Json) → List String → α → Decoded α
  | [], _, draft => .ok draft
  | (_, .nameless) :: _, _, _ => malformed
  | (key, value) :: rest, seen, draft =>
      match fields.find? fun field => field.key == key with
      | none => fromMembers fields rest seen draft
      | some field =>
          if key ∈ seen then malformed
          else do
            let set ← field.decode value
            fromMembers fields rest (key :: seen) (set draft)

def fromElements (dialect : Dialect) : List (RecordField α) → List Json → α → Decoded α
  | _, [], draft => .ok draft
  | [], _ :: _, draft => if dialect.surplusElements then .ok draft else malformed
  | field :: fields, value :: rest, draft => do
      let set ← field.decode value
      fromElements dialect fields rest (set draft)

def asRecord (dialect : Dialect) (fields : List (RecordField α)) (draft : α) : Json → Decoded α
  | .object members => fromMembers fields members [] draft
  | .array items => fromElements dialect fields items draft
  | _ => malformed

def required (value : Option α) : Decoded α :=
  value.elim malformed .ok

def asTag (dialect : Dialect) (tags : List (String × α)) : Json → Decoded α
  | .text name => lookup tags name
  | .number numeral =>
      match dialect.numberedTags, numeral with
      | true, .whole false position => (tags[position]?).elim malformed fun tag => .ok tag.2
      | _, _ => malformed
  | _ => malformed

/-- A tag under a key among the other members, or in front of the other elements; and the rest. -/
def asTagged (dialect : Dialect) (key : String) (tags : List (String × α)) :
    Json → Decoded (α × Json)
  | .object members =>
      match members.filter fun member => member.1 == key with
      | [(_, value)] => do
          let tag ← asTag dialect tags value
          .ok (tag, .object (members.filter fun member => member.1 != key))
      | _ => malformed
  | .array (value :: rest) => do
      let tag ← asTag dialect tags value
      .ok (tag, .array rest)
  | _ => malformed

def noFields : Json → Decoded Unit
  | .object _ | .array [] => .ok ()
  | _ => malformed

/-! Decoding texts. -/

def maxDepth : Nat :=
  127

/-- Decodes while reading: a fault of the value wins over a fault of the text behind it. -/
def decodeText (decode : Json → Decoded α) (text : String) : Decoded α := do
  let reading := read text.toList
  let value ← required reading.value
  let value ← decode value
  if reading.ended then .ok value else malformed

def decodeWhole (decode : Json → Decoded α) (text : String) : Decoded α := do
  let reading := read text.toList
  let value ← required reading.value
  if reading.complete && value.depth ≤ maxDepth && value.isSound then
    let value ← decode value
    if reading.ended then .ok value else malformed
  else malformed

end ConferenceBridge.Json
