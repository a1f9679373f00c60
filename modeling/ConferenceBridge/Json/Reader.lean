import ConferenceBridge.Json.Token

namespace ConferenceBridge.Json

/-! Reading a text as far as it goes: what was read before a fault is kept. -/

structure Reading where
  /-- The first value, cut short at the fault if there is one inside it. -/
  value : Option Json
  complete : Bool
  ended : Bool

/-- An array or object that is still open, with the newest part first. -/
inductive Frame
  | array (items : List Json)
  | object (members : List (String × Json)) (key : Option String)

inductive Expect
  | value
  | valueOrClose
  | keyOrClose
  | key (members : List (String × Json))
  | colon (members : List (String × Json)) (key : Option String)
  | after (value : Json)

def memberOf : Option String → Json → String × Json
  | some key, value => (key, value)
  | none, _ => ("", .nameless)

/-- What remains of open containers when the text breaks off. -/
def cutShort : Option Json → List Frame → Option Json
  | current, [] => current
  | current, .array items :: stack =>
      cutShort (some (.array (current.toList ++ items).reverse)) stack
  | current, .object members key :: stack =>
      cutShort (some (.object (current.toList.map (memberOf key) ++ members).reverse)) stack

def Expect.cutShort (stack : List Frame) : Expect → Option Json
  | .value => Json.cutShort none stack
  | .valueOrClose => Json.cutShort (some (.array [])) stack
  | .keyOrClose => Json.cutShort (some (.object [])) stack
  | .key members | .colon members _ => Json.cutShort (some (.object members.reverse)) stack
  | .after last => Json.cutShort (some last) stack

def Token.leaf? : Token → Option Json
  | .null => some .null
  | .bool value => some (.bool value)
  | .number numeral => some (.number numeral)
  | .text value => some (.text value)
  | .brokenText => some .brokenText
  | _ => none

def beginValue (token : Token) (stack : List Frame) : Option (Expect × List Frame) :=
  match token with
  | .openArray => some (.valueOrClose, stack)
  | .openObject => some (.keyOrClose, stack)
  | token => token.leaf?.map fun value => (.after value, stack)

def step : Token → Expect → List Frame → Option (Expect × List Frame)
  | token, .value, stack => beginValue token stack
  | .closeArray, .valueOrClose, stack => some (.after (.array []), stack)
  | token, .valueOrClose, stack => beginValue token (.array [] :: stack)
  | .closeObject, .keyOrClose, stack => some (.after (.object []), stack)
  | .text key, .keyOrClose, stack => some (.colon [] (some key), stack)
  | .text key, .key members, stack => some (.colon members (some key), stack)
  | .brokenText, .keyOrClose, stack => some (.colon [] none, stack)
  | .brokenText, .key members, stack => some (.colon members none, stack)
  | .colon, .colon members key, stack => some (.value, .object members key :: stack)
  | .comma, .after value, .array items :: stack =>
      some (.value, .array (value :: items) :: stack)
  | .closeArray, .after value, .array items :: stack =>
      some (.after (.array (value :: items).reverse), stack)
  | .comma, .after value, .object members key :: stack =>
      some (.key (memberOf key value :: members), stack)
  | .closeObject, .after value, .object members key :: stack =>
      some (.after (.object (memberOf key value :: members).reverse), stack)
  | _, _, _ => none

def build : List Token → Expect → List Frame → Reading
  | tokens, .after value, [] => ⟨some value, true, tokens.isEmpty⟩
  | [], expect, stack => ⟨expect.cutShort stack, false, false⟩
  | token :: tokens, expect, stack =>
      match step token expect stack with
      | none => ⟨expect.cutShort stack, false, false⟩
      | some (expect, stack) => build tokens expect stack

def read (cs : List Char) : Reading :=
  let (tokens, clean) := Token.scan cs
  let reading := build tokens .value []
  { reading with ended := reading.ended && clean }

end ConferenceBridge.Json
