import ConferenceBridge.Json.Numeral

namespace ConferenceBridge

/-! JSON values. Members keep their order and may repeat a key. -/

inductive Json
  | null
  | bool (value : Bool)
  | number (numeral : Numeral)
  | text (value : String)
  /-- A text in which half of a surrogate pair is escaped alone; it stands for no characters. -/
  | brokenText
  | nameless
  | array (items : List Json)
  | object (members : List (String × Json))
  deriving Inhabited

namespace Json

def ofInt (value : Int) : Json :=
  .number (.ofInt value)

def ofNat (value : Nat) : Json :=
  ofInt value

def ofOption (value : Option String) : Json :=
  value.elim .null .text

def texts (values : List String) : Json :=
  .array (values.map .text)

def member? (key : String) : Json → Option Json
  | .object members => (members.reverse.find? fun member => member.1 == key).map (·.2)
  | _ => none

mutual

def depth : Json → Nat
  | .array items => depthOfItems items + 1
  | .object members => depthOfMembers members + 1
  | _ => 0

def depthOfItems : List Json → Nat
  | [] => 0
  | item :: rest => max item.depth (depthOfItems rest)

def depthOfMembers : List (String × Json) → Nat
  | [] => 0
  | (_, value) :: rest => max value.depth (depthOfMembers rest)

end

mutual

/-- Whether every number is in range, and every text and key stands for characters. -/
def isSound : Json → Bool
  | .number numeral => numeral.inRange
  | .brokenText | .nameless => false
  | .array items => itemsSound items
  | .object members => membersSound members
  | _ => true

def itemsSound : List Json → Bool
  | [] => true
  | item :: rest => item.isSound && itemsSound rest

def membersSound : List (String × Json) → Bool
  | [] => true
  | (_, value) :: rest => value.isSound && membersSound rest

end

end Json

end ConferenceBridge
