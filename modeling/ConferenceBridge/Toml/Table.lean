import ConferenceBridge.Json.Value

namespace ConferenceBridge.Toml

/-! Tables under construction. A table is filled from several places of a document, and how it came
about decides what may still be added to it. -/

inductive Origin
  | header
  /-- It lies on the way to a table with a header. -/
  | implied
  | dotted
  deriving DecidableEq

inductive Item
  | closed (value : Json)
  | table (origin : Origin) (members : List (String × Item))
  /-- An array of tables; only the last one is still open. -/
  | tables (finished : List (List (String × Item))) (last : List (String × Item))

abbrev Members := List (String × Item)

namespace Members

def find? (members : Members) (key : String) : Option Item :=
  members.lookup key

def replace (members : Members) (key : String) (item : Item) : Members :=
  members.map fun member => if member.1 = key then (key, item) else member

def add? (members : Members) (key : String) (item : Item) : Option Members :=
  if (members.find? key).isSome then none else some (members ++ [(key, item)])

/-- Stores a value under a key at the end of a path of dotted keys. Tables with a header cannot be
extended this way. -/
def put? : List String → String → Json → Members → Option Members
  | [], key, value, members => members.add? key (.closed value)
  | first :: rest, key, value, members =>
      match members.find? first with
      | none => do
          let inner ← put? rest key value []
          some (members ++ [(first, .table .dotted inner)])
      | some (.table origin inner) =>
          if origin = .header ∨ (rest = [] ∧ origin ≠ .dotted) then none
          else do
            let inner ← put? rest key value inner
            some (members.replace first (.table origin inner))
      | some (.tables finished last) =>
          if rest = [] then none
          else do
            let last ← put? rest key value last
            some (members.replace first (.tables finished last))
      | some (.closed _) => none

def modify? (change : Members → Option Members) : List String → Members → Option Members
  | [], members => change members
  | first :: rest, members =>
      match members.find? first with
      | none => do
          let inner ← modify? change rest []
          some (members ++ [(first, .table .implied inner)])
      | some (.table origin inner) => do
          let inner ← modify? change rest inner
          some (members.replace first (.table origin inner))
      | some (.tables finished last) => do
          let last ← modify? change rest last
          some (members.replace first (.tables finished last))
      | some (.closed _) => none

def openTable? (key : String) (members : Members) : Option Members :=
  match members.find? key with
  | none => some (members ++ [(key, .table .header [])])
  | some (.table .implied inner) => some (members.replace key (.table .header inner))
  | some _ => none

def openElement? (key : String) (members : Members) : Option Members :=
  match members.find? key with
  | none => some (members ++ [(key, .tables [] [])])
  | some (.tables finished last) =>
      some (members.replace key (.tables (finished ++ [last]) []))
  | some _ => none

end Members

mutual

def Item.toJson : Item → Json
  | .closed value => value
  | .table _ members => .object (membersToJson members)
  | .tables finished last =>
      .array (elementsToJson finished ++ [.object (membersToJson last)])

def membersToJson : List (String × Item) → List (String × Json)
  | [] => []
  | (key, item) :: rest => (key, item.toJson) :: membersToJson rest

def elementsToJson : List (List (String × Item)) → List Json
  | [] => []
  | members :: rest => .object (membersToJson members) :: elementsToJson rest

end

end ConferenceBridge.Toml
