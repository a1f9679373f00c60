import ConferenceBridge.Toml.Value

namespace ConferenceBridge.Toml

/-! Documents: lines that assign values or open tables. -/

inductive Statement
  | nothing
  | assign (path : List String) (key : String) (value : Json)
  | table (path : List String) (key : String)
  | element (path : List String) (key : String)

def header (make : List String → String → Statement) : Reader Statement := do
  let parts ← key
  Reader.char ']'
  match parts.getLast? with
  | none => failure
  | some last => return make parts.dropLast last

def statement : Reader Statement := do
  skipBlanks
  match ← Reader.peek? with
  | none | some '\n' | some '\r' | some '#' => return .nothing
  | some '[' =>
      Reader.char '['
      match ← Reader.optional (Reader.char '[') with
      | none => header .table
      | some _ =>
          let statement ← header .element
          Reader.char ']'
          return statement
  | some _ =>
      let (path, key, value) ← assignment value
      return .assign path key value

def line : Reader Statement := do
  let statement ← statement
  skipBlanks
  discard (Reader.optional comment)
  return statement

def statements : Nat → Reader (List Statement)
  | 0 => failure
  | fuel + 1 => do
      let statement ← line
      if (← Reader.peek?).isNone then return [statement]
      else
        newline
        return statement :: (← statements fuel)

/-- A document as far as it was read, and the path of the table that is being filled. -/
structure Draft where
  root : Members := []
  current : List String := []

def Draft.add? (draft : Draft) : Statement → Option Draft
  | .nothing => some draft
  | .assign path key value => do
      let root ← Members.modify? (Members.put? path key value) draft.current draft.root
      some { draft with root }
  | .table path key => do
      let root ← Members.modify? (Members.openTable? key) path draft.root
      some { root, current := path ++ [key] }
  | .element path key => do
      let root ← Members.modify? (Members.openElement? key) path draft.root
      some { root, current := path ++ [key] }

def withoutMark : List Char → List Char
  | '\ufeff' :: cs => cs
  | cs => cs

def read? (text : String) : Option Json := do
  let cs := withoutMark text.toList
  let (statements, []) ← StateT.run (statements (cs.length + 1)) cs | none
  let draft ← statements.foldlM Draft.add? {}
  return .object (membersToJson draft.root)

end ConferenceBridge.Toml
