import ConferenceBridge.Toml.Plain
import ConferenceBridge.Toml.Quoted
import ConferenceBridge.Toml.Table

namespace ConferenceBridge.Toml

/-! Keys and values. -/

/-- Keys have fewer parts than this, and arrays and inline tables are nested less deep. -/
def maxDepth : Nat :=
  80

def isKeyChar (c : Char) : Bool :=
  c.isAlphanum || c = '_' || c = '-'

def keyPart : Reader String := do
  match ← Reader.peek? with
  | some '"' | some '\x27' => oneLine
  | _ =>
      let cs ← Reader.run isKeyChar
      if cs.isEmpty then failure else return String.ofList cs

def keyParts : Nat → Reader (List String)
  | 0 => failure
  | fuel + 1 => do
      skipBlanks
      let part ← keyPart
      skipBlanks
      match ← Reader.optional (Reader.char '.') with
      | none => return [part]
      | some _ => return part :: (← keyParts fuel)

def key : Reader (List String) :=
  keyParts (maxDepth - 1)

def assignment (value : Reader Json) : Reader (List String × String × Json) := do
  let parts ← key
  Reader.char '='
  skipBlanks
  let value ← value
  match parts.getLast? with
  | none => failure
  | some last => return (parts.dropLast, last, value)

def elements (value : Reader Json) : Nat → Reader (List Json)
  | 0 => failure
  | fuel + 1 => do
      skipGap
      match ← Reader.optional (Reader.char ']') with
      | some _ => return []
      | none =>
          let first ← value
          skipGap
          match ← Reader.optional (Reader.char ',') with
          | some _ => return first :: (← elements value fuel)
          | none =>
              Reader.char ']'
              return [first]

def moreMembers (value : Reader Json) : Nat → Members → Reader Members
  | 0, _ => failure
  | fuel + 1, members => do
      skipBlanks
      match ← Reader.optional (Reader.char ',') with
      | none =>
          Reader.char '\x7d'
          return members
      | some _ =>
          let (path, key, assigned) ← assignment value
          let members ← StateT.lift (Members.put? path key assigned members)
          moreMembers value fuel members

def inlineMembers (value : Reader Json) (fuel : Nat) : Reader Members := do
  skipBlanks
  match ← Reader.optional (Reader.char '\x7d') with
  | some _ => return []
  | none =>
      let (path, key, assigned) ← assignment value
      let members ← StateT.lift (Members.put? path key assigned [])
      moreMembers value fuel members

def valueWithin : Nat → Reader Json
  | 0 => leaf
  | depth + 1 => do
      let fuel := (← get).length
      match ← Reader.peek? with
      | some '[' =>
          Reader.char '['
          return .array (← elements (valueWithin depth) fuel)
      | some '\x7b' =>
          Reader.char '\x7b'
          return .object (membersToJson (← inlineMembers (valueWithin depth) fuel))
      | _ => leaf
where
  leaf : Reader Json := do
    match ← Reader.peek? with
    | some '"' | some '\x27' => return .text (← quoted)
    | _ => plain

def value : Reader Json :=
  valueWithin (maxDepth - 1)

end ConferenceBridge.Toml
