import ConferenceBridge.Text.Alphanumeric
import ConferenceBridge.Text.Blank

namespace ConferenceBridge.Log

/-! Which texts are regular expressions. They match whole characters, or single bytes where that is
asked for. Classes, word boundaries and letter cases are those of ASCII: where characters are
matched, nothing that would need more of Unicode is a pattern. -/

namespace Pattern

structure Flags where
  unicode : Bool := true
  ignoreCase : Bool := false
  spaced : Bool := false
  deriving DecidableEq, Repr

namespace Flags

def set (on : Bool) (flags : Flags) : Char → Flags
  | 'u' => { flags with unicode := on }
  | 'i' => { flags with ignoreCase := on }
  | 'x' => { flags with spaced := on }
  | _ => flags

/-- Letters that are switched on, and behind a minus those that are switched off; each once. -/
def change? (letters : List Char) (flags : Flags) : Option Flags :=
  if letters.all ("imsUuRx-".toList.contains ·) ∧ letters.eraseDups = letters ∧
      letters.getLast? ≠ some '-' then
    let flags := (letters.takeWhile (· != '-')).foldl (set true) flags
    some ((letters.dropWhile (· != '-')).foldl (set false) flags)
  else none

end Flags

/-- What one character, or one escape, stands for. -/
inductive Atom
  | char (value : Char)
  | byte (value : Nat)
  | group (negated : Bool)
  | boundary
  | anchor
  | any

namespace Atom

def isAllowed (flags : Flags) : Atom → Bool
  | char _ => !(flags.unicode && flags.ignoreCase)
  | byte value => if flags.unicode then !flags.ignoreCase else value < 0x80
  | group negated => !flags.unicode && !negated
  | boundary => !flags.unicode
  | anchor => true
  | any => flags.unicode

def isItem (flags : Flags) : Atom → Bool
  | char value => flags.unicode || value.toNat < 0x80
  | byte value => flags.unicode || value < 0x80
  | group negated => !flags.unicode && !negated
  | _ => false

def code? : Atom → Option Nat
  | char value => some value.toNat
  | byte value => some value
  | _ => none

def isRange (flags : Flags) (first last : Atom) : Bool :=
  match first.code?, last.code? with
  | some low, some high => low ≤ high && first.isItem flags && last.isItem flags
  | _, _ => false

end Atom

def hexValue? (digits : List Char) : Option Nat :=
  digits.foldlM (fun total c =>
    if c.isDigit then some (16 * total + (c.toNat - '0'.toNat))
    else if 'a' ≤ c.toLower ∧ c.toLower ≤ 'f' then
      some (16 * total + (c.toLower.toNat - 'a'.toNat + 10))
    else none) 0

def charOfHex? (count : Nat) (cs : List Char) : Option (Atom × List Char) := do
  if cs.length < count then none
  let value ← hexValue? (cs.take count)
  if value.isValidChar then some (.char (Char.ofNat value), cs.drop count) else none

def controls : List (Char × Char) :=
  [('a', '\x07'), ('f', '\x0c'), ('t', '\t'), ('n', '\n'), ('r', '\r'), ('v', '\x0b')]

def escape? : List Char → Option (Atom × List Char)
  | [] => none
  | 'x' :: high :: low :: rest => (hexValue? [high, low]).map fun value => (.byte value, rest)
  | 'u' :: rest => charOfHex? 4 rest
  | 'U' :: rest => charOfHex? 8 rest
  | c :: rest =>
      if let some value := controls.lookup c then some (.char value, rest)
      else if c = 'A' ∨ c = 'z' then some (.anchor, rest)
      else if c = 'b' ∨ c = 'B' ∨ c = '<' ∨ c = '>' then some (.boundary, rest)
      else if c = 'd' ∨ c = 's' ∨ c = 'w' then some (.group false, rest)
      else if c = 'D' ∨ c = 'S' ∨ c = 'W' then some (.group true, rest)
      else if c.toNat < 0x80 ∧ !c.isAlphanum then some (.char c, rest)
      else none

def skipSpaced (inComment : Bool) : List Char → List Char
  | [] => []
  | c :: rest =>
      if inComment then skipSpaced (c != '\n') rest
      else if c = '#' then skipSpaced true rest
      else if Text.isBlank c then skipSpaced false rest
      else c :: rest

def skip (flags : Flags) (cs : List Char) : List Char :=
  if flags.spaced then skipSpaced false cs else cs

/-! Classes in brackets. -/

/-- What follows an opening bracket: here hyphens stand for themselves, and so does a closing
bracket that comes first. -/
def classStart? (flags : Flags) (cs : List Char) : Option (List Char) :=
  let cs := skip flags cs
  let negated := cs.head? = some '^'
  let cs := if negated then skip flags cs.tail else cs
  let items := hyphens cs.length cs
  if negated ∧ !flags.unicode then none
  else
    match items with
    | ']' :: rest => if items.length = cs.length then some rest else some items
    | items => some items
where
  hyphens : Nat → List Char → List Char
    | fuel + 1, '-' :: rest => hyphens fuel (skip flags rest)
    | _, cs => cs

def item? : List Char → Option (Atom × List Char)
  | [] => none
  | '\\' :: rest => escape? rest
  | c :: rest => some (.char c, rest)

/-- What follows a class of which `depth` more are open around the reader; each step takes at least
one character. -/
def classEnd? (flags : Flags) : Nat → Nat → List Char → Option (List Char)
  | 0, _, _ => none
  | fuel + 1, depth, cs =>
      match skip flags cs with
      | [] => none
      | '[' :: rest => classStart? flags rest >>= classEnd? flags fuel (depth + 1)
      | ']' :: rest => if depth = 0 then some rest else classEnd? flags fuel (depth - 1) rest
      | '&' :: '&' :: rest | '-' :: '-' :: rest | '~' :: '~' :: rest =>
          classEnd? flags fuel depth rest
      | cs => do
          let (first, rest) ← item? cs
          match skip flags rest with
          | '-' :: more =>
              let next := (skip flags more).head?
              if next = some ']' ∨ next = some '-' then
                if first.isItem flags then classEnd? flags fuel depth (skip flags rest) else none
              else
                let (last, rest) ← item? (skip flags more)
                if Atom.isRange flags first last then classEnd? flags fuel depth rest else none
          | rest => if first.isItem flags then classEnd? flags fuel depth rest else none

def class? (flags : Flags) (cs : List Char) : Option (List Char) :=
  if flags.unicode ∧ flags.ignoreCase then none
  else classStart? flags cs >>= classEnd? flags (cs.length + 1) 0

/-! Groups. -/

inductive Opening
  | group (flags : Flags) (name : Option (List Char)) (rest : List Char)
  | flags (flags : Flags) (rest : List Char)

def isName : List Char → Bool
  | [] => false
  | c :: rest =>
      (c == '_' || Text.isLetter c) &&
        rest.all fun c => c == '_' || c == '.' || c == '[' || c == ']' || Text.isAlphanumeric c

def named? (flags : Flags) (cs : List Char) : Option Opening :=
  let name := cs.takeWhile (· != '>')
  match cs.dropWhile (· != '>') with
  | '>' :: rest => if isName name then some (.group flags (some name) rest) else none
  | _ => none

def flagged? (flags : Flags) (cs : List Char) : Option Opening := do
  let isEnd (c : Char) : Bool := c == ':' || c == ')'
  let letters := cs.takeWhile fun c => !isEnd c
  let changed ← flags.change? letters
  match cs.dropWhile fun c => !isEnd c with
  | ':' :: rest => some (.group changed none rest)
  | ')' :: rest => if letters.isEmpty then none else some (.flags changed rest)
  | _ => none

def opening? (flags : Flags) (cs : List Char) : Option Opening :=
  match skip flags cs with
  | '?' :: '=' :: _ | '?' :: '!' :: _ | '?' :: '<' :: '=' :: _ | '?' :: '<' :: '!' :: _ => none
  | '?' :: 'P' :: '<' :: rest | '?' :: '<' :: rest => named? flags rest
  | '?' :: rest => flagged? flags rest
  | rest => some (.group flags none rest)

structure State where
  flags : Flags := {}
  /-- The flags around each open group, the innermost first. -/
  around : List Flags := []
  names : List (List Char) := []
  repeatable : Bool := false

def accepts : Nat → State → List Char → Bool
  | 0, _, _ => false
  | fuel + 1, state, cs =>
      let item (rest : List Char) : Bool := accepts fuel { state with repeatable := true } rest
      match skip state.flags cs with
      | [] => state.around.isEmpty
      | '(' :: rest =>
          match opening? state.flags rest with
          | none => false
          | some (.flags flags rest) =>
              accepts fuel { state with flags, repeatable := false } rest
          | some (.group flags name rest) =>
              if name.any state.names.contains then false
              else
                accepts fuel
                  { flags
                    around := state.flags :: state.around
                    names := name.toList ++ state.names } rest
      | ')' :: rest =>
          match state.around with
          | [] => false
          | flags :: around =>
              accepts fuel { state with flags, around, repeatable := true } rest
      | '|' :: rest => accepts fuel { state with repeatable := false } rest
      | '[' :: rest => (class? state.flags rest).any item
      | '?' :: rest | '*' :: rest | '+' :: rest =>
          state.repeatable && item (if rest.head? = some '?' then rest.tail else rest)
      | '\x7b' :: _ => false
      | '\\' :: rest =>
          match escape? rest with
          | none => false
          | some (atom, rest) => atom.isAllowed state.flags && item rest
      | '.' :: rest => Atom.any.isAllowed state.flags && item rest
      | '^' :: rest | '$' :: rest => item rest
      | c :: rest => (Atom.char c).isAllowed state.flags && item rest

end Pattern

/-- Whether a text is a pattern. Counted repetitions need a closing brace, with which a field of a
directive ends; here they are refused. -/
def isPattern (cs : List Char) : Bool :=
  Pattern.accepts (cs.length + 1) {} cs

end ConferenceBridge.Log
