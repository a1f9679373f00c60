import ConferenceBridge.Log.Pattern
import ConferenceBridge.Log.Record
import ConferenceBridge.Text.Bytes

namespace ConferenceBridge.Log

/-! Directives: up to which severity some records are let through. -/

/-- The least severe records that are let through; none lets nothing through. -/
abbrev Threshold := Option Severity

namespace Threshold

def admits (threshold : Threshold) (severity : Severity) : Bool :=
  threshold.any fun least => severity.rank ≤ least.rank

def ofRank? : Nat → Option Threshold
  | 0 => some none
  | rank => (Severity.all.find? fun severity => severity.rank == rank).map some

def ofDigits? (cs : List Char) : Option Threshold :=
  let digits := match cs with
    | '+' :: rest => rest
    | cs => cs
  if digits.isEmpty ∨ digits.any (fun c => !c.isDigit) then none
  else ofRank? (digits.foldl (fun total c => 10 * total + (c.toNat - '0'.toNat)) 0)

def ofChars? (cs : List Char) : Option Threshold :=
  let name := String.ofList (cs.map Char.toLower)
  if name = "off" then some none
  else
    match Severity.ofName? name with
    | some severity => some (some severity)
    | none => ofDigits? cs

end Threshold

structure Directive where
  target : String
  field : Option String := none
  threshold : Threshold
  /-- Whether it holds only inside a span, with a certain name or a certain value of its field.
  Nothing is written inside a span. -/
  inSpan : Bool := false
  deriving DecidableEq, Repr

namespace Directive

def isUnsigned (cs : List Char) : Bool :=
  ["inf", "infinity", "nan"].contains (String.ofList (cs.map Char.toLower)) ||
    (!whole.isEmpty || !places.isEmpty) && isExponent rest
where
  whole : List Char := cs.takeWhile Char.isDigit
  afterWhole : List Char := cs.dropWhile Char.isDigit
  afterPoint : List Char := if afterWhole.head? = some '.' then afterWhole.tail else []
  places : List Char := afterPoint.takeWhile Char.isDigit
  rest : List Char :=
    if afterWhole.head? = some '.' then afterPoint.dropWhile Char.isDigit else afterWhole
  isExponent : List Char → Bool
    | [] => true
    | c :: rest =>
        let digits := if rest.head? = some '+' ∨ rest.head? = some '-' then rest.tail else rest
        (c == 'e' || c == 'E') && !digits.isEmpty && digits.all Char.isDigit

def isValue : List Char → Bool
  | '+' :: number => isUnsigned number
  | cs => isPattern cs

def field? (cs : List Char) : Option (String × Bool) :=
  match cs.splitOn '=' with
  | [] => none
  | name :: values =>
      if values.head?.all isValue then some (String.ofList name, values.head?.isSome) else none

def mayStart (c : Char) : Bool :=
  c = '-' || c = ':' || c = '_' || Text.isAlphanumeric c

/-- Reads a directive. Its parts are told apart without the blanks around it, but then they are cut
from the whole of it, so that blanks in front of it shift them. -/
def ofChars? (cs : List Char) : Option Directive :=
  let text := Text.trim cs
  let target := text.takeWhile fun c => c != '=' && c != '['
  let rest := text.dropWhile fun c => c != '=' && c != '['
  if text.head? ≠ some '[' ∧ !text.head?.any mayStart then none
  else
    match rest with
    | [] =>
        match Threshold.ofChars? cs with
        | some threshold => some { target := "", threshold }
        | none => some { target := String.ofList cs, threshold := some .trace }
    | '[' :: inner =>
        match inner.dropWhile fun c => c != ']' && c != '\x7b' with
        | ']' :: rest => withLevel? target none true rest
        | '\x7b' :: fields =>
            let field := fields.takeWhile (· != '\x7d')
            match field, fields.dropWhile (· != '\x7d') with
            | _ :: _, '\x7d' :: ']' :: rest => do
                let (name, hasValue) ← field? (part fields (Text.byteCount field))
                withLevel? target (some name) (hasValue || inner.head? != some '\x7b') rest
            | _, _ => none
        | _ => none
    | rest => withLevel? target none false rest
where
  part (suffix : List Char) (count : Nat) : List Char :=
    let start := Text.byteCount (Text.trim cs) - Text.byteCount suffix
    Text.between start (start + count) cs
  withLevel? (target : List Char) (field : Option String) (inSpan : Bool) :
      List Char → Option Directive
    | [] => some (close target field inSpan (some .trace))
    | '=' :: level =>
        match part level (Text.byteCount cs) with
        | [] => some (close target field inSpan (some .trace))
        | level => (Threshold.ofChars? level).map (close target field inSpan)
    | _ => none
  close (target : List Char) (field : Option String) (inSpan : Bool) (threshold : Threshold) :
      Directive :=
    { target := String.ofList (Text.between 0 (Text.byteCount target) cs)
      field, threshold, inSpan }

def covers (directive : Directive) (record : Record) : Bool :=
  !directive.inSpan && directive.target.toList.isPrefixOf record.target.toList &&
    directive.field.all record.hasField

/-- Of two directives about a record the one with the longer target decides, then one with a field,
then the one whose field comes later in the alphabet. -/
def outranks (first second : Directive) : Bool :=
  if first.target.length = second.target.length then
    match first.field, second.field with
    | some first, some second => second < first
    | some _, none => true
    | none, _ => false
  else second.target.length < first.target.length

end Directive

end ConferenceBridge.Log
