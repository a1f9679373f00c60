import ConferenceBridge.Json.Value

namespace ConferenceBridge.Json

/-! The tokens of a JSON text. -/

inductive Token
  | openObject
  | closeObject
  | openArray
  | closeArray
  | colon
  | comma
  | null
  | bool (value : Bool)
  | number (numeral : Numeral)
  | text (value : String)
  | brokenText
  deriving DecidableEq, Repr

namespace Token

def isSpace (c : Char) : Bool :=
  c = ' ' || c = '\t' || c = '\n' || c = '\r'

def skipSpace (cs : List Char) : List Char :=
  cs.dropWhile isSpace

theorem length_skipSpace_le (cs : List Char) : (skipSpace cs).length ≤ cs.length :=
  (List.dropWhile_suffix isSpace).length_le

/-! Quoted texts. -/

/-- A part of a quoted text: a character, or a UTF-16 unit that was escaped by number. -/
inductive Piece
  | char (value : Char)
  | unit (value : Nat)

def hexValue? (c : Char) : Option Nat :=
  if '0' ≤ c ∧ c ≤ '9' then some (c.toNat - '0'.toNat)
  else if 'a' ≤ c ∧ c ≤ 'f' then some (c.toNat - 'a'.toNat + 10)
  else if 'A' ≤ c ∧ c ≤ 'F' then some (c.toNat - 'A'.toNat + 10)
  else none

def unitOfHex? (a b c d : Char) : Option Nat := do
  let a ← hexValue? a
  let b ← hexValue? b
  let c ← hexValue? c
  let d ← hexValue? d
  return ((a * 16 + b) * 16 + c) * 16 + d

def unescape? : Char → Option Char
  | '"' => some '"'
  | '\\' => some '\\'
  | '/' => some '/'
  | 'b' => some '\x08'
  | 'f' => some '\x0c'
  | 'n' => some '\n'
  | 'r' => some '\r'
  | 't' => some '\t'
  | _ => none

def pieces? : List Char → Option (List Piece × List Char)
  | [] => none
  | '"' :: rest => some ([], rest)
  | '\\' :: 'u' :: a :: b :: c :: d :: rest => do
      let unit ← unitOfHex? a b c d
      let (pieces, rest) ← pieces? rest
      return (.unit unit :: pieces, rest)
  | '\\' :: c :: rest => do
      let char ← unescape? c
      let (pieces, rest) ← pieces? rest
      return (.char char :: pieces, rest)
  | c :: rest =>
      if c = '\\' ∨ c.toNat < 0x20 then none
      else (pieces? rest).map fun (pieces, rest) => (.char c :: pieces, rest)

theorem length_lt_of_pieces? {cs rest : List Char} {pieces : List Piece}
    (h : pieces? cs = some (pieces, rest)) : rest.length < cs.length := by
  fun_induction pieces? cs generalizing pieces rest with
  | case1 => simp at h
  | case2 => simp_all
  | case3 a b c d tail ih =>
      cases hunit : unitOfHex? a b c d <;> cases htail : pieces? tail <;>
        simp [hunit, htail] at h
      have := ih htail
      grind
  | case4 c tail hnot ih =>
      cases hchar : unescape? c <;> cases htail : pieces? tail <;>
        simp [hchar, htail] at h
      have := ih htail
      grind
  | case5 => simp at h
  | case6 c tail hquote hunicode hescape hplain ih =>
      simp only [Option.map_eq_some_iff, Prod.exists] at h
      obtain ⟨laterPieces, laterRest, hlater, heq⟩ := h
      have := ih hlater
      grind

/-- Two units of a surrogate pair are one character; a surrogate alone is none. -/
def join? : List Piece → Option (List Char)
  | [] => some []
  | .char c :: rest => (join? rest).map (c :: ·)
  | .unit high :: .unit low :: rest =>
      if 0xd800 ≤ high ∧ high < 0xdc00 then
        if 0xdc00 ≤ low ∧ low < 0xe000 then
          (join? rest).map (Char.ofNat ((high - 0xd800) * 0x400 + (low - 0xdc00) + 0x10000) :: ·)
        else none
      else if 0xdc00 ≤ high ∧ high < 0xe000 then none
      else (join? (.unit low :: rest)).map (Char.ofNat high :: ·)
  | .unit value :: rest =>
      if 0xd800 ≤ value ∧ value < 0xe000 then none
      else (join? rest).map (Char.ofNat value :: ·)

def ofPieces (pieces : List Piece) : Token :=
  (join? pieces).elim .brokenText fun cs => .text (String.ofList cs)

/-! Numbers. -/

def digitsOf (cs : List Char) : List Char × List Char :=
  (cs.takeWhile Char.isDigit, cs.dropWhile Char.isDigit)

def natOfDigits (digits : List Char) : Nat :=
  digits.foldl (fun value c => value * 10 + (c.toNat - '0'.toNat)) 0

def wholePart? : List Char → Option (List Char × List Char)
  | '0' :: rest => if rest.head?.any Char.isDigit then none else some (['0'], rest)
  | cs =>
      match digitsOf cs with
      | ([], _) => none
      | digits => some digits

def fraction? : List Char → Option (Option (List Char) × List Char)
  | '.' :: rest =>
      match digitsOf rest with
      | ([], _) => none
      | (digits, rest) => some (some digits, rest)
  | cs => some (none, cs)

def exponent? (cs : List Char) : Option (Option Int × List Char) :=
  match cs with
  | 'e' :: rest | 'E' :: rest =>
      let (negative, rest) :=
        match rest with
        | '-' :: rest => (true, rest)
        | '+' :: rest => (false, rest)
        | rest => (false, rest)
      match digitsOf rest with
      | ([], _) => none
      | (digits, rest) =>
          let value : Int := natOfDigits digits
          some (some (if negative then -value else value), rest)
  | cs => some (none, cs)

/-- Digits beyond 64 bits are dropped from a number with a point or an exponent. -/
def magnitude? (negative : Bool) (cs : List Char) : Option (Numeral × List Char) := do
  let (whole, rest) ← wholePart? cs
  let (fraction, rest) ← fraction? rest
  let (exponent, rest) ← exponent? rest
  match fraction, exponent with
  | none, none => return (.whole negative (natOfDigits whole), rest)
  | fraction, exponent =>
      let places := fraction.getD []
      let (digits, left) := Numeral.gather 0 whole
      let (digits, unused) := Numeral.gather digits places
      return (.scaled negative digits
        (exponent.getD 0 + left + unused - places.length), rest)

def numeral? : List Char → Option (Numeral × List Char)
  | '-' :: rest => magnitude? true rest
  | cs => magnitude? false cs

private theorem digitsOf_length_le (cs : List Char) : (digitsOf cs).2.length ≤ cs.length :=
  (List.dropWhile_suffix Char.isDigit).length_le

private theorem digitsOf_length_lt {cs : List Char} (h : (digitsOf cs).1 ≠ []) :
    (digitsOf cs).2.length < cs.length := by
  have happend : (digitsOf cs).1 ++ (digitsOf cs).2 = cs :=
    List.takeWhile_append_dropWhile
  have := congrArg List.length happend
  have hpositive := List.length_pos_iff.mpr h
  simp only [List.length_append] at this
  omega

private theorem wholePart?_length {cs whole rest : List Char}
    (h : wholePart? cs = some (whole, rest)) : rest.length < cs.length := by
  unfold wholePart? at h
  split at h
  · split at h <;> simp_all
  · split at h
    · simp at h
    · rename_i hnil
      have hne : (digitsOf cs).1 ≠ [] := fun heq => hnil (digitsOf cs).2 (Prod.ext heq rfl)
      have := digitsOf_length_lt hne
      grind

private theorem fraction?_length {cs rest : List Char} {digits : Option (List Char)}
    (h : fraction? cs = some (digits, rest)) : rest.length ≤ cs.length := by
  unfold fraction? at h
  split at h
  · rename_i tail
    have := digitsOf_length_le tail
    split at h <;> grind
  · simp_all

private theorem exponent?_length {cs rest : List Char} {value : Option Int}
    (h : exponent? cs = some (value, rest)) : rest.length ≤ cs.length := by
  have step : ∀ tail : List Char, ∀ negative : Bool,
      (match digitsOf tail with
        | ([], _) => none
        | (digits, rest) =>
            let value : Int := natOfDigits digits
            some (some (if negative then -value else value), rest)) = some (value, rest) →
      rest.length ≤ tail.length := by
    intro tail negative h
    have := digitsOf_length_le tail
    split at h <;> grind
  unfold exponent? at h
  split at h
  · rename_i tail
    split at h
    all_goals
      have := step _ _ h
      grind
  · rename_i tail
    split at h
    all_goals
      have := step _ _ h
      grind
  · simp_all

private theorem magnitude?_length {negative : Bool} {cs rest : List Char} {numeral : Numeral}
    (h : magnitude? negative cs = some (numeral, rest)) : rest.length < cs.length := by
  unfold magnitude? at h
  cases hwhole : wholePart? cs with
  | none => simp [hwhole] at h
  | some whole =>
      cases hfraction : fraction? whole.2 with
      | none => simp [hwhole, hfraction] at h
      | some fraction =>
          cases hexponent : exponent? fraction.2 with
          | none => simp [hwhole, hfraction, hexponent] at h
          | some exponent =>
              have h₁ := wholePart?_length hwhole
              have h₂ := fraction?_length hfraction
              have h₃ := exponent?_length hexponent
              simp only [hwhole, hfraction, hexponent, Option.bind_eq_bind, Option.bind_some] at h
              split at h <;> grind

theorem length_lt_of_numeral? {cs rest : List Char} {numeral : Numeral}
    (h : numeral? cs = some (numeral, rest)) : rest.length < cs.length := by
  unfold numeral? at h
  split at h
  · have := magnitude?_length h
    simp only [List.length_cons]
    omega
  · exact magnitude?_length h

/-! One token, and all tokens. -/

def next? : List Char → Option (Token × List Char)
  | '{' :: rest => some (.openObject, rest)
  | '}' :: rest => some (.closeObject, rest)
  | '[' :: rest => some (.openArray, rest)
  | ']' :: rest => some (.closeArray, rest)
  | ':' :: rest => some (.colon, rest)
  | ',' :: rest => some (.comma, rest)
  | 'n' :: 'u' :: 'l' :: 'l' :: rest => some (.null, rest)
  | 't' :: 'r' :: 'u' :: 'e' :: rest => some (.bool true, rest)
  | 'f' :: 'a' :: 'l' :: 's' :: 'e' :: rest => some (.bool false, rest)
  | '"' :: rest => do
      let (pieces, rest) ← pieces? rest
      return (ofPieces pieces, rest)
  | cs => (numeral? cs).map fun (numeral, rest) => (.number numeral, rest)

theorem length_lt_of_next? {cs rest : List Char} {token : Token}
    (h : next? cs = some (token, rest)) : rest.length < cs.length := by
  unfold next? at h
  split at h
  case h_10 tail =>
    cases hpieces : pieces? tail with
    | none => simp [hpieces] at h
    | some parsed =>
        have := length_lt_of_pieces? hpieces
        simp [hpieces] at h
        grind
  case h_11 =>
    simp only [Option.map_eq_some_iff, Prod.exists] at h
    obtain ⟨numeral, tail, hnumeral, heq⟩ := h
    have := length_lt_of_numeral? hnumeral
    grind
  all_goals
    simp only [Option.some.injEq, Prod.mk.injEq] at h
    obtain ⟨-, rfl⟩ := h
    simp only [List.length_cons]
    omega

def scan (cs : List Char) : List Token × Bool :=
  match _hnext : next? (skipSpace cs) with
  | none => ([], (skipSpace cs).isEmpty)
  | some (token, rest) =>
      let later := scan rest
      (token :: later.1, later.2)
termination_by cs.length
decreasing_by
  have := length_lt_of_next? _hnext
  have := length_skipSpace_le cs
  omega

end Token

end ConferenceBridge.Json
