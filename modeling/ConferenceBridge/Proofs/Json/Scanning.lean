import ConferenceBridge.Json.Printer
import ConferenceBridge.Json.Token

namespace ConferenceBridge.Json

/-! The scanner takes from the front of a text what the printer put there: a quoted text up to its
closing quote, a number up to its last digit. -/

theorem escape_cases (c : Char) :
    (∃ short, Token.unescape? short = some c ∧ escape c = ['\\', short]) ∨
    (c.toNat < 0x20 ∧
      escape c = ['\\', 'u', '0', '0', hexDigit (c.toNat / 16), hexDigit (c.toNat % 16)]) ∨
    (c ≠ '"' ∧ c ≠ '\\' ∧ 0x20 ≤ c.toNat ∧ escape c = [c]) := by
  unfold escape
  split
  · next h => exact .inl ⟨'"', by rw [h]; rfl, rfl⟩
  split
  · next h => exact .inl ⟨'\\', by rw [h]; rfl, rfl⟩
  split
  · next h => exact .inl ⟨'b', by rw [h]; rfl, rfl⟩
  split
  · next h => exact .inl ⟨'f', by rw [h]; rfl, rfl⟩
  split
  · next h => exact .inl ⟨'n', by rw [h]; rfl, rfl⟩
  split
  · next h => exact .inl ⟨'r', by rw [h]; rfl, rfl⟩
  split
  · next h => exact .inl ⟨'t', by rw [h]; rfl, rfl⟩
  split
  · next hcontrol => exact .inr (.inl ⟨hcontrol, rfl⟩)
  · next hquote hbackslash _ _ _ _ _ hcontrol =>
      exact .inr (.inr ⟨hquote, hbackslash, by omega, rfl⟩)

namespace Token

variable {c : Char} {cs rest : List Char}

/-! Quoted texts. -/

theorem hexValue?_hexDigit {value : Nat} (h : value < 16) :
    hexValue? (hexDigit value) = some value := by
  decide +revert

theorem unitOfHex?_hexDigit {value : Nat} (h : value < 0x20) :
    unitOfHex? '0' '0' (hexDigit (value / 16)) (hexDigit (value % 16)) = some value := by
  have hzero : hexValue? '0' = some 0 := by decide
  simp only [unitOfHex?, hzero, hexValue?_hexDigit (show value / 16 < 16 by omega),
    hexValue?_hexDigit (Nat.mod_lt value (show 16 > 0 by decide)), Option.bind_eq_bind,
    Option.bind_some, Option.pure_def]
  congr 1
  omega

theorem join?_unit {value : Nat} (h : value < 0xd800) (later : List Piece) :
    join? (.unit value :: later) = (join? later).map (Char.ofNat value :: ·) := by
  have hlow : ¬(0xd800 ≤ value ∧ value < 0xdc00) := by omega
  have hhigh : ¬(0xdc00 ≤ value ∧ value < 0xe000) := by omega
  have hnone : ¬(0xd800 ≤ value ∧ value < 0xe000) := by omega
  cases later with
  | nil => simp only [join?, if_neg hnone]
  | cons piece later =>
      cases piece with
      | char c => simp only [join?, if_neg hnone]
      | unit low => simp only [join?, if_neg hlow, if_neg hhigh]

theorem pieces?_short {short : Char} (h : unescape? short = some c) (rest : List Char) :
    pieces? ('\\' :: short :: rest) =
      (pieces? rest).map fun read => (.char c :: read.1, read.2) := by
  have hunicode : short ≠ 'u' := by
    rintro rfl
    cases h
  rw [pieces?]
  · simp only [h, Option.bind_eq_bind, Option.bind_some]
    cases pieces? rest <;> rfl
  · intro _ _ _ _ _ heq _
    exact hunicode heq

theorem pieces?_unit {a b c d : Char} {value : Nat} (h : unitOfHex? a b c d = some value)
    (rest : List Char) :
    pieces? ('\\' :: 'u' :: a :: b :: c :: d :: rest) =
      (pieces? rest).map fun read => (.unit value :: read.1, read.2) := by
  rw [pieces?]
  simp only [h, Option.bind_eq_bind, Option.bind_some]
  cases pieces? rest <;> rfl

theorem pieces?_plain (hquote : c ≠ '"') (hbackslash : c ≠ '\\') (hprint : 0x20 ≤ c.toNat)
    (rest : List Char) :
    pieces? (c :: rest) = (pieces? rest).map fun read => (.char c :: read.1, read.2) := by
  have hplain : ¬(c = '\\' ∨ c.toNat < 0x20) := by
    rintro (h | h)
    · exact hbackslash h
    · omega
  rw [pieces?]
  · rw [if_neg hplain]
  · exact hquote
  · intro _ _ _ _ _ h
    exact absurd h hbackslash
  · intro _ _ h
    exact absurd h hbackslash

/-- What a character is written as is read as one piece, and the piece stands for the character. -/
theorem pieces?_escape (c : Char) (rest : List Char) :
    ∃ piece, (∀ later, join? (piece :: later) = (join? later).map (c :: ·)) ∧
      pieces? (escape c ++ rest) = (pieces? rest).map fun read => (piece :: read.1, read.2) := by
  rcases escape_cases c with ⟨short, hshort, heq⟩ | ⟨hcontrol, heq⟩ |
    ⟨hquote, hbackslash, hprint, heq⟩ <;> rw [heq]
  · exact ⟨.char c, fun _ => rfl, pieces?_short hshort rest⟩
  · refine ⟨.unit c.toNat, fun later => ?_, pieces?_unit (unitOfHex?_hexDigit hcontrol) rest⟩
    rw [join?_unit (by omega), Char.ofNat_toNat]
  · exact ⟨.char c, fun _ => rfl, pieces?_plain hquote hbackslash hprint rest⟩

theorem pieces?_flatMap_escape (cs rest : List Char) :
    ∃ pieces, join? pieces = some cs ∧
      pieces? (cs.flatMap escape ++ '"' :: rest) = some (pieces, rest) := by
  induction cs with
  | nil => exact ⟨[], rfl, by simp [pieces?]⟩
  | cons c cs ih =>
      obtain ⟨pieces, hjoin, hpieces⟩ := ih
      obtain ⟨piece, hstands, hpiece⟩ := pieces?_escape c (cs.flatMap escape ++ '"' :: rest)
      refine ⟨piece :: pieces, by rw [hstands, hjoin]; rfl, ?_⟩
      rw [List.flatMap_cons, List.append_assoc, hpiece, hpieces]
      rfl

theorem next?_quote (text : String) (rest : List Char) :
    next? (quote text ++ rest) = some (.text text, rest) := by
  obtain ⟨pieces, hjoin, hpieces⟩ := pieces?_flatMap_escape text.toList rest
  simp [quote, next?, hpieces, ofPieces, hjoin]

/-! Numbers. -/

theorem natOfDigits_digits (value : Nat) : natOfDigits (digits value) = value := by
  have h := Nat.ofDigitChars_ten_toDigits (n := value)
  rw [Nat.ofDigitChars_eq_foldl] at h
  simpa only [natOfDigits, digits, Nat.mul_comm] using h

theorem isDigit_of_mem_digits {value : Nat} (h : c ∈ digits value) : c.isDigit :=
  Nat.isDigit_of_mem_toDigits (by decide) (by decide) h

theorem digits_eq_cons {value : Nat} (hvalue : value ≠ 0) :
    ∃ c cs, digits value = c :: cs ∧ c ≠ '0' := by
  induction value using Nat.strongRecOn with
  | ind value ih =>
      rw [digits, Nat.toDigits_eq_if (by decide)]
      split
      · next hsmall =>
          have hdigit : ∀ value < 10, value ≠ 0 → value.digitChar ≠ '0' := by decide
          exact ⟨value.digitChar, [], rfl, hdigit value hsmall hvalue⟩
      · next hlarge =>
          obtain ⟨c, cs, hcs, hc⟩ := ih (value / 10) (by omega) (by omega)
          rw [digits] at hcs
          exact ⟨c, cs ++ [(value % 10).digitChar], by rw [hcs]; rfl, hc⟩

/-- What may follow a value: nothing, a separator, or the end of what the value is part of. -/
def Breaks (rest : List Char) : Prop :=
  ∀ c ∈ rest.head?, c = ',' ∨ c = ']' ∨ c = '}'

theorem Breaks.any_isDigit (h : Breaks rest) : rest.head?.any Char.isDigit = false := by
  cases rest with
  | nil => rfl
  | cons c rest => rcases h c rfl with rfl | rfl | rfl <;> rfl

theorem digitsOf_append (hdigits : ∀ c ∈ cs, c.isDigit) (h : Breaks rest) :
    digitsOf (cs ++ rest) = (cs, rest) := by
  have hnone : digitsOf rest = ([], rest) := by
    cases rest with
    | nil => rfl
    | cons c rest =>
        have hc : c.isDigit = false := by simpa using h.any_isDigit
        simp [digitsOf, hc]
  simp only [digitsOf, Prod.mk.injEq] at hnone ⊢
  rw [List.takeWhile_append_of_pos hdigits, List.dropWhile_append_of_pos hdigits, hnone.1,
    hnone.2, List.append_nil]
  exact ⟨rfl, rfl⟩

theorem wholePart?_digits (value : Nat) (h : Breaks rest) :
    wholePart? (digits value ++ rest) = some (digits value, rest) := by
  by_cases hvalue : value = 0
  · subst hvalue
    simp [digits, wholePart?, h.any_isDigit]
  · obtain ⟨c, cs, hcs, hc⟩ := digits_eq_cons hvalue
    have hdigits : ∀ c ∈ digits value, c.isDigit := fun _ => isDigit_of_mem_digits
    have hsplit := digitsOf_append hdigits h
    rw [hcs] at hsplit ⊢
    unfold wholePart?
    split
    · next heq => exact absurd (List.cons.inj heq).1 hc
    · rw [hsplit]

theorem fraction?_of_breaks (h : Breaks rest) : fraction? rest = some (none, rest) := by
  unfold fraction?
  split
  · exact absurd (h '.' rfl) (by decide)
  · rfl

theorem exponent?_of_breaks (h : Breaks rest) : exponent? rest = some (none, rest) := by
  unfold exponent?
  split
  · exact absurd (h 'e' rfl) (by decide)
  · exact absurd (h 'E' rfl) (by decide)
  · rfl

theorem magnitude?_digits (negative : Bool) (value : Nat) (h : Breaks rest) :
    magnitude? negative (digits value ++ rest) = some (.whole negative value, rest) := by
  simp [magnitude?, wholePart?_digits value h, fraction?_of_breaks h, exponent?_of_breaks h,
    natOfDigits_digits]

theorem next?_eq_numeral? (hc : c = '-' ∨ c.isDigit) (rest : List Char) :
    next? (c :: rest) =
      (numeral? (c :: rest)).map fun (numeral, rest) => (.number numeral, rest) := by
  unfold next?
  split
  case h_11 => rfl
  all_goals
    next heq =>
      obtain ⟨rfl, -⟩ := List.cons.inj heq
      exact absurd hc (by decide)

theorem next?_renderNumeral (negative : Bool) (value : Nat) (h : Breaks rest) :
    next? (renderNumeral (.whole negative value) ++ rest) =
      some (.number (.whole negative value), rest) := by
  cases negative with
  | true =>
      show next? ('-' :: (digits value ++ rest)) = _
      rw [next?_eq_numeral? (.inl rfl), numeral?, magnitude?_digits true value h]
      rfl
  | false =>
      show next? (digits value ++ rest) = _
      have hread := magnitude?_digits false value h
      cases hcs : digits value with
      | nil => exact absurd hcs Nat.toDigits_ne_nil
      | cons c cs =>
          have hmem : c ∈ digits value := by simp [hcs]
          have hc := isDigit_of_mem_digits hmem
          rw [hcs] at hread
          rw [List.cons_append] at hread ⊢
          rw [next?_eq_numeral? (.inr hc), numeral?, hread]
          · rfl
          · intro _ heq
            obtain ⟨rfl, -⟩ := List.cons.inj heq
            exact absurd hc (by decide)

end Token

end ConferenceBridge.Json
