namespace ConferenceBridge

/-! Numbers as they are written, and which of them are too large for a binary64. -/

inductive Numeral
  | whole (negative : Bool) (magnitude : Nat)
  /-- Digits times a power of ten: a point or an exponent was written. -/
  | scaled (negative : Bool) (digits : Nat) (exponent : Int)
  deriving DecidableEq, Repr

namespace Numeral

def ofInt : Int → Numeral
  | .ofNat magnitude => .whole false magnitude
  | .negSucc magnitude => .whole true (magnitude + 1)

def int? : Numeral → Option Int
  | .whole false magnitude => some magnitude
  | .whole true 0 => none
  | .whole true magnitude => some (-magnitude)
  | .scaled .. => none

@[simp] theorem int?_ofInt (value : Int) : (ofInt value).int? = some value := by
  cases value with
  | ofNat magnitude => rfl
  | negSucc magnitude => simp [ofInt, int?, Int.negSucc_eq]

/-- From here on a number rounds to no finite binary64. -/
def overflow : Nat :=
  Nat.pow 2 1024 - Nat.pow 2 970

def decimalLength (value : Nat) : Nat :=
  (Nat.toDigits 10 value).length

def isFinite : Numeral → Bool
  | .whole _ magnitude => magnitude < overflow
  | .scaled _ digits exponent =>
      if digits = 0 then true
      else if 0 ≤ exponent then
        exponent ≤ 400 && digits * Nat.pow 10 exponent.toNat < overflow
      else
        let places := (-exponent).toNat
        decimalLength digits ≤ places || digits < overflow * Nat.pow 10 places

/-! Another reckoning: 64 bits of digits, times a power of ten, each rounded on its own. -/

def gather (value : Nat) : List Char → Nat × Nat
  | [] => (value, 0)
  | digit :: rest =>
      let next := value * 10 + (digit.toNat - '0'.toNat)
      if next < UInt64.size then gather next rest else (value, rest.length + 1)

/-- The nearest number of at most 53 bits, and of two the even one. -/
def nearest (value : Nat) : Nat :=
  let unit := Nat.pow 2 (value.log2 - 52)
  let below := value / unit
  let beyond := 2 * (value % unit)
  if beyond < unit || (beyond == unit && below % 2 == 0) then below * unit
  else (below + 1) * unit

def scaledInRange (digits : Nat) (exponent : Int) : Bool :=
  digits == 0 || exponent < 0 ||
    (exponent ≤ 308 && nearest digits * nearest (Nat.pow 10 exponent.toNat) < overflow)

def inRange : Numeral → Bool
  | .whole _ magnitude =>
      let (digits, left) := gather 0 (Nat.toDigits 10 magnitude)
      scaledInRange digits left
  | .scaled _ digits exponent => scaledInRange digits exponent

theorem gather_lt {value : Nat} (h : value < UInt64.size) (digits : List Char) :
    (gather value digits).1 < UInt64.size := by
  induction digits generalizing value with
  | nil => exact h
  | cons digit rest ih =>
      simp only [gather]
      split
      · exact ih (by assumption)
      · exact h

end Numeral

end ConferenceBridge
