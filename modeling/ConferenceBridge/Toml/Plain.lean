import ConferenceBridge.Json.Value
import ConferenceBridge.Toml.Reader

namespace ConferenceBridge.Toml

/-! Values that are written without quotes or brackets: truth values, numbers and dates. -/

def isDigitOf (base : Nat) (c : Char) : Bool :=
  if base ≤ 10 then '0' ≤ c && c.toNat < '0'.toNat + base
  else c.isDigit || ('a' ≤ c && c ≤ 'f') || ('A' ≤ c && c ≤ 'F')

def digitValue (c : Char) : Nat :=
  if c.isDigit then c.toNat - '0'.toNat
  else if 'a' ≤ c then c.toNat - 'a'.toNat + 10
  else c.toNat - 'A'.toNat + 10

def digits? (base : Nat) : List Char → Option (List Char)
  | [] => none
  | [c] => if isDigitOf base c then some [c] else none
  | c :: '_' :: rest => if isDigitOf base c then (digits? base rest).map (c :: ·) else none
  | c :: rest => if isDigitOf base c then (digits? base rest).map (c :: ·) else none

def valueOf (base : Nat) (digits : List Char) : Nat :=
  digits.foldl (fun total c => total * base + digitValue c) 0

def splitSign : List Char → Bool × List Char
  | '-' :: rest => (true, rest)
  | '+' :: rest => (false, rest)
  | cs => (false, cs)

def decimal? (cs : List Char) : Option Nat := do
  let digits ← digits? 10 cs
  if digits.head? = some '0' ∧ digits.length ≠ 1 then none else some (valueOf 10 digits)

def within64? (value : Int) : Option Json :=
  if Int64.minValue.toInt ≤ value ∧ value ≤ Int64.maxValue.toInt then some (.ofInt value)
  else none

def integer? : List Char → Option Json
  | '0' :: 'x' :: rest => digits? 16 rest >>= fun digits => within64? (valueOf 16 digits)
  | '0' :: 'o' :: rest => digits? 8 rest >>= fun digits => within64? (valueOf 8 digits)
  | '0' :: 'b' :: rest => digits? 2 rest >>= fun digits => within64? (valueOf 2 digits)
  | cs => do
      let (negative, cs) := splitSign cs
      let magnitude ← decimal? cs
      within64? (if negative then -magnitude else magnitude)

def exponent? : List Char → Option Int
  | [] => some 0
  | c :: rest => do
      if c ≠ 'e' ∧ c ≠ 'E' then none
      let (negative, rest) := splitSign rest
      let digits ← digits? 10 rest
      return if negative then -(valueOf 10 digits : Int) else valueOf 10 digits

/-- A number with a point or an exponent, or both. One that is too large for a binary64 is refused
unless it is negative. -/
def float? (cs : List Char) : Option Json := do
  let (negative, cs) := splitSign cs
  if cs = ['i', 'n', 'f'] ∨ cs = ['n', 'a', 'n'] then return .number (.scaled negative 0 0)
  let isPart := fun c : Char => c.isDigit || c = '_'
  let whole ← decimal? (cs.takeWhile isPart)
  let rest := cs.dropWhile isPart
  match rest with
  | [] => none
  | '.' :: rest =>
      let places ← digits? 10 (rest.takeWhile isPart)
      let exponent ← exponent? (rest.dropWhile isPart)
      close negative (whole * Nat.pow 10 places.length + valueOf 10 places)
        (exponent - places.length)
  | rest => close negative whole (← exponent? rest)
where
  close (negative : Bool) (digits : Nat) (exponent : Int) : Option Json :=
    let numeral := Numeral.scaled negative digits exponent
    if negative ∨ numeral.isFinite then some (.number numeral) else none

/-! Dates and times. -/

def twoDigits? : List Char → Option (Nat × List Char)
  | a :: b :: rest => if a.isDigit ∧ b.isDigit then some (valueOf 10 [a, b], rest) else none
  | _ => none

def daysIn (year month : Nat) : Nat :=
  if month = 2 then if year % 4 = 0 ∧ (year % 100 ≠ 0 ∨ year % 400 = 0) then 29 else 28
  else if month ∈ [4, 6, 9, 11] then 30
  else 31

def date? (cs : List Char) : Option (List Char) := do
  let (century, cs) ← twoDigits? cs
  let (year, cs) ← twoDigits? cs
  let '-' :: cs := cs | none
  let (month, cs) ← twoDigits? cs
  let '-' :: cs := cs | none
  let (day, cs) ← twoDigits? cs
  if 1 ≤ month ∧ month ≤ 12 ∧ 1 ≤ day ∧ day ≤ daysIn (100 * century + year) month then some cs
  else none

def hourAndMinute? (cs : List Char) : Option (List Char) := do
  let (hour, cs) ← twoDigits? cs
  let ':' :: cs := cs | none
  let (minute, cs) ← twoDigits? cs
  if hour < 24 ∧ minute < 60 then some cs else none

/-- What follows a time of the day. A minute may have a leap second. -/
def time? (cs : List Char) : Option (List Char) := do
  let ':' :: cs ← hourAndMinute? cs | none
  let (second, cs) ← twoDigits? cs
  if 60 < second then none
  match cs with
  | '.' :: cs => if (cs.head?).any Char.isDigit then some (cs.dropWhile Char.isDigit) else none
  | cs => some cs

def isOffset : List Char → Bool
  | [] | ['Z'] | ['z'] => true
  | '+' :: cs | '-' :: cs => hourAndMinute? cs == some []
  | _ => false

def isTimeWithOffset (cs : List Char) : Bool :=
  (time? cs).any isOffset

def isDateTime (cs : List Char) : Bool :=
  time? cs == some [] ||
    match date? cs with
    | some [] => true
    | some ('T' :: cs) | some ('t' :: cs) => isTimeWithOffset cs
    | _ => false

/-- A point in time. No setting is one, so it only has to be told apart from all other values. -/
def dateTime : Json :=
  .object [("$date-time", .null)]

def isWordChar (c : Char) : Bool :=
  c.isAlphanum || c = '_' || c = '+' || c = '-' || c = '.' || c = ':'

def word? (cs : List Char) : Option Json :=
  if cs = ['t', 'r', 'u', 'e'] then some (.bool true)
  else if cs = ['f', 'a', 'l', 's', 'e'] then some (.bool false)
  else if isDateTime cs then some dateTime
  else integer? cs <|> float? cs

def plain : Reader Json := do
  let word ← Reader.run isWordChar
  let rest ← get
  let second := (rest.drop 1).takeWhile isWordChar
  if date? word = some [] ∧ rest.head? = some ' ' ∧ !second.isEmpty then
    if isTimeWithOffset second then
      set ((rest.drop 1).dropWhile isWordChar)
      return dateTime
    else failure
  else StateT.lift (word? word)

end ConferenceBridge.Toml
