namespace ConferenceBridge

/-! Names of conferences, telephones and accounts. -/

structure ConferenceId where
  digits : List (Fin 16)
  length_digits : digits.length = 32 := by decide
  deriving DecidableEq, Repr

namespace ConferenceId

def nil : ConferenceId :=
  ⟨List.replicate 32 0, by simp⟩

def digitOf (number : Nat) : Fin 16 :=
  Fin.ofNat 16 number

def hexDigit (digit : Fin 16) : Char :=
  if digit.val < 10 then Char.ofNat ('0'.toNat + digit.val)
  else Char.ofNat ('a'.toNat + (digit.val - 10))

def ofHexDigit? (c : Char) : Option (Fin 16) :=
  if '0' ≤ c ∧ c ≤ '9' then some (digitOf (c.toNat - '0'.toNat))
  else if 'a' ≤ c ∧ c ≤ 'f' then some (digitOf (c.toNat - 'a'.toNat + 10))
  else if 'A' ≤ c ∧ c ≤ 'F' then some (digitOf (c.toNat - 'A'.toNat + 10))
  else none

def ofDigits? (digits : List (Fin 16)) : Option ConferenceId :=
  if h : digits.length = 32 then some ⟨digits, h⟩ else none

def hyphenated (id : ConferenceId) : List Char :=
  let cs := id.digits.map hexDigit
  cs.take 8 ++ '-' :: (cs.drop 8).take 4 ++ '-' :: (cs.drop 12).take 4 ++
    '-' :: (cs.drop 16).take 4 ++ '-' :: cs.drop 20

def uuid (id : ConferenceId) : String :=
  String.ofList id.hyphenated

def display (id : ConferenceId) : String :=
  s!"konferenz:{id.uuid}"

def ofSimple? (cs : List Char) : Option ConferenceId := do
  let digits ← cs.mapM ofHexDigit?
  ofDigits? digits

def ofHyphenated? (cs : List Char) : Option ConferenceId :=
  if cs.length = 36 ∧ [8, 13, 18, 23].all (fun place => cs[place]? == some '-') then
    ofSimple? (cs.take 8 ++ (cs.drop 9).take 4 ++ (cs.drop 14).take 4 ++ (cs.drop 19).take 4 ++
      cs.drop 24)
  else none

def urnStart : List Char :=
  "urn:uuid:".toList

/-- Bare, in braces or as a URN the digits are grouped; without groups they stand alone. -/
def ofUuid? (text : String) : Option ConferenceId :=
  let cs := text.toList
  if (cs.take urnStart.length).map Char.toLower = urnStart then
    ofHyphenated? (cs.drop urnStart.length)
  else
    match cs with
    | '{' :: cs => if cs.getLast? = some '}' then ofHyphenated? cs.dropLast else none
    | cs => if cs.length = 32 then ofSimple? cs else ofHyphenated? cs

def ofRandom (random : Nat → Fin 16) : ConferenceId :=
  ⟨(List.range 32).map fun place =>
    if place = 12 then 4
    else if place = 16 then digitOf (8 + (random place).val % 4)
    else random place, by simp⟩

def version (id : ConferenceId) : Fin 16 :=
  id.digits.get ⟨12, by simp [id.length_digits]⟩

@[simp] theorem version_ofRandom (random : Nat → Fin 16) : (ofRandom random).version = 4 := by
  simp [version, ofRandom]

end ConferenceId

structure PhoneId where
  number : UInt32
  deriving DecidableEq, Repr

namespace PhoneId

def next (phone : PhoneId) : PhoneId :=
  ⟨phone.number + 1⟩

def display (phone : PhoneId) : String :=
  s!"telefon:{phone.number.toNat}"

end PhoneId

structure AccountHandle where
  component : String
  id : String
  deriving DecidableEq, Repr

namespace AccountHandle

def forPhone (phone : PhoneId) : AccountHandle where
  component := "callbridge.telefonie"
  id := toString phone.number.toNat

def display (account : AccountHandle) : String :=
  s!"{account.component}/{account.id}"

end AccountHandle

end ConferenceBridge
