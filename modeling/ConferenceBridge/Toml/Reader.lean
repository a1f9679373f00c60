namespace ConferenceBridge.Toml

/-! Readers of characters, and the characters of TOML. -/

abbrev Reader := StateT (List Char) Option

namespace Reader

def peek? : Reader (Option Char) := do
  return (← get).head?

def satisfy (p : Char → Bool) : Reader Char
  | [] => none
  | c :: cs => if p c then some (c, cs) else none

def char (c : Char) : Reader Unit := do
  discard (satisfy (· == c))

def run (p : Char → Bool) : Reader (List Char) := fun cs =>
  some (cs.takeWhile p, cs.dropWhile p)

def optional (reader : Reader α) : Reader (Option α) :=
  (some <$> reader) <|> pure none

end Reader

def isBlank (c : Char) : Bool :=
  c = ' ' || c = '\t'

/-- What may stand in comments, and in texts if it is no mark there. -/
def isPrintable (c : Char) : Bool :=
  c = '\t' || (0x20 ≤ c.toNat && c.toNat ≠ 0x7f)

def skipBlanks : Reader Unit := do
  discard (Reader.run isBlank)

def newline : Reader Unit
  | '\n' :: rest => some ((), rest)
  | '\r' :: '\n' :: rest => some ((), rest)
  | _ => none

def comment : Reader Unit := do
  Reader.char '#'
  discard (Reader.run isPrintable)

def skipGap : Reader Unit := fun cs =>
  (rest false cs).map ((), ·)
where
  rest (inComment : Bool) : List Char → Option (List Char)
    | [] => some []
    | '\n' :: cs => rest false cs
    | '\r' :: '\n' :: cs => rest false cs
    | c :: cs =>
        if inComment then if isPrintable c then rest true cs else none
        else if isBlank c then rest false cs
        else if c = '#' then rest true cs
        else some (c :: cs)

end ConferenceBridge.Toml
