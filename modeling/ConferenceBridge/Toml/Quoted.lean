import ConferenceBridge.Toml.Reader

namespace ConferenceBridge.Toml

/-! Texts in quotes: with escapes or without, on one line or on several. -/

def hexValue? (c : Char) : Option Nat :=
  if '0' ≤ c ∧ c ≤ '9' then some (c.toNat - '0'.toNat)
  else if 'a' ≤ c ∧ c ≤ 'f' then some (c.toNat - 'a'.toNat + 10)
  else if 'A' ≤ c ∧ c ≤ 'F' then some (c.toNat - 'A'.toNat + 10)
  else none

def charOfHex? (digits : List Char) : Option Char := do
  let number ← digits.foldlM (fun total c => (16 * total + ·) <$> hexValue? c) 0
  if h : number.isValidChar then some (Char.ofNatAux number h) else none

def unescape? : Char → Option Char
  | 'b' => some '\x08'
  | 't' => some '\t'
  | 'n' => some '\n'
  | 'f' => some '\x0c'
  | 'r' => some '\r'
  | '"' => some '"'
  | '\\' => some '\\'
  | _ => none

abbrev Piece := Option (List Char × List Char)

def Piece.cons (c : Char) (piece : Piece) : Piece :=
  piece.map fun (text, rest) => (c :: text, rest)

def basic : List Char → Piece
  | '"' :: rest => some ([], rest)
  | '\\' :: 'u' :: a :: b :: c :: d :: rest => do
      Piece.cons (← charOfHex? [a, b, c, d]) (basic rest)
  | '\\' :: 'U' :: a :: b :: c :: d :: e :: f :: g :: h :: rest => do
      Piece.cons (← charOfHex? [a, b, c, d, e, f, g, h]) (basic rest)
  | '\\' :: c :: rest => do Piece.cons (← unescape? c) (basic rest)
  | c :: rest => if isPrintable c ∧ c ≠ '\\' then Piece.cons c (basic rest) else none
  | [] => none

def literal : List Char → Piece
  | '\x27' :: rest => some ([], rest)
  | c :: rest => if isPrintable c then Piece.cons c (literal rest) else none
  | [] => none

/-- Up to two quotes may stand directly before the three that close a text. -/
def closing (quote : Char) : List Char → List Char × List Char
  | first :: second :: rest =>
      if first = quote ∧ second = quote then ([quote, quote], rest)
      else if first = quote then ([quote], second :: rest)
      else ([], first :: second :: rest)
  | [first] => if first = quote then ([quote], []) else ([], [first])
  | [] => ([], [])

/-- Where a reader of several lines is after a backslash at the end of a line. -/
inductive Continuation
  | none
  | sameLine
  | nextLine

def multiLineBasic : Continuation → List Char → Piece
  | .sameLine, '\n' :: rest => multiLineBasic .nextLine rest
  | .sameLine, '\r' :: '\n' :: rest => multiLineBasic .nextLine rest
  | .sameLine, c :: rest => if isBlank c then multiLineBasic .sameLine rest else .none
  | .nextLine, '\n' :: rest => multiLineBasic .nextLine rest
  | .nextLine, '\r' :: '\n' :: rest => multiLineBasic .nextLine rest
  | .nextLine, ' ' :: rest => multiLineBasic .nextLine rest
  | .nextLine, '\t' :: rest => multiLineBasic .nextLine rest
  | _, '"' :: '"' :: '"' :: rest => some (closing '"' rest)
  | _, '\n' :: rest => Piece.cons '\n' (multiLineBasic .none rest)
  | _, '\r' :: '\n' :: rest => Piece.cons '\n' (multiLineBasic .none rest)
  | _, '\\' :: 'u' :: a :: b :: c :: d :: rest => do
      Piece.cons (← charOfHex? [a, b, c, d]) (multiLineBasic .none rest)
  | _, '\\' :: 'U' :: a :: b :: c :: d :: e :: f :: g :: h :: rest => do
      Piece.cons (← charOfHex? [a, b, c, d, e, f, g, h]) (multiLineBasic .none rest)
  | _, '\\' :: c :: rest =>
      match unescape? c with
      | some c => Piece.cons c (multiLineBasic .none rest)
      | none =>
          if c = '\n' then multiLineBasic .nextLine rest
          else if isBlank c ∨ c = '\r' then multiLineBasic .sameLine (c :: rest)
          else .none
  | _, c :: rest =>
      if isPrintable c ∧ c ≠ '\\' then Piece.cons c (multiLineBasic .none rest) else .none
  | _, [] => .none

def multiLineLiteral : List Char → Piece
  | '\x27' :: '\x27' :: '\x27' :: rest => some (closing '\x27' rest)
  | '\n' :: rest => Piece.cons '\n' (multiLineLiteral rest)
  | '\r' :: '\n' :: rest => Piece.cons '\n' (multiLineLiteral rest)
  | c :: rest => if isPrintable c then Piece.cons c (multiLineLiteral rest) else none
  | [] => none

def dropNewline : List Char → List Char
  | '\n' :: rest => rest
  | '\r' :: '\n' :: rest => rest
  | cs => cs

def oneLine : Reader String
  | '"' :: rest => (basic rest).map fun (text, rest) => (String.ofList text, rest)
  | '\x27' :: rest => (literal rest).map fun (text, rest) => (String.ofList text, rest)
  | _ => none

def quoted : Reader String
  | '"' :: '"' :: '"' :: rest =>
      (multiLineBasic .none (dropNewline rest)).map fun (text, rest) => (String.ofList text, rest)
  | '\x27' :: '\x27' :: '\x27' :: rest =>
      (multiLineLiteral (dropNewline rest)).map fun (text, rest) => (String.ofList text, rest)
  | cs => oneLine cs

end ConferenceBridge.Toml
