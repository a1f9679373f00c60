import ConferenceBridge.Json.Value

namespace ConferenceBridge.Json

/-! The shortest written form: no blanks, and only what must be escaped is. -/

def hexDigit (value : Nat) : Char :=
  if value < 10 then Char.ofNat ('0'.toNat + value) else Char.ofNat ('a'.toNat + (value - 10))

def escape (c : Char) : List Char :=
  if c = '"' then ['\\', '"']
  else if c = '\\' then ['\\', '\\']
  else if c = '\x08' then ['\\', 'b']
  else if c = '\x0c' then ['\\', 'f']
  else if c = '\n' then ['\\', 'n']
  else if c = '\r' then ['\\', 'r']
  else if c = '\t' then ['\\', 't']
  else if c.toNat < 0x20 then
    ['\\', 'u', '0', '0', hexDigit (c.toNat / 16), hexDigit (c.toNat % 16)]
  else [c]

def quote (text : String) : List Char :=
  '"' :: (text.toList.flatMap escape ++ ['"'])

def digits (value : Nat) : List Char :=
  Nat.toDigits 10 value

def signed (negative : Bool) (cs : List Char) : List Char :=
  if negative then '-' :: cs else cs

def renderNumeral : Numeral → List Char
  | .whole negative magnitude => signed negative (digits magnitude)
  | .scaled negative value exponent =>
      signed negative (digits value) ++ 'e' :: signed (exponent < 0) (digits exponent.natAbs)

mutual

def render : Json → List Char
  | .null => ['n', 'u', 'l', 'l']
  | .bool true => ['t', 'r', 'u', 'e']
  | .bool false => ['f', 'a', 'l', 's', 'e']
  | .number numeral => renderNumeral numeral
  | .text value => quote value
  | .brokenText | .nameless => ['"', '\\', 'u', 'd', '8', '0', '0', '"']
  | .array items => '[' :: (renderItems items ++ [']'])
  | .object members => '{' :: (renderMembers members ++ ['}'])

def renderItems : List Json → List Char
  | [] => []
  | [item] => item.render
  | item :: rest => item.render ++ ',' :: renderItems rest

def renderMembers : List (String × Json) → List Char
  | [] => []
  | [(key, value)] => quote key ++ ':' :: value.render
  | (key, value) :: rest => quote key ++ ':' :: (value.render ++ ',' :: renderMembers rest)

end

def print (value : Json) : String :=
  String.ofList value.render

end ConferenceBridge.Json
