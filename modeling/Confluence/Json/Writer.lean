import Confluence.Json.Basic

/-!
# Writing JSON

The compact text of a value: no space between its parts, fields in their order, and only quotes,
backslashes and control characters escaped. An exponent is written with its sign.
-/

namespace Confluence.Json

/-- The two characters of an escape by letter. -/
def letterEscape? (c : Char) : Option Char :=
  if c = '\x22' then some '\x22'
  else if c = '\\' then some '\\'
  else if c = '\x08' then some 'b'
  else if c = '\x0c' then some 'f'
  else if c = '\n' then some 'n'
  else if c = '\r' then some 'r'
  else if c = '\t' then some 't'
  else none

/-- A hexadecimal digit in lower case. -/
def hexDigit (n : Nat) : Char := if n < 10 then Char.ofNat (48 + n) else Char.ofNat (87 + n)

/-- One character of a string. -/
def writeChar (c : Char) : List Char :=
  match letterEscape? c with
  | some e => ['\\', e]
  | none =>
    if c.toNat < 0x20 then
      ['\\', 'u', '0', '0', hexDigit (c.toNat / 16), hexDigit (c.toNat % 16)]
    else [c]

def writeString (s : String) : List Char :=
  '\x22' :: s.toList.flatMap writeChar ++ ['\x22']

def writeNumeral (n : Numeral) : List Char :=
  (if n.negative then ['-'] else []) ++ n.whole ++
    (if n.fraction = [] then [] else '.' :: n.fraction) ++
    match n.exponent with
    | none => []
    | some (negative, ds) => 'e' :: (if negative then '-' else '+') :: ds

mutual

def write : Json → List Char
  | .null => ['n', 'u', 'l', 'l']
  | .bool true => ['t', 'r', 'u', 'e']
  | .bool false => ['f', 'a', 'l', 's', 'e']
  | .integer n => Digits.ofInt n
  | .real n => writeNumeral n
  | .string s => writeString s
  | .array items => '[' :: writeItems items
  | .object fields => '\x7b' :: writeFields fields

/-- Items with commas between them, and the closing bracket. -/
def writeItems : List Json → List Char
  | [] => [']']
  | [v] => write v ++ [']']
  | v :: vs => write v ++ ',' :: writeItems vs

/-- Fields with commas between them, and the closing brace. -/
def writeFields : List (String × Json) → List Char
  | [] => ['\x7d']
  | [(k, v)] => writeString k ++ ':' :: write v ++ ['\x7d']
  | (k, v) :: r => writeString k ++ ':' :: write v ++ ',' :: writeFields r

end

/-- The text of a value. -/
def text (j : Json) : String := String.ofList j.write

end Confluence.Json
