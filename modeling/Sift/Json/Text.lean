import Sift.Json
import Sift.Double.Shortest

/-!
# The text of a JSON document

Compact text in the grammar of RFC 8259: no blanks, keys in their sorted order, and
escapes only for the quote, the backslash and control characters.
-/
namespace Sift.Json

/-- Numbers are positional from 1e-5 up to 1e16, and a positive exponent has its sign. -/
def Number.style : Decimal.Style := ⟨.even, (-5, 15), true⟩

def Number.text : Number → String
  | .int i => toString i
  | .float x => x.write Number.style

/-- The four hexadecimal digits of a control character's escape. -/
def hex4 (n : Nat) : List Char :=
  let ds := Nat.toDigits 16 n
  List.replicate (4 - ds.length) '0' ++ ds

/-- One character of a string literal. -/
def escapeChar (c : Char) : List Char :=
  if c = '\x22' then ['\\', '\x22']
  else if c = '\\' then ['\\', '\\']
  else if c = '\x08' then ['\\', 'b']
  else if c = '\t' then ['\\', 't']
  else if c = '\n' then ['\\', 'n']
  else if c = '\x0c' then ['\\', 'f']
  else if c = '\r' then ['\\', 'r']
  else if c < ' ' then '\\' :: 'u' :: hex4 c.toNat
  else [c]

/-- A string literal with its quotes. -/
def quote (s : String) : String :=
  String.ofList ('\x22' :: s.toList.flatMap escapeChar ++ ['\x22'])

mutual

/-- The compact text. -/
def text : Json → String
  | .null => "null"
  | .bool b => if b then "true" else "false"
  | .num n => n.text
  | .str s => quote s
  | .arr items => "[" ++ ",".intercalate (itemTexts items) ++ "]"
  | .obj fields => "\x7b" ++ ",".intercalate (fieldTexts fields) ++ "\x7d"
termination_by structural x => x

def itemTexts : List Json → List String
  | [] => []
  | x :: xs => text x :: itemTexts xs
termination_by structural x => x

def fieldTexts : List (String × Json) → List String
  | [] => []
  | f :: fs => fieldText f :: fieldTexts fs
termination_by structural x => x

def fieldText : String × Json → String
  | (k, v) => quote k ++ ":" ++ text v
termination_by structural x => x

end

end Sift.Json
