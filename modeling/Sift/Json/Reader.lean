import Sift.Json
import Sift.Text.Character

/-!
# Reading JSON text

A strict reader of the grammar of RFC 8259: one document, blanks around tokens, at
most 127 levels of nesting. Of a repeated key the last value counts. A decimal
literal is read as a 64-bit significand, further digits dropped, and scaled by powers
of ten with one rounding a step.
-/
namespace Sift.Json

/-- The four characters that may stand between tokens. -/
def isBlank (c : Char) : Bool := c = ' ' || c = '\n' || c = '\t' || c = '\r'

def skipBlanks (cs : List Char) : List Char := cs.dropWhile isBlank

/-- The number of four hexadecimal digits. -/
def unit? (a b c d : Char) : Option Nat := do
  let a ← hexDigit? a
  let b ← hexDigit? b
  let c ← hexDigit? c
  let d ← hexDigit? d
  return ((a * 16 + b) * 16 + c) * 16 + d

/-- The character of an escape of one letter. -/
def simpleEscape? (c : Char) : Option Char :=
  if c = '\x22' ∨ c = '\\' ∨ c = '/' then some c
  else if c = 'b' then some '\x08'
  else if c = 'f' then some '\x0c'
  else if c = 'n' then some '\n'
  else if c = 'r' then some '\r'
  else if c = 't' then some '\t'
  else none

/-- The rest of a string literal after its opening quote, and what follows it. Escaped surrogates
come in pairs. -/
def string? : List Char → Option (List Char × List Char)
  | [] => none
  | '\\' :: 'u' :: a :: b :: c :: d :: rest =>
    match unit? a b c d with
    | none => none
    | some n =>
      if n < 0xD800 ∨ 0xDFFF < n then
        (string? rest).map fun (s, r) => (Char.ofNat n :: s, r)
      else if 0xDBFF < n then none
      else
        match rest with
        | '\\' :: 'u' :: e :: f :: g :: h :: rest =>
          match unit? e f g h with
          | none => none
          | some m =>
            if m < 0xDC00 ∨ 0xDFFF < m then none
            else
              (string? rest).map fun (s, r) =>
                (Char.ofNat (0x10000 + (n - 0xD800) * 0x400 + (m - 0xDC00)) :: s, r)
        | _ => none
  | '\\' :: c :: rest =>
    match simpleEscape? c with
    | none => none
    | some e => (string? rest).map fun (s, r) => (e :: s, r)
  | c :: rest =>
    if c = '\x22' then some ([], rest)
    else if c < ' ' ∨ c = '\\' then none
    else (string? rest).map fun (s, r) => (c :: s, r)

/-- The greatest significand a literal is read with. -/
def maxSignificand : Nat := Nat.pow 2 64 - 1

/-- Appends digits to a significand until one does not fit; the count is of the digits appended. -/
def appendDigits : Nat → Nat → List Char → Nat × Nat
  | sig, count, [] => (sig, count)
  | sig, count, c :: cs =>
    let next := sig * 10 + (c.toNat - '0'.toNat)
    if maxSignificand < next then (sig, count) else appendDigits next (count + 1) cs

def digitsValue (cs : List Char) : Nat :=
  cs.foldl (fun n c => n * 10 + (c.toNat - '0'.toNat)) 0

/-- The double nearest to a power of ten. -/
def powerOfTen (n : Nat) : Double := Double.ofRatio false (Nat.pow 10 n) 1

/-- An absolute value scaled by a power of ten, in steps of at most 308 places; `none` beyond the
greatest double. -/
def scaled? (x : Double) (e : Int) : Option Double :=
  if e.natAbs ≤ 308 then
    if 0 ≤ e then
      let y := x.mulAbs (powerOfTen e.natAbs)
      if y.isInfinite then none else some y
    else some (x.divAbs (powerOfTen e.natAbs))
  else if x.magnitude = 0 then some x
  else if 0 ≤ e then none
  else scaled? (x.divAbs (powerOfTen 308)) (e + 308)
termination_by e.natAbs
decreasing_by omega

/-- The exponent part of a literal: none, or a letter, a sign and at least one digit. -/
def exponent? : List Char → Option (Option Int × List Char)
  | c :: cs =>
    if c = 'e' ∨ c = 'E' then
      let (minus, cs) : Bool × List Char :=
        match cs with
        | '+' :: r => (false, r)
        | '-' :: r => (true, r)
        | r => (false, r)
      let ds := cs.takeWhile Char.isDigit
      if ds.isEmpty then none
      else
        let n : Int := digitsValue ds
        some (some (if minus then -n else n), cs.dropWhile Char.isDigit)
    else some (none, c :: cs)
  | [] => some (none, [])

/-- The fraction part of a literal: none, or a point and at least one digit. -/
def fraction? : List Char → Option (Option (List Char) × List Char)
  | '.' :: cs =>
    let ds := cs.takeWhile Char.isDigit
    if ds.isEmpty then none else some (some ds, cs.dropWhile Char.isDigit)
  | cs => some (none, cs)

/-- A number after its sign. An integer literal that fits in 64 bits is an integer, but `-0` is a
float. -/
def number? (minus : Bool) (cs : List Char) : Option (Number × List Char) := do
  let whole := cs.takeWhile Char.isDigit
  if whole.isEmpty ∨ (whole.head? = some '0' ∧ 1 < whole.length) then none
  let (fraction, rest) ← fraction? (cs.dropWhile Char.isDigit)
  let (exponent, rest) ← exponent? rest
  let (sig, taken) := appendDigits 0 0 whole
  if fraction.isNone ∧ exponent.isNone ∧ taken = whole.length then
    if !minus then return (.int sig, rest)
    if 0 < sig ∧ sig ≤ Nat.pow 2 63 then return (.int (-sig), rest)
    return (.float (Double.ofRatio true sig 1), rest)
  let (sig, places) := appendDigits sig 0 (fraction.getD [])
  let e : Int := ((whole.length - taken : Nat) : Int) - places + exponent.getD 0
  let x ← scaled? (Double.ofRatio false sig 1) e
  return (.float (Double.ofMagnitude minus x.magnitude), rest)

mutual

/-- A value inside `depth` free levels of nesting. `fuel` bounds the number of calls. -/
def value? : Nat → Nat → List Char → Option (Json × List Char)
  | 0, _, _ => none
  | fuel + 1, depth, cs =>
    match skipBlanks cs with
    | 'n' :: 'u' :: 'l' :: 'l' :: r => some (.null, r)
    | 't' :: 'r' :: 'u' :: 'e' :: r => some (.bool true, r)
    | 'f' :: 'a' :: 'l' :: 's' :: 'e' :: r => some (.bool false, r)
    | '\x22' :: r => (string? r).map fun (s, r) => (.str (String.ofList s), r)
    | '[' :: r =>
      if depth ≤ 1 then none
      else
        match skipBlanks r with
        | ']' :: r => some (.arr [], r)
        | r => (items? fuel (depth - 1) r).map fun (xs, r) => (.arr xs, r)
    | '\x7b' :: r =>
      if depth ≤ 1 then none
      else
        match skipBlanks r with
        | '\x7d' :: r => some (.obj [], r)
        | r => (fields? fuel (depth - 1) r []).map fun (fs, r) => (.obj fs, r)
    | '-' :: r => (number? true r).map fun (n, r) => (.num n, r)
    | r => (number? false r).map fun (n, r) => (.num n, r)

/-- The items of a nonempty array, and its closing bracket. -/
def items? : Nat → Nat → List Char → Option (List Json × List Char)
  | 0, _, _ => none
  | fuel + 1, depth, cs =>
    match value? fuel depth cs with
    | none => none
    | some (x, r) =>
      match skipBlanks r with
      | ',' :: r => (items? fuel depth r).map fun (xs, r) => (x :: xs, r)
      | ']' :: r => some ([x], r)
      | _ => none

/-- The fields of a nonempty object, and its closing brace. -/
def fields? : Nat → Nat → List Char → List (String × Json) →
    Option (List (String × Json) × List Char)
  | 0, _, _, _ => none
  | fuel + 1, depth, cs, seen =>
    match skipBlanks cs with
    | '\x22' :: r =>
      match string? r with
      | none => none
      | some (key, r) =>
        match skipBlanks r with
        | ':' :: r =>
          match value? fuel depth r with
          | none => none
          | some (x, r) =>
            let seen := setField (String.ofList key) x seen
            match skipBlanks r with
            | ',' :: r => fields? fuel depth r seen
            | '\x7d' :: r => some (seen, r)
            | _ => none
        | _ => none
    | _ => none

end

/-- The levels of nesting that a document may not reach. -/
def maxDepth : Nat := 128

/-- The document that a text holds as RFC 8259 has it, if it holds one and nothing else. -/
def parse? (s : String) : Option Json :=
  let cs := s.toList
  match value? (2 * cs.length + 2) maxDepth cs with
  | some (x, r) => if (skipBlanks r).isEmpty then some x else none
  | none => none

end Sift.Json
