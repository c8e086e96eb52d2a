import Sift.Calendar

/-!
# Reading dates and timestamps

Dates are year, month and day joined by hyphens; timestamps follow RFC 3339.
-/
namespace Sift

namespace Calendar

/-- A number of at least one and at most `most` digits, and what follows it. -/
def digits? (most : Nat) (cs : List Char) : Option (Nat × List Char) :=
  let ds := (cs.take most).takeWhile Char.isDigit
  if ds.isEmpty then none
  else some (ds.foldl (fun n c => n * 10 + (c.toNat - '0'.toNat)) 0, cs.drop ds.length)

/-- A number of exactly `width` digits, and what follows it. -/
def field? (width : Nat) (cs : List Char) : Option (Nat × List Char) :=
  if ((cs.take width).filter Char.isDigit).length = width then digits? width cs else none

/-- What follows a given character. -/
def after? (c : Char) : List Char → Option (List Char)
  | d :: rest => if c = d then some rest else none
  | [] => none

/-- A year of any width after a sign, else of at most four digits. -/
def year? (cs : List Char) : Option (Int × List Char) :=
  match cs with
  | '-' :: rest => (digits? rest.length rest).map fun (n, r) => (-(n : Int), r)
  | '+' :: rest => (digits? rest.length rest).map fun (n, r) => ((n : Int), r)
  | _ => (digits? 4 cs).map fun (n, r) => ((n : Int), r)

/-- Nanoseconds after the decimal point; digits beyond the ninth are dropped. -/
def fraction? (cs : List Char) : Option (Nat × List Char) :=
  let ds := cs.takeWhile Char.isDigit
  (digits? 9 cs).map fun (n, _) => (n * Nat.pow 10 (9 - min 9 ds.length), cs.drop ds.length)

/-- An offset from UTC in seconds: `Z` or a sign, hours and minutes. -/
def offset? (cs : List Char) : Option (Int × List Char) :=
  let hoursAndMinutes (sign : Int) (cs : List Char) : Option (Int × List Char) := do
    let (h, cs) ← field? 2 cs
    let cs ← after? ':' cs
    let (m, cs) ← field? 2 cs
    if 23 < h ∨ 59 < m then none else some (sign * (h * 3600 + m * 60 : Nat), cs)
  match cs with
  | 'Z' :: rest | 'z' :: rest => some (0, rest)
  | '+' :: rest => hoursAndMinutes 1 rest
  | '-' :: rest | '\u2212' :: rest => hoursAndMinutes (-1) rest
  | _ => none

end Calendar

open Calendar

/-- Reads year, month and day joined by hyphens. White space may precede each number, and month
and day may have one digit. -/
def Date.parse? (s : String) : Option Date := do
  let (y, cs) ← year? (s.toList.dropWhile isBlank)
  let cs ← after? '-' cs
  let (m, cs) ← digits? 2 (cs.dropWhile isBlank)
  let cs ← after? '-' cs
  let (d, cs) ← digits? 2 (cs.dropWhile isBlank)
  if cs.isEmpty then ofCivil? y m d else none

/-- Reads RFC 3339 text. `T`, `t` or a space stands before the time, and an offset is required. -/
def Timestamp.parse? (s : String) : Option Timestamp := do
  let (y, cs) ← field? 4 s.toList
  let cs ← after? '-' cs
  let (mo, cs) ← field? 2 cs
  let cs ← after? '-' cs
  let (d, cs) ← field? 2 cs
  let date ← Date.ofCivil? y mo d
  let cs ←
    match cs with
    | 'T' :: rest | 't' :: rest | ' ' :: rest => some rest
    | _ => none
  let (h, cs) ← field? 2 cs
  let cs ← after? ':' cs
  let (mi, cs) ← field? 2 cs
  let cs ← after? ':' cs
  let (sec, cs) ← field? 2 cs
  if 23 < h ∨ 59 < mi ∨ 60 < sec then none
  let (nano, cs) ←
    match cs with
    | '.' :: rest => fraction? rest
    | _ => some (0, cs)
  let (offset, cs) ← offset? cs
  if !cs.isEmpty then none
  let leap := if sec = 60 then 1 else 0
  let second : Int := date.day * 86400 + (h * 3600 + mi * 60 + (sec - leap) : Nat)
  ofSecond? (second - offset) (nano + leap * 1000000000)

end Sift
