import Sift.Double

/-!
# Shortest decimal digits

The digits of a positive finite double are the fewest that read back as it and,
of those, the nearest to it. `Decimal.Style` says how a number format writes
them: where positional text ends and what the exponent looks like.
-/
namespace Sift

/-- `digits × 10 ^ exponent`. -/
structure Decimal where
  digits : Nat
  exponent : Int
deriving DecidableEq

namespace Decimal

/-- Which of two equally near decimals is taken. -/
inductive Tie where
  | even
  | up

/-- The reals that round to a double, in units of a quarter of its last place: the number itself,
the ends of the interval, and whether the ends belong to it. -/
structure Interval where
  value : Nat
  low : Nat
  high : Nat
  closed : Bool

/-- The interval of a finite magnitude. Below a power of two the lower half is half as wide. -/
def Interval.of (magnitude : Nat) : Interval :=
  let m := Precision.double.significand magnitude
  let narrow := m = Nat.pow 2 52 ∧ Nat.pow 2 53 ≤ magnitude
  ⟨4 * m, if narrow then 4 * m - 1 else 4 * m - 2, 4 * m + 2, m % 2 = 0⟩

/-- Whether `num / den` lies in the interval. -/
def Interval.holds (i : Interval) (num den : Nat) : Bool :=
  if i.closed then decide (i.low * den ≤ num ∧ num ≤ i.high * den)
  else decide (i.low * den < num ∧ num < i.high * den)

/-- The number of decimal digits, one for 0. -/
def width (n : Nat) : Nat := (Nat.toDigits 10 n).length

/-- The multiple of `10 ^ g` next to the value that lies in the interval, the nearer of two. The
unit of the interval is `2 ^ q`. -/
def onGrid (tie : Tie) (i : Interval) (q g : Int) : Option Nat :=
  let unitNum := Nat.pow 2 q.toNat * Nat.pow 10 (-g).toNat
  let unitDen := Nat.pow 2 (-q).toNat * Nat.pow 10 g.toNat
  let num := i.value * unitNum
  let down := num / unitDen
  let rest := num % unitDen
  let hit (n : Nat) : Bool := i.holds (n * unitDen) unitNum
  if rest = 0 then some down
  else
    match hit down, hit (down + 1) with
    | false, false => none
    | true, false => some down
    | false, true => some (down + 1)
    | true, true =>
      if 2 * rest < unitDen then some down
      else if unitDen < 2 * rest then some (down + 1)
      else match tie with
        | .up => some (down + 1)
        | .even => some (if down % 2 = 0 then down else down + 1)

/-- Digits without trailing zeros, at most `fuel` of which are dropped. -/
def trimZeros : Nat → Decimal → Decimal
  | 0, d => d
  | fuel + 1, d =>
    if d.digits ≠ 0 ∧ d.digits % 10 = 0 then trimZeros fuel ⟨d.digits / 10, d.exponent + 1⟩ else d

/-- The decimal exponent of the leading digit of a positive ratio. -/
def leading (num den : Nat) : Int :=
  if den ≤ num then (width (num / den) : Int) - 1
  else
    let k := width (den / num)
    if den ≤ num * Nat.pow 10 (k - 1) then -((k : Int) - 1) else -(k : Int)

/-- The shortest decimal of a finite magnitude. -/
def shortest (tie : Tie) (magnitude : Nat) : Decimal :=
  if magnitude = 0 then ⟨0, 0⟩
  else
    let i := Interval.of magnitude
    let q := Precision.double.exponent magnitude - 2
    let (a, b) := Precision.double.ratio magnitude
    let top := leading a b
    let grids := (List.range 17).map fun (n : Nat) => top - (n : Int)
    match grids.findSome? fun g => (onGrid tie i q g).map fun n => Decimal.mk n g with
    | some d => trimZeros 20 d
    | none => ⟨a / b, 0⟩

/-- How a format writes decimals. -/
structure Style where
  tie : Tie
  /-- The least and the greatest exponent of a leading digit that is written positionally. -/
  positional : Int × Int
  /-- Whether a positive exponent has a sign. -/
  plus : Bool

/-- A decimal in a given style. Positional text of an integer ends in `.0`. -/
def Style.write (s : Style) (d : Decimal) : String :=
  let ds := Nat.toDigits 10 d.digits
  let top : Int := d.exponent + ds.length - 1
  if d.digits = 0 then "0.0"
  else if s.positional.1 ≤ top ∧ top ≤ s.positional.2 then
    if 0 ≤ d.exponent then
      String.ofList (ds ++ List.replicate d.exponent.toNat '0') ++ ".0"
    else if 0 ≤ top then
      String.ofList (ds.take (top.toNat + 1)) ++ "." ++ String.ofList (ds.drop (top.toNat + 1))
    else "0." ++ String.ofList (List.replicate (-top - 1).toNat '0' ++ ds)
  else
    let fraction := ds.drop 1
    String.ofList (ds.take 1)
      ++ (if fraction.isEmpty then "" else "." ++ String.ofList fraction)
      ++ "e" ++ (if s.plus ∧ 0 ≤ top then "+" else "") ++ toString top

end Decimal

/-- A finite double in a given style. -/
def Double.write (s : Decimal.Style) (x : Double) : String :=
  (if x.negative then "-" else "") ++ s.write (Decimal.shortest s.tie x.magnitude)

end Sift
