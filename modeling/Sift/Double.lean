/-!
# Double-precision numbers by their bits

A double is its 64 bits. Comparison and rounding are computed on integers: the
63 bits after the sign order the absolute values (`Double.magnitude`), and a
ratio of naturals is rounded to the nearest number of a binary format, ties to
the even neighbour (`Precision.round`).
-/
namespace Sift

/-- The quotient rounded to the nearest natural, a half going to the even neighbour. -/
def roundEven (num den : Nat) : Nat :=
  let q := num / den
  let r := num % den
  if den < 2 * r ∨ (den = 2 * r ∧ q % 2 = 1) then q + 1 else q

/-- A binary format: the number of fraction bits and the exponent of the least positive number. -/
structure Precision where
  fractionBits : Nat
  leastExponent : Int
  /-- The magnitude of infinity; greater magnitudes are not numbers. -/
  infinity : Nat

namespace Precision

/-- The 64-bit format. -/
def double : Precision := ⟨52, -1074, 0x7FF0000000000000⟩

/-- The 32-bit format. -/
def single : Precision := ⟨23, -149, 0x7F800000⟩

/-- The significand of a finite magnitude; the leading bit of a normal number is implicit. -/
def significand (p : Precision) (magnitude : Nat) : Nat :=
  if magnitude < Nat.pow 2 p.fractionBits then magnitude
  else magnitude % Nat.pow 2 p.fractionBits + Nat.pow 2 p.fractionBits

/-- The exponent of the last bit of the significand. -/
def exponent (p : Precision) (magnitude : Nat) : Int :=
  p.leastExponent + ((max (magnitude / Nat.pow 2 p.fractionBits) 1 : Nat) : Int) - 1

/-- `num / den` divided by `2 ^ e`, as a ratio again. -/
def scale (num den : Nat) (e : Int) : Nat × Nat :=
  (num * Nat.pow 2 (-e).toNat, den * Nat.pow 2 e.toNat)

/-- The exponent at which a positive ratio has a full significand, or the least one. -/
def exponentOf (p : Precision) (num den : Nat) : Int :=
  let k : Int := (num.log2 : Int) - den.log2
  let (a, b) := scale num den k
  max p.leastExponent ((if b ≤ a then k else k - 1) - p.fractionBits)

/-- The magnitude nearest to a ratio, infinity if the ratio is out of range. -/
def round (p : Precision) (num den : Nat) : Nat :=
  if num = 0 then 0
  else
    let e := p.exponentOf num den
    let (a, b) := scale num den e
    min p.infinity ((e - p.leastExponent).toNat * Nat.pow 2 p.fractionBits + roundEven a b)

/-- The ratio of naturals that a finite magnitude stands for. -/
def ratio (p : Precision) (magnitude : Nat) : Nat × Nat :=
  scale (p.significand magnitude) 1 (-p.exponent magnitude)

end Precision

/-- A single-precision number, kept as its 32 bits. -/
structure Single where
  bits : BitVec 32
deriving DecidableEq

/-- A double-precision number, kept as its 64 bits. -/
structure Double where
  bits : BitVec 64
deriving DecidableEq

namespace Double

/-- Whether the sign bit is set. -/
def negative (x : Double) : Bool := x.bits.msb

/-- The bits after the sign, which order the absolute values. -/
def magnitude (x : Double) : Nat := x.bits.toNat % Nat.pow 2 63

def isNaN (x : Double) : Bool := decide (Precision.double.infinity < x.magnitude)

def isInfinite (x : Double) : Bool := decide (x.magnitude = Precision.double.infinity)

/-- The number with a given sign and magnitude. -/
def ofMagnitude (negative : Bool) (magnitude : Nat) : Double :=
  ⟨BitVec.ofNat 64 (magnitude + if negative then Nat.pow 2 63 else 0)⟩

/-- The double nearest to a ratio of naturals. -/
def ofRatio (negative : Bool) (num den : Nat) : Double :=
  ofMagnitude negative (Precision.double.round num den)

/-- The double nearest to an integer. -/
def ofInt (i : Int) : Double := ofRatio (i < 0) i.natAbs 1

/-- The place of a number on the line: both zeros are at 0, and greater numbers are further. -/
def place (x : Double) : Int :=
  if x.negative then -(x.magnitude : Int) else x.magnitude

/-- The numeric order, in which both zeros are equal and NaN has no place. -/
def compare? (x y : Double) : Option Ordering :=
  if x.isNaN || y.isNaN then none else some (compare x.place y.place)

/-- The product of two finite absolute values. -/
def mulAbs (x y : Double) : Double :=
  let (a, b) := Precision.double.ratio x.magnitude
  let (c, d) := Precision.double.ratio y.magnitude
  ofRatio false (a * c) (b * d)

/-- The quotient of two finite absolute values, the second not zero. -/
def divAbs (x y : Double) : Double :=
  let (a, b) := Precision.double.ratio x.magnitude
  let (c, d) := Precision.double.ratio y.magnitude
  ofRatio false (a * d) (b * c)

/-- The nearest single-precision number. A NaN keeps its leading payload bits and becomes quiet. -/
def toSingle (x : Double) : Single :=
  let sign := if x.negative then Nat.pow 2 31 else 0
  let magnitude :=
    if x.isNaN then
      Precision.single.infinity + (x.magnitude % Nat.pow 2 52 / Nat.pow 2 29 ||| Nat.pow 2 22)
    else if x.isInfinite then Precision.single.infinity
    else
      let (a, b) := Precision.double.ratio x.magnitude
      Precision.single.round a b
  ⟨BitVec.ofNat 32 (magnitude + sign)⟩

/-- The double equal to a single. A NaN keeps its payload bits and becomes quiet. -/
def ofSingle (x : Single) : Double :=
  let magnitude := x.bits.toNat % Nat.pow 2 31
  ofMagnitude x.bits.msb <|
    if Precision.single.infinity < magnitude then
      Precision.double.infinity + (magnitude % Nat.pow 2 23 * Nat.pow 2 29 ||| Nat.pow 2 51)
    else if magnitude = Precision.single.infinity then Precision.double.infinity
    else
      let (a, b) := Precision.single.ratio magnitude
      Precision.double.round a b

end Double
end Sift
