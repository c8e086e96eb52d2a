import Sift.Like
import Sift.Restriction

/-!
# Evaluating restrictions

A predicate is true, false or unknown of a value; it is unknown when the value
is null or not comparable with the payload. A restriction holds when its
predicate is true, a negated one when its predicate is not.
-/
namespace Sift

namespace Value

/-- The number of characters of a text. -/
def length? (v : Value) : Option Int := v.text?.map fun s => (s.length : Int)

end Value

namespace Predicate

/-- The truth of a predicate of a value that is not null, unknown as `none`. -/
def evalPresent (v : Value) : Predicate → Option Bool
  | .equals x => some (v.equals x)
  | .less x => (v.compare? x).map (·.isLT)
  | .lessOrEqual x => (v.compare? x).map (·.isLE)
  | .greater x => (v.compare? x).map (·.isGT)
  | .greaterOrEqual x => (v.compare? x).map (·.isGE)
  | .between lower upper => do
    let above ← v.compare? lower
    let below ← v.compare? upper
    return above.isGE && below.isLE
  | .isIn xs => some (xs.any fun x => v.equals x)
  | .like pattern => v.text?.map (Like.isMatch pattern)
  | .contains needle => v.text?.map fun s => Like.occursIn needle.toList s.toList
  | .startsWith start => v.text?.map fun s => start.toList.isPrefixOf s.toList
  | .endsWith ending => v.text?.map fun s => ending.toList.isSuffixOf s.toList
  | .lengthLess n => v.length?.map (· < n.toInt)
  | .lengthLessOrEqual n => v.length?.map (· ≤ n.toInt)
  | .lengthGreater n => v.length?.map (n.toInt < ·)
  | .lengthGreaterOrEqual n => v.length?.map (n.toInt ≤ ·)
  | .lengthBetween lower upper =>
    v.length?.map fun k => decide (lower.toInt ≤ k) && decide (k ≤ upper.toInt)
  | .isNull => some false
  | .isTrue => some (v == .bool true)
  | .isFalse => some (v == .bool false)
  | .empty => some (v == .text "")

/-- The truth of a predicate of a value, unknown as `none`. -/
def eval (v : Value) (p : Predicate) : Option Bool :=
  if v.isNull then
    match p with
    | .isNull | .empty => some true
    | .isTrue | .isFalse => some false
    | _ => none
  else p.evalPresent v

end Predicate

/-- Whether a value satisfies a restriction. -/
def Restriction.holds (r : Restriction) (v : Value) : Bool :=
  match r.predicate.eval v with
  | some b => b != r.negated
  | none => r.negated

end Sift
