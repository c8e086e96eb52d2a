import Sift.Value

/-!
# Values of request input

Scalars of a JSON document become values of their kind; arrays and objects stay
documents.
-/
namespace Sift

/-- The 64-bit integer with a given value, if there is one. -/
def int64? (i : Int) : Option Int64 :=
  if -(Nat.pow 2 63 : Int) ≤ i ∧ i < Nat.pow 2 63 then some (Int64.ofInt i) else none

namespace Json

/-- The 64-bit signed integer a document is. -/
def int64? : Json → Option Int64
  | .num (.int i) => Sift.int64? i
  | _ => none

/-- The double of a number. -/
def Number.toDouble : Number → Double
  | .int i => Double.ofInt i
  | .float x => x

end Json

namespace Value

/-- The value of a document. An integer that needs more than 64 signed bits becomes a float. -/
def ofJson : Json → Value
  | .null => .null
  | .bool b => .bool b
  | .num n =>
    match (Json.num n).int64? with
    | some i => .int i
    | none => .float n.toDouble
  | .str s => .text s
  | .arr xs => .json (.arr xs)
  | .obj fs => .json (.obj fs)

/-- The values of an array. -/
def listOfJson? : Json → Option (List Value)
  | .arr xs => some (xs.map ofJson)
  | _ => none

end Value
end Sift
