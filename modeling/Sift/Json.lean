import Sift.Double

/-!
# JSON documents

The documents a `json` value holds. Object fields are sorted by key and a key
occurs once, so a document has one representation but for the sign of zero:
`Json.same` compares numbers as numbers and tells integers from floats.
-/
namespace Sift

/-- A number written without fraction or exponent that fits in 64 bits is an integer. -/
inductive Json.Number where
  | int (i : Int)
  | float (x : Double)
deriving DecidableEq

inductive Json where
  | null
  | bool (b : Bool)
  | num (n : Json.Number)
  | str (s : String)
  | arr (items : List Json)
  | obj (fields : List (String × Json))

namespace Json

/-- Integers equal integers and floats equal floats of the same value. -/
def Number.same : Number → Number → Bool
  | .int i, .int j => i == j
  | .float x, .float y => x.compare? y == some .eq
  | _, _ => false

mutual

/-- Structural equality up to the sign of a floating zero. -/
def same : Json → Json → Bool
  | .null, .null => true
  | .bool a, .bool b => a == b
  | .num m, .num n => m.same n
  | .str s, .str t => s == t
  | .arr xs, .arr ys => sameItems xs ys
  | .obj xs, .obj ys => sameFields xs ys
  | _, _ => false
termination_by structural x => x

def sameItems : List Json → List Json → Bool
  | [], [] => true
  | x :: xs, y :: ys => same x y && sameItems xs ys
  | _, _ => false
termination_by structural x => x

def sameFields : List (String × Json) → List (String × Json) → Bool
  | [], [] => true
  | x :: xs, y :: ys => sameField x y && sameFields xs ys
  | _, _ => false
termination_by structural x => x

def sameField : String × Json → String × Json → Bool
  | (k, x), (l, y) => k == l && same x y
termination_by structural x => x

end

instance : BEq Json := ⟨same⟩

/-- Sets a field, keeping the keys sorted; the last write of a key wins. -/
def setField (key : String) (value : Json) : List (String × Json) → List (String × Json)
  | [] => [(key, value)]
  | (k, v) :: rest =>
    match compare key k with
    | .lt => (key, value) :: (k, v) :: rest
    | .eq => (key, value) :: rest
    | .gt => (k, v) :: setField key value rest

/-- The value of a key of an object. -/
def field? (key : String) : Json → Option Json
  | .obj fields => (fields.find? fun f => f.1 == key).map (·.2)
  | _ => none

end Json
end Sift
