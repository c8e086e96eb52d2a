import Sift.Value

/-!
# Field types

What a field of a row can be read as. Reading keeps the value, except that an
integer read as a double is rounded to one.
-/
namespace Sift

/-- The types a value is read as. `any` takes every value. -/
inductive ScalarType where
  | any
  | bool
  | int64
  | int32
  | int16
  | double
  | text
  | uuid
  | timestamp
  | date
  | json
deriving DecidableEq

/-- A field's type; an optional field may be null. -/
structure FieldType where
  scalar : ScalarType
  optional : Bool
deriving DecidableEq

/-- Why a value cannot be read as a type. -/
inductive Mismatch where
  | kind (expected got : Kind)
  | width (i : Int64) (bits : Nat)
deriving DecidableEq

def Mismatch.message : Mismatch → String
  | .kind expected got => "expected " ++ expected.name ++ ", got " ++ got.name
  | .width i bits => toString i.toInt ++ " does not fit in i" ++ toString bits

/-- The integer of a value, if it fits in a width. -/
def Value.readInt (bits : Nat) : Value → Except Mismatch Value
  | .int i =>
    if -(Nat.pow 2 (bits - 1) : Int) ≤ i.toInt ∧ i.toInt < Nat.pow 2 (bits - 1) then .ok (.int i)
    else .error (.width i bits)
  | v => .error (.kind .int v.kind)

/-- Reads a value as a scalar. -/
def ScalarType.read (v : Value) : ScalarType → Except Mismatch Value
  | .any => .ok v
  | .bool => match v with
    | .bool b => .ok (.bool b)
    | _ => .error (.kind .bool v.kind)
  | .int64 => v.readInt 64
  | .int32 => v.readInt 32
  | .int16 => v.readInt 16
  | .double => match v with
    | .float x => .ok (.float x)
    | .int i => .ok (.float (Double.ofInt i.toInt))
    | _ => .error (.kind .float v.kind)
  | .text => match v with
    | .text s => .ok (.text s)
    | _ => .error (.kind .text v.kind)
  | .uuid => match v with
    | .uuid u => .ok (.uuid u)
    | _ => .error (.kind .uuid v.kind)
  | .timestamp => match v with
    | .timestamp t => .ok (.timestamp t)
    | _ => .error (.kind .timestamp v.kind)
  | .date => match v with
    | .date d => .ok (.date d)
    | _ => .error (.kind .date v.kind)
  | .json => match v with
    | .json j => .ok (.json j)
    | _ => .error (.kind .json v.kind)

/-- Reads a value; null is read by an optional type without looking further. -/
def FieldType.read (type : FieldType) (v : Value) : Except Mismatch Value :=
  if type.optional && v.isNull then .ok .null else type.scalar.read v

end Sift
