import Sift.Json.Text
import Sift.Text.Quoted
import Sift.Value.OfJson

/-!
# Reading documents

Requests are documents of a fixed form: an object whose fields are read in the
order of their keys, or an array that gives the fields by position.
-/
namespace Sift

/-- Why a document does not have the form that is read. -/
inductive DocumentError where
  | missingField (name : String)
  | unknownVariant (name : String) (known : List String)
  | invalidType (got : Json) (expected : String)
  | invalidValue (got : Json) (expected : String)
  | invalidLength (length : Nat) (expected : String)

/-- What was found, as messages call it. -/
def Json.described : Json → String
  | .null => "null"
  | .bool b => "boolean `" ++ (if b then "true" else "false") ++ "`"
  | .num (.int i) => "integer `" ++ toString i ++ "`"
  | .num (.float x) => "floating point `" ++ (Number.float x).text ++ "`"
  | .str s => "string " ++ quoted s
  | .arr _ => "sequence"
  | .obj _ => "map"

def DocumentError.message : DocumentError → String
  | .missingField name => "missing field `" ++ name ++ "`"
  | .unknownVariant name known =>
    "unknown variant `" ++ name ++ "`, expected one of "
      ++ ", ".intercalate (known.map fun k => "`" ++ k ++ "`")
  | .invalidType got expected => "invalid type: " ++ got.described ++ ", expected " ++ expected
  | .invalidValue got expected => "invalid value: " ++ got.described ++ ", expected " ++ expected
  | .invalidLength length expected =>
    "invalid length " ++ toString length ++ ", expected " ++ expected

namespace Document

def readText : Json → Except DocumentError String
  | .str s => .ok s
  | other => .error (.invalidType other "a string")

def readBool : Json → Except DocumentError Bool
  | .bool b => .ok b
  | other => .error (.invalidType other "a boolean")

/-- A signed 64-bit integer, or null. -/
def readInt? : Json → Except DocumentError (Option Int64)
  | .null => .ok none
  | .num (.int i) =>
    match int64? i with
    | some n => .ok (some n)
    | none => .error (.invalidValue (.num (.int i)) "i64")
  | other => .error (.invalidType other "i64")

/-- The item at a position, which must be there. -/
def itemAt (items : List Json) (i : Nat) (expected : String) : Except DocumentError Json :=
  match items[i]? with
  | some x => .ok x
  | none => .error (.invalidLength i expected)

/-- Refuses items beyond the last field. -/
def noMoreThan (count : Nat) (items : List Json) : Except DocumentError Unit :=
  if items.length ≤ count then .ok ()
  else .error (.invalidLength items.length "fewer elements in array")

end Document
end Sift
