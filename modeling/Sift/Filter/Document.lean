import Sift.Document
import Sift.Filter
import Sift.Json.Text

/-!
# Filters as documents

A filter is an object with the fields `field`, `op`, `value` and `not`, the last
two optional.
-/
namespace Sift

open Document

/-- Reads an operation: its name, or an object that maps its name to null. -/
def FilterOp.ofDocument (j : Json) : Except DocumentError FilterOp := do
  let named (name : String) : Except DocumentError FilterOp :=
    match FilterOp.ofName? name with
    | some op => .ok op
    | none => .error (.unknownVariant name (FilterOp.all.map FilterOp.name))
  match j with
  | .str name => named name
  | .obj [(name, payload)] =>
    let op ← named name
    match payload with
    | .null => return op
    | other => throw (.invalidType other "unit")
  | .obj fields => throw (.invalidValue (.obj fields) "map with a single key")
  | other => throw (.invalidType other "string or map")

namespace Filter

/-- Reads a filter. Fields of an object are read in the order of their keys. -/
def ofDocument : Json → Except DocumentError Filter
  | .obj fields => do
    let read {α : Type} (key : String) (f : Json → Except DocumentError α) :
        Except DocumentError (Option α) :=
      match (Json.obj fields).field? key with
      | some j => (f j).map some
      | none => .ok none
    let field ← read "field" readText
    let negated ← read "not" readBool
    let op ← read "op" FilterOp.ofDocument
    let value := ((Json.obj fields).field? "value").getD .null
    match field, op with
    | none, _ => throw (.missingField "field")
    | some _, none => throw (.missingField "op")
    | some field, some op => return ⟨field, op, value, negated.getD false⟩
  | .arr items => do
    let expected := "struct Filter with 4 elements"
    let field ← readText (← itemAt items 0 expected)
    let op ← FilterOp.ofDocument (← itemAt items 1 expected)
    let negated ←
      match items[3]? with
      | some j => readBool j
      | none => pure false
    noMoreThan 4 items
    return ⟨field, op, items[2]?.getD .null, negated⟩
  | other => .error (.invalidType other "struct Filter")

/-- The compact text of a filter. -/
def jsonText (f : Filter) : String :=
  "\x7b" ++ ",".intercalate
    ["\"field\":" ++ Json.quote f.field, "\"op\":" ++ Json.quote f.op.name,
      "\"value\":" ++ f.value.text, "\"not\":" ++ (if f.not then "true" else "false")]
    ++ "\x7d"

end Filter
end Sift
