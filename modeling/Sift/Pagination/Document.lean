import Sift.Document
import Sift.Json.Text
import Sift.Pagination

/-!
# Windows and pages as documents
-/
namespace Sift

open Document

/-- An optional integer as JSON text. -/
def optionalText (n : Option Int64) : String :=
  match n with
  | some n => int64Text n
  | none => "null"

namespace Pagination

/-- Reads a window; a missing field is null. -/
def ofDocument : Json → Except DocumentError Pagination
  | .obj fields => do
    let read (key : String) : Except DocumentError (Option Int64) :=
      readInt? (((Json.obj fields).field? key).getD .null)
    let limit ← read "limit"
    let offset ← read "offset"
    return ⟨limit, offset⟩
  | .arr items => do
    let expected := "struct Pagination with 2 elements"
    let limit ← readInt? (← itemAt items 0 expected)
    let offset ← readInt? (← itemAt items 1 expected)
    noMoreThan 2 items
    return ⟨limit, offset⟩
  | other => .error (.invalidType other "struct Pagination")

def jsonText (p : Pagination) : String :=
  "\x7b\"limit\":" ++ optionalText p.limit ++ ",\"offset\":" ++ optionalText p.offset ++ "\x7d"

end Pagination

/-- The compact text of a page, given that of its items. -/
def Page.jsonText {α : Type} (item : α → String) (p : Page α) : String :=
  "\x7b\"items\":[" ++ ",".intercalate (p.items.map item) ++ "],\"total\":" ++ int64Text p.total
    ++ ",\"limit\":" ++ optionalText p.limit ++ ",\"offset\":" ++ int64Text p.offset ++ "\x7d"

end Sift
