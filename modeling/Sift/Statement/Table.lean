import Sift.OrderBy
import Sift.Query.Range
import Sift.Restriction.Condition
import Sift.Statement

/-!
# Statements about one table

Every name in these statements is checked against the row type before it is
written: the row type must be valid, and restricted and ordered columns must be
declared.
-/
namespace Sift

/-- The rows of a table that satisfy conditions. -/
def Conditions.selection (r : RowType) (c : Conditions) : Selection :=
  ⟨.table ⟨r.table, none⟩, c.compile r none⟩

namespace Statement

variable {r : RowType}

/-- The columns of a select. -/
def columnList (cfg : Config) (r : RowType) : String :=
  if cfg.selectStar then "*" else ", ".intercalate (r.columns.map (·.name))

/-- A column, and the slot of a value that it must equal. -/
def guard (column : String) (v : Value) : Binder SqlText := do
  return (column ++ " = " : String) ++ (← bindSlot column v)

/-- The row with a given identifier. -/
def findById (cfg : Config) (r : RowType) (id : Value) : Traced Statement := do
  r.validate
  let (g, b) := (guard r.id id).run .start
  logged cfg "find_by_id" <|
    .plain (("SELECT " ++ columnList cfg r ++ " FROM " ++ r.table ++ " WHERE " : String) ++ g) b
      false

/-- Deletes the row with a given identifier. -/
def deleteById (cfg : Config) (r : RowType) (id : Value) : Traced Statement := do
  r.validate
  let (g, b) := (guard r.id id).run .start
  logged cfg "delete_by_id" <|
    .plain (("DELETE FROM " ++ r.table ++ " WHERE " : String) ++ g) b false

/-- Deletes the row with a given identifier if it has not changed since a given time. -/
def deleteUnchanged (cfg : Config) (r : RowType) (id modifiedAt : Value) : Traced Statement := do
  r.validate
  match r.modifiedAt with
  | none => .lift (.error (.unsupported (.noModifiedAt r.table)))
  | some column =>
    let guards : Binder SqlText := do
      let g ← guard r.id id
      let h ← guard column modifiedAt
      return g ++ " AND " ++ h
    let (g, b) := guards.run .start
    logged cfg "delete_by_id_optimistic" <|
      .plain (("DELETE FROM " ++ r.table ++ " WHERE " : String) ++ g) b false

/-- The scope of a query; without a query, every row. -/
def queryScope (cfg : Config) (r : RowType) (q : Option (Query r)) :
    Except Error (Scope × Binding) := do
  r.validate
  let c := match q with | some q => q.conditions | none => .empty
  c.check r
  return ((c.selection r).print cfg.dialect c.predictsEmpty).run .start

/-- The FROM and WHERE of a query. -/
def scopeOf (cfg : Config) (r : RowType) (q : Option (Query r)) : Except Error Scope :=
  (queryScope cfg r q).map (·.1)

/-- The rows of a query in an order, those of a window. -/
def select (cfg : Config) (q : Query r) (order : OrderBy) (window : Pagination) :
    Traced Statement := do
  window.validate
  r.validate
  order.check r
  let window ← clamp cfg window
  let (scope, b) ← queryScope cfg r (some q)
  let ordered ← (order.clause cfg.dialect OrderBy.unqualified).trace
  let (paged, b) := (window? cfg.dialect window).run b
  logged cfg "select"
    ⟨("SELECT " ++ columnList cfg r : String) ++ scope.text ++ ordered ++ paged, b.params,
      scope.predictsEmpty, some scope, window⟩

/-- All rows of a query in an order. -/
def selectAll (cfg : Config) (q : Query r) (order : OrderBy) : Traced Statement :=
  select cfg q order .all

/-- Counts the rows of a query; without a query, every row. -/
def count (cfg : Config) (r : RowType) (q : Option (Query r)) : Traced Statement := do
  let scope ← scopeOf cfg r q
  logged cfg "count" scope.count

/-- Deletes the rows of a query. A query without conditions deletes nothing, unless that is
allowed. -/
def delete (cfg : Config) (q : Query r) : Traced Statement := do
  let (scope, b) ← queryScope cfg r (some q)
  let start : String := "DELETE FROM " ++ r.table
  match scope.where? with
  | some w => logged cfg "delete" (.plain (start ++ " WHERE " ++ w) b scope.predictsEmpty)
  | none =>
    if cfg.allowDeleteAll then logged cfg "delete" (.plain start b false)
    else
      .emit [.unrestrictedDelete false r.table]
      logged cfg "delete" (.plain (start ++ " WHERE 1=0" : String) b true)

end Statement
end Sift
