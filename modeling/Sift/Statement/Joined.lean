import Sift.Join.Selection
import Sift.Statement.Table

/-!
# Statements about joined tables

Every column of a joined select has a label that tells its table, so that a fetched
row can be split by row type.
-/
namespace Sift

namespace JoinGraph

/-- The columns of a joined select with their labels. -/
def columnList (g : JoinGraph) : String :=
  ", ".intercalate <| g.selected.flatMap fun n => n.row.columns.map fun c =>
    Identifier.qualified (some n.name) c.name ++ " AS " ++ Identifier.label n.name c.name

/-- The name of the table that an item orders by: that of the first selected node of the table,
which must declare the column. -/
def orderName (g : JoinGraph) (i : OrderItem) : Except Error (Option String) := do
  match g.selected.find? fun n => n.row.table == i.table with
  | some n =>
    n.row.checkColumn i.column
    return some n.name
  | none => throw (.argument (.unselectedOrder i.table i.column))

/-- The scope of a graph and the parameters it binds. -/
def printScope (g : JoinGraph) (d : Dialect) : Scope × Binding :=
  (g.selection.print d g.predictsEmpty).run .start

/-- The FROM and WHERE of a graph. -/
def scope (g : JoinGraph) (cfg : Config) : Scope := (g.printScope cfg.dialect).1

end JoinGraph

namespace Statement

/-- The end of a select that orders its rows, over one table or a graph. -/
def orderClause (cfg : Config) (order : OrderBy) (g : Option JoinGraph) : Clause :=
  order.clause cfg.dialect (match g with | some g => g.orderName | none => OrderBy.unqualified)

/-- The rows of a graph in an order, those of a window. -/
def joinedSelect (cfg : Config) (g : JoinGraph) (order : OrderBy) (window : Pagination) :
    Traced Statement := do
  window.validate
  let window ← clamp cfg window
  let (scope, b) := g.printScope cfg.dialect
  let ordered ← (orderClause cfg order (some g)).trace
  let (paged, b) := (window? cfg.dialect window).run b
  logged cfg "joined_select"
    ⟨("SELECT " ++ g.columnList : String) ++ scope.text ++ ordered ++ paged, b.params,
      scope.predictsEmpty, some scope, window⟩

/-- Counts the rows of a graph. -/
def joinedCount (cfg : Config) (g : JoinGraph) : Traced Statement :=
  logged cfg "joined_count" (g.scope cfg).count

/-- Deletes the rows of the root that a joined select returns. A graph that restricts nothing
deletes nothing, unless that is allowed. -/
def joinedDelete (cfg : Config) (g : JoinGraph) : Traced Statement := do
  let (scope, b) := g.printScope cfg.dialect
  let row := g.root.row
  if scope.conditions.isEmpty && !g.hasInnerJoin && !cfg.allowDeleteAll then
    .emit [.unrestrictedDelete true row.table]
    logged cfg "joined_delete"
      (.plain ("DELETE FROM " ++ row.table ++ " WHERE 1=0" : String) .start true)
  else
    let start : String := "DELETE FROM " ++ row.table ++ " WHERE " ++ row.id ++ " IN (SELECT "
      ++ Identifier.qualified (some g.root.name) row.id
    logged cfg "joined_delete" (.plain (start ++ scope.text ++ ")") b scope.predictsEmpty)

end Statement
end Sift
