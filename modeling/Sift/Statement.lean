import Sift.Event
import Sift.Pagination
import Sift.Sql.Condition

/-!
# Statements

A statement is SQL text with the parameters that it binds. A select remembers its
scope, the FROM and WHERE that decide which rows it is about, so that the rows can
be counted.
-/
namespace Sift

/-- The tables and conditions of a statement as text, with their parameters. -/
structure Scope where
  source : SqlText
  conditions : List SqlText
  params : Params
  /-- Whether no row can satisfy the conditions. -/
  predictsEmpty : Bool
deriving BEq

namespace Scope

/-- The conditions joined by AND, if there are any. -/
def where? (s : Scope) : Option SqlText :=
  if s.conditions.isEmpty then none else some (.join " AND " s.conditions)

/-- ` FROM ...`, and ` WHERE ...` if there are conditions. -/
def text (s : Scope) : SqlText :=
  " FROM " ++ s.source ++ (match s.where? with | some w => " WHERE " ++ w | none => .empty)

/-- The scope by itself, with named parameters. -/
def sql (s : Scope) : String := String.ofList (s.text.named.toList.drop 1)

end Scope

/-- A selection as text. Its source is printed before its conditions. -/
def Selection.print (d : Dialect) (predictsEmpty : Bool) (s : Selection) : Binder Scope := do
  let source ← s.source.print d
  let conditions ← Condition.printAll d s.conditions
  return ⟨source, conditions, (← get).params, predictsEmpty⟩

structure Statement where
  text : SqlText
  params : Params
  predictsEmpty : Bool
  /-- What the statement ranges over, if its rows can be counted. -/
  scope : Option Scope
  /-- The window that a select shows. -/
  window : Pagination
deriving BEq

namespace Statement

/-- A statement without a scope to count. -/
def plain (text : SqlText) (b : Binding) (predictsEmpty : Bool) : Statement :=
  ⟨text, b.params, predictsEmpty, none, .all⟩

/-- The statement with named parameters. -/
def sql (s : Statement) : String := s.text.named

/-- The statement with the placeholders of a dialect. -/
def render (s : Statement) (d : Dialect) : Except Error Rendered :=
  s.text.render d.placeholderStyle s.params

end Statement

/-- The statement that counts the rows of a scope. -/
def Scope.count (s : Scope) : Statement :=
  ⟨"SELECT COUNT(*)" ++ s.text, s.params, s.predictsEmpty, some s, .all⟩

namespace Statement

/-- The statement that counts the rows of a select of a window. -/
def count? (s : Statement) : Option Statement :=
  if s.window.isEmpty then none else s.scope.map Scope.count

/-- The empty page that answers a statement no row can match. -/
def shortCircuit? {α : Type} (s : Statement) : Option (Page α) :=
  if s.predictsEmpty then some (.empty s.window) else none

/-- The event that reports a statement answered without running it. -/
def shortCircuitEvents (s : Statement) : List Event :=
  if s.predictsEmpty then [.shortCircuited s.sql] else []

/-- Logs a statement under the name of its operation. -/
def logged (cfg : Config) (operation : String) (s : Statement) : Traced Statement := do
  if cfg.log.enabled then
    .emit [.statement cfg.log.level operation cfg.dialect s.params.size s.predictsEmpty
      (cfg.log.truncate s.sql)]
  return s

/-- Reduces a window to the greatest page size, and reports it. -/
def clamp (cfg : Config) (window : Pagination) : Traced Pagination := do
  match cfg.maxPageSize with
  | some max =>
    if window.exceeds max then .emit [.clamped window.limit max]
    return window.clamp max
  | none => return window

/-- Binds the limit and the offset of a window and gives its text. -/
def window? (d : Dialect) (w : Pagination) : Binder SqlText := do
  let slot (base : String) (n : Option Int64) : Binder (Option SqlText) :=
    match n with
    | some n => return some (← bindSlot base (.int n))
    | none => return none
  let limit ← slot "limit" w.limit
  let offset ← slot "offset" w.offset
  return d.window limit offset

/-- Counts the rows of a statement with a scope. -/
def countRows (cfg : Config) (s : Statement) : Traced Statement := do
  match s.scope with
  | some scope => logged cfg "count" scope.count
  | none => .lift (.error (.unsupported .noScope))

end Statement
end Sift
