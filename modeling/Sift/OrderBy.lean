import Sift.Event
import Sift.RowType
import Sift.Sql.Text

/-!
# Orders

An order sorts by columns, the first one first. Items stand in the statement as
they were given, repeated ones included.
-/
namespace Sift

inductive SortDirection where
  | asc
  | desc
deriving DecidableEq

def SortDirection.text : SortDirection → String
  | .asc => "ASC"
  | .desc => "DESC"

/-- A placement of nulls that the dialect leaves out is reported. -/
def NullPlacement.events (d : Dialect) (p : NullPlacement) : List Event :=
  if d.placesNulls then [] else [.nullsIgnored p]

/-- A column to sort by. The table is that of the row type the column belongs to. -/
structure OrderItem where
  table : String
  column : String
  direction : SortDirection
  collation : Option String
  nulls : Option NullPlacement
deriving DecidableEq

namespace OrderItem

def of {r : RowType} (f : Field r) (direction : SortDirection) : OrderItem :=
  ⟨r.table, f.column, direction, none, none⟩

/-- Compares by a collation, whose name must be quotable. -/
def collate (i : OrderItem) (name : String) : Except Error OrderItem := do
  Identifier.checkQuoted name "collation"
  return { i with collation := some name }

def placeNulls (i : OrderItem) (p : NullPlacement) : OrderItem := { i with nulls := some p }

/-- The text of an item whose table has a given name in the statement. -/
def text (d : Dialect) (name : Option String) (i : OrderItem) : String :=
  Identifier.qualified name i.column
    ++ (match i.collation with | some c => d.collation c | none => "")
    ++ " " ++ i.direction.text
    ++ (match i.nulls with | some p => d.nulls p | none => "")

/-- What is reported of the item. -/
def events (d : Dialect) (i : OrderItem) : List Event :=
  match i.nulls with
  | some p => p.events d
  | none => []

end OrderItem

structure OrderBy where
  items : List OrderItem
deriving DecidableEq

/-- Text that is written up to a failure, with the events on the way. -/
structure Clause where
  text : SqlText
  events : List Event
  failure : Option Error

namespace Clause

def nothing : Clause := ⟨.empty, [], none⟩

/-- The text, unless writing it failed. -/
def trace (c : Clause) : Traced SqlText :=
  ⟨c.events, match c.failure with | some e => .error e | none => .ok c.text⟩

end Clause

namespace OrderBy

/-- No order. -/
def none : OrderBy := ⟨[]⟩

/-- Appends a field that is known by its field or column name. -/
def byName (o : OrderBy) (r : RowType) (name : String) (direction : SortDirection) :
    Except Error OrderBy :=
  (r.field name).map fun f => ⟨o.items ++ [.of f direction]⟩

/-- The items with commas between them. `qualify` names the table of an item in the statement. -/
def elements (d : Dialect) (qualify : OrderItem → Except Error (Option String)) :
    List OrderItem → Clause
  | [] => .nothing
  | i :: rest =>
    match qualify i with
    | .error e => ⟨.empty, [], some e⟩
    | .ok name =>
      let more := elements d qualify rest
      let separator := if rest.isEmpty then "" else ", "
      ⟨(i.text d name ++ separator : String) ++ more.text, i.events d ++ more.events, more.failure⟩

/-- The end of a select that orders its rows; nothing without items. -/
def clause (o : OrderBy) (d : Dialect) (qualify : OrderItem → Except Error (Option String)) :
    Clause :=
  if o.items.isEmpty then .nothing
  else
    let c := elements d qualify o.items
    { c with text := " ORDER BY " ++ c.text }

/-- Columns of a statement about one table are not qualified. -/
def unqualified (_ : OrderItem) : Except Error (Option String) := .ok Option.none

/-- The order as a clause of its own, for a statement about one table. -/
def sql (o : OrderBy) (d : Dialect) : Traced String := do
  if o.items.isEmpty then return ""
  let text ← (elements d unqualified o.items).trace
  return "ORDER BY " ++ text.named

/-- Refuses items that are not columns of a row type. -/
def check (o : OrderBy) (r : RowType) : Except Error Unit :=
  o.items.forM fun i => do
    if i.table ≠ r.table then
      throw (.argument (.foreignOrder r.table i.table i.column))
    r.checkColumn i.column

end OrderBy
end Sift
