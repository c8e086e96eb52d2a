import Sift.Filter
import Sift.RecordLayout
import Sift.Restriction.Evaluation

/-!
# Queries

A query asks that every one of its restrictions holds. Restrictions are grouped
by column: columns stand in the order in which they were first restricted, and
the restrictions of a column in the order in which they were added.
-/
namespace Sift

/-- Restrictions by column, without the row type that declares the columns. -/
structure Conditions where
  fields : List (String × List Restriction)
  /-- Where the restriction that was added last stands: the place of its column, and its own among the
  restrictions of the column. -/
  latest : Option (Nat × Nat)

namespace Conditions

def empty : Conditions := ⟨[], none⟩

instance : Inhabited Conditions := ⟨empty⟩

/-- Appends a restriction to those of its column. -/
def pushField (column : String) (x : Restriction) :
    List (String × List Restriction) → List (String × List Restriction)
  | [] => [(column, [x])]
  | (c, xs) :: rest =>
    if c = column then (c, xs ++ [x]) :: rest else (c, xs) :: pushField column x rest

/-- The restrictions of a column. -/
def of (c : Conditions) (column : String) : List Restriction := (c.fields.lookup column).getD []

def push (c : Conditions) (column : String) (x : Restriction) : Conditions :=
  ⟨pushField column x c.fields, some (c.fields.findIdx (·.1 == column), (c.of column).length)⟩

/-- Negates the restriction that was added last; without one, nothing changes. -/
def negateLatest (c : Conditions) : Conditions :=
  match c.latest with
  | none => c
  | some (place, number) =>
    { c with fields := c.fields.modify place fun (column, xs) => (column, xs.modify number Restriction.negate) }

def isEmpty (c : Conditions) : Bool := c.fields.isEmpty

/-- The number of restricted columns. -/
def size (c : Conditions) : Nat := c.fields.length

/-- Refuses a restricted column that the row type does not declare. -/
def check (c : Conditions) (r : RowType) : Except Error Unit :=
  c.fields.forM fun (column, _) => r.checkColumn column

/-- Whether a row satisfies every restriction; a column that it lacks is null. -/
def holds (c : Conditions) (row : Record) : Bool :=
  c.fields.all fun (column, xs) => xs.all fun x => x.holds (row.valueOf column)

/-- Whether two conditions restrict the same columns by the same restrictions, whatever the order
of the columns. -/
def same (c d : Conditions) : Bool :=
  c.size == d.size && c.fields.all fun (column, xs) => d.of column == xs

instance : BEq Conditions := ⟨same⟩

end Conditions

/-- A query for rows of type `r`. -/
structure Query (r : RowType) where
  conditions : Conditions

namespace Query

variable {r : RowType}

/-- The query of all rows. -/
def all : Query r := ⟨.empty⟩

def restrict (q : Query r) (f : Field r) (x : Restriction) : Query r :=
  ⟨q.conditions.push f.column x⟩

/-- Restricts the column with a given field or column name. -/
def restrictByName (q : Query r) (name : String) (x : Restriction) : Except Error (Query r) :=
  (r.field name).map fun f => q.restrict f x

/-- Negates the restriction that was added last. -/
def negateLatest (q : Query r) : Query r := ⟨q.conditions.negateLatest⟩

/-- Adds the restriction of a filter. The field is resolved before the payload is read. -/
def applyFilter (q : Query r) (f : Filter) : Except Error (Query r) := do
  let field ← r.field f.field
  return q.restrict field (← f.toRestriction)

/-- Adds the restrictions of filters in order, up to the first bad one. -/
def applyFilters (q : Query r) (fs : List Filter) : Except Error (Query r) :=
  fs.foldlM applyFilter q

def restrictions (q : Query r) (f : Field r) : List Restriction := q.conditions.of f.column

/-- Whether a row held in memory satisfies the query. -/
def holds (q : Query r) (row : Record) : Bool := q.conditions.holds row

instance : BEq (Query r) := ⟨fun p q => p.conditions == q.conditions⟩

end Query
end Sift
