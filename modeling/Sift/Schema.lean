import Sift.RowType

/-!
# Schemas

A schema finds row types by their table. A table belongs to one row type.
-/
namespace Sift

/-- The registered row types, in the order of registration. -/
structure Schema where
  rows : List RowType

namespace Schema

def empty : Schema := ⟨[]⟩

def isEmpty (s : Schema) : Bool := s.rows.isEmpty

def size (s : Schema) : Nat := s.rows.length

/-- The row type of a table. -/
def get? (s : Schema) (table : String) : Option RowType :=
  s.rows.find? fun r => r.table == table

def hasTable (s : Schema) (table : String) : Bool := (s.get? table).isSome

/-- Registers a valid row type, unless another one holds its table. The name decides which one is
another: one that describes the table alike under its own name is refused. -/
def register (s : Schema) (r : RowType) : Except Error Schema := do
  r.validate
  match s.get? r.table with
  | some other =>
    if other.name = r.name then return s else throw (.identifier (.tableTaken r.table))
  | none => return ⟨s.rows ++ [r]⟩

/-- Registers row types in order. -/
def ofRows (rows : List RowType) : Except Error Schema := rows.foldlM register empty

/-- The column of a table with a given field or column name. -/
def resolve (s : Schema) (table field : String) : Except Error Column :=
  match s.get? table with
  | some r => r.resolve field
  | none => .error (.unknownField table field)

/-- Refuses a reference of a registered row type to a table that is not registered. -/
def checkReferences (s : Schema) : Except Error Unit :=
  s.rows.forM fun r => r.references.forM fun f =>
    if s.hasTable f.target then .ok ()
    else .error (.graph (.unregisteredTarget r.table f.column f.target))

end Schema
end Sift
