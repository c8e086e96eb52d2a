import Sift.Declaration
import Sift.RowType
import Sift.Text.Words

/-!
# What declarations stand for

A declaration stands for a row type and for the way in which its fields are read
from a record. The fields are read in order up to the first error.
-/
namespace Sift

/-- What the fields read so far say of a row type. -/
structure DeclaredColumns where
  columns : List Column
  id : Option String
  modifiedAt : Option String
  references : List Reference

namespace DeclaredColumns

def none : DeclaredColumns := ⟨[], Option.none, Option.none, []⟩

/-- A role that at most one column has, after another column with that role or without. -/
def role (old : Option String) (marked : Bool) (column : String) (error : DeclarationError) :
    Except DeclarationError (Option String) :=
  if !marked then .ok old
  else if old.isSome then .error error
  else .ok (some column)

/-- Adds a field, whose column must be new. -/
def add (c : DeclaredColumns) (f : DeclaredField) : Except DeclarationError DeclaredColumns := do
  let o ← f.readOptions
  let column ← f.column o
  if c.columns.any fun d => d.name == column then throw (.mappedTwice column)
  let id ← role c.id o.isId column .twoIds
  let modifiedAt ← role c.modifiedAt o.isModifiedAt column .twoModifiedAt
  let target ← o.references.mapM NameUse.references.read
  return ⟨c.columns ++ [⟨f.plainName, column, TypeSyntax.isOptional f.type⟩], id, modifiedAt,
    c.references ++ target.toList.map fun t => ⟨column, t⟩⟩

end DeclaredColumns

namespace Declaration

/-- The row type of a declaration. Without a marked field, the column `id` identifies the rows. -/
def rowType (d : Declaration) : Except DeclarationError RowType := do
  if TypeSyntax.hasParameters d.generics then throw .generic
  let table ← d.table
  let fields ← d.fields .rowType
  let c ← fields.foldlM DeclaredColumns.add .none
  match c.id with
  | some id => return ⟨d.name, table, c.columns, id, c.modifiedAt, c.references⟩
  | none =>
    if c.columns.any fun d => d.name == "id" then
      return ⟨d.name, table, c.columns, "id", c.modifiedAt, c.references⟩
    else throw .noId

/-- The fields of a declaration as they are written, each with the column it is read from. -/
def recordFields (d : Declaration) : Except DeclarationError (List (String × String)) := do
  let fields ← d.fields .record
  fields.mapM fun f => do
    let o ← f.readOptions
    return (f.name, ← f.column o)

end Declaration

/-- The constants that name the columns of a row type. -/
def RowType.constants (r : RowType) : List (String × String) :=
  r.columns.map fun c => (Words.constantName c.field, c.name)

end Sift
