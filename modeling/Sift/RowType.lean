import Sift.Identifier

/-!
# Row types

A row type describes the rows of one table: its columns and the fields they map
to, the identifying column, and the columns that refer to rows of other tables.
All identifiers of a statement come from row types.
-/
namespace Sift

/-- A column and the field name that callers use for it. -/
structure Column where
  field : String
  name : String
  nullable : Bool
deriving DecidableEq

/-- `column` holds the identifier of a row of the table `target`. -/
structure Reference where
  column : String
  target : String
deriving DecidableEq

/-- A row type. Its name is its identity, apart from what it describes: row types of one name are the
same, and row types of two names differ even where they describe one table alike. The members of a
join are told apart by it, and so are the row types that claim a table of a schema. -/
structure RowType where
  name : String
  table : String
  columns : List Column
  id : String
  /-- The column that holds the time of the last change. -/
  modifiedAt : Option String
  references : List Reference
deriving DecidableEq

/-- A column of a row type `r`. -/
structure Field (r : RowType) where
  column : String
deriving DecidableEq

namespace RowType

/-- The column with a given name. -/
def column? (r : RowType) (name : String) : Option Column :=
  r.columns.find? fun c => c.name == name

/-- The column with a given field name, else the one with that column name. -/
def resolve? (r : RowType) (name : String) : Option Column :=
  (r.columns.find? fun c => c.field == name).or (r.column? name)

def resolve (r : RowType) (name : String) : Except Error Column :=
  match r.resolve? name with
  | some c => .ok c
  | none => .error (.unknownField r.table name)

/-- The field with a given field or column name. -/
def field (r : RowType) (name : String) : Except Error (Field r) :=
  (r.resolve name).map fun c => ⟨c.name⟩

def reference? (r : RowType) (column : String) : Option Reference :=
  r.references.find? fun f => f.column == column

/-- Whether a column is declared. -/
def hasColumn (r : RowType) (name : String) : Bool := (r.column? name).isSome

/-- Refuses a column that is not declared. -/
def checkColumn (r : RowType) (name : String) : Except Error Unit :=
  if r.hasColumn name then .ok () else .error (.unknownField r.table name)

/-- Whether a column may hold null; nothing is known of one that is not declared. -/
def isNullable (r : RowType) (name : String) : Bool :=
  match r.column? name with
  | some c => c.nullable
  | none => true

/-- Refuses a reference from a column that is not declared, or to no identifier. -/
def checkReference (r : RowType) (f : Reference) : Except Error Unit := do
  if !r.hasColumn f.column then
    throw (.identifier (.foreignReference f.column r.table))
  Identifier.checkPlain f.target "referenced table"

/-- Refuses a row type whose names are no identifiers or do not refer to its columns. -/
def validate (r : RowType) : Except Error Unit := do
  Identifier.checkPlain r.table "table name"
  if r.columns.isEmpty then
    throw (.identifier (.noColumns r.table))
  r.columns.forM fun c => Identifier.checkPlain c.name "column name"
  if !r.hasColumn r.id then
    throw (.identifier (.foreignId r.id r.table))
  match r.modifiedAt with
  | some m => if !r.hasColumn m then throw (.identifier (.foreignModifiedAt m r.table))
  | none => pure ()
  r.references.forM r.checkReference

end RowType

/-- A field as it is shown. -/
def Field.shown {r : RowType} (f : Field r) : String := "Field(" ++ quoted f.column ++ ")"

end Sift
