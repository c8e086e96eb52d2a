import Sift.NamedValues
import Sift.RowType

/-!
# Records

A record holds the columns of a row in memory. A layout says which column each field
of a row is read from, and as what.
-/
namespace Sift

/-- The columns of a row held in memory. -/
abbrev Record := NamedValues

/-- The value of a column; a missing column is null. -/
def NamedValues.valueOf (r : NamedValues) (column : String) : Value := .ofOption (r.get? column)

/-- Reads a column as a type. -/
def NamedValues.read (r : NamedValues) (column : String) (type : FieldType) :
    Except Error Value :=
  (type.read (r.valueOf column)).mapError (.decode column)

/-! ## Layouts -/

structure RecordField where
  field : String
  column : String
  type : FieldType

structure RecordLayout where
  fields : List RecordField

/-- The columns of a row type whose rows have the layout. -/
def RecordLayout.columns (l : RecordLayout) : List Column :=
  l.fields.map fun f => ⟨f.field, f.column, f.type.optional⟩

/-- Reads the fields in order, up to the first column that does not fit its type. -/
def RecordLayout.read (l : RecordLayout) (r : Record) : Except Error (List (String × Value)) :=
  l.fields.mapM fun f => (NamedValues.read r f.column f.type).map fun v => (f.field, v)

end Sift
