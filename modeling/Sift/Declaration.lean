import Sift.Declaration.TypeSyntax
import Sift.Identifier
import Sift.Text.Character

/-!
# Declarations

A record type declared in source code, with `row` options on it and on its fields,
stands for a row type. Options come in groups, each of which is read by itself.
-/
namespace Sift

/-- What stands after the equals sign of an option. -/
inductive OptionValue where
  | text (s : String)
  | other
deriving DecidableEq

structure RowOption where
  name : String
  value : Option OptionValue
deriving DecidableEq

structure DeclaredField where
  /-- The name as it is written; `r#` before it only makes a reserved word a name. -/
  name : String
  type : String
  options : List (List RowOption)

inductive DeclaredShape where
  /-- Fields with names. -/
  | record (fields : List DeclaredField)
  /-- Fields without names, or no fields. -/
  | positional
  /-- A type that is no single record. -/
  | alternatives

structure Declaration where
  name : String
  /-- What follows the name: parameters in angle brackets, and conditions on them. -/
  generics : String
  options : List (List RowOption)
  shape : DeclaredShape

/-- What is derived from a declaration. -/
inductive Derivation where
  | rowType
  | record
deriving DecidableEq

def Derivation.name : Derivation → String
  | .rowType => "RowType"
  | .record => "FromRecord"

/-- What a name that an option gives is the name of. -/
inductive NameUse where
  | table
  | column
  | references
deriving DecidableEq

def NameUse.text : NameUse → String
  | .table => "row table"
  | .column => "row column"
  | .references => "row references"

/-- Why nothing is derived from a declaration. -/
inductive DeclarationError where
  | generic
  | noTable
  | notTable
  | tableNotText
  | unnamedFields (derived : Derivation)
  | notRecord (derived : Derivation)
  | noOption
  | reservedOption (name : String)
  | unknownOption (name : String)
  | noValue
  | valueNotText
  | unexpected
  | emptyName (use : NameUse)
  | malformedName (use : NameUse)
  | mappedTwice (column : String)
  | twoIds
  | twoModifiedAt
  | noId
deriving DecidableEq

def DeclarationError.message : DeclarationError → String
  | .generic => "RowType cannot be derived for generic structs"
  | .noTable => "RowType requires #[row(table = \"table_name\")] attribute"
  | .notTable => "expected #[row(table = \"table_name\")]"
  | .tableNotText => "table name must be a string literal"
  | .unnamedFields derived => derived.name ++ " can only be derived for structs with named fields"
  | .notRecord derived => derived.name ++ " can only be derived for structs"
  | .noOption => "unexpected end of input, expected identifier"
  | .reservedOption name => "expected identifier, found keyword `" ++ name ++ "`"
  | .unknownOption name => "unknown row attribute `" ++ name ++ "`"
  | .noValue => "expected `=`"
  | .valueNotText => "expected string literal"
  | .unexpected => "unexpected token"
  | .emptyName use => use.text ++ " must not be empty"
  | .malformedName use =>
    use.text ++ " must be a valid SQL identifier (expected [A-Za-z_][A-Za-z0-9_]*)"
  | .mappedTwice column => "column '" ++ column ++ "' is mapped by two fields"
  | .twoIds => "only one field may be #[row(id)]"
  | .twoModifiedAt => "only one field may be #[row(modified_at)]"
  | .noId => "RowType requires a #[row(id)] field or a column named `id`"

/-- A name without the blanks around it, which must be a plain identifier. -/
def NameUse.read (use : NameUse) (s : String) : Except DeclarationError String :=
  let name := trimBlanks s
  if name.isEmpty then .error (.emptyName use)
  else if Identifier.isPlain name then .ok name
  else .error (.malformedName use)

/-- The options of a field. -/
structure FieldOptions where
  isId : Bool
  isModifiedAt : Bool
  column : Option String
  references : Option String
deriving DecidableEq

namespace FieldOptions

def none : FieldOptions := ⟨false, false, Option.none, Option.none⟩

/-- The text that an option asks for. -/
def text (x : RowOption) : Except DeclarationError String :=
  match x.value with
  | some (.text s) => .ok s
  | some .other => .error .valueNotText
  | Option.none => .error .noValue

/-- Refuses a value of an option that has none. -/
def flag (x : RowOption) : Except DeclarationError Unit :=
  if x.value.isSome then .error .unexpected else .ok ()

/-- Adds an option. Of options that are repeated the last one counts. -/
def add (o : FieldOptions) (x : RowOption) : Except DeclarationError FieldOptions := do
  if TypeSyntax.reservedWords.contains x.name then throw (.reservedOption x.name)
  match x.name with
  | "id" =>
    flag x
    return { o with isId := true }
  | "modified_at" =>
    flag x
    return { o with isModifiedAt := true }
  | "column" => return { o with column := some (← text x) }
  | "references" => return { o with references := some (← text x) }
  | other => throw (.unknownOption other)

end FieldOptions

namespace DeclaredField

/-- The name without the mark of a raw one. -/
def plainName (f : DeclaredField) : String :=
  match f.name.toList with
  | 'r' :: '#' :: rest => String.ofList rest
  | _ => f.name

def readOptions (f : DeclaredField) : Except DeclarationError FieldOptions :=
  f.options.flatten.foldlM FieldOptions.add .none

/-- The column that a field is mapped to: the one that the options name, else the name. -/
def column (f : DeclaredField) (o : FieldOptions) : Except DeclarationError String :=
  NameUse.column.read (o.column.getD f.plainName)

end DeclaredField

namespace Declaration

/-- Whether an option of a declaration has a name. Its name is a path, in which some reserved words
may stand. -/
def isNamed (x : RowOption) : Bool :=
  !TypeSyntax.reservedWords.contains x.name
    || ["Self", "self", "super", "crate", "unsafe"].contains x.name

/-- The table that the first group of options names. -/
def table (d : Declaration) : Except DeclarationError String :=
  match d.options with
  | [] => .error .noTable
  | [] :: _ => .error .noOption
  | (x :: more) :: _ => do
    if !isNamed x then throw (.reservedOption x.name)
    let some v := x.value | throw .noValue
    if !more.isEmpty then throw .unexpected
    if x.name ≠ "table" then throw .notTable
    match v with
    | .text s => NameUse.table.read s
    | .other => throw .tableNotText

/-- The named fields. -/
def fields (d : Declaration) (derived : Derivation) :
    Except DeclarationError (List DeclaredField) :=
  match d.shape with
  | .record fields => .ok fields
  | .positional => .error (.unnamedFields derived)
  | .alternatives => .error (.notRecord derived)

end Declaration
end Sift
