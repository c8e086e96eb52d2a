import Sift.Dialect
import Sift.Sql.Binding

/-!
# Conditions and sources

The part of a statement that decides which rows it is about, as a tree: tables
joined to each other, tests of columns and subqueries. Values stand in the tree
and are bound when it is printed, in the order of the text.
-/
namespace Sift

/-- A column, after the name that its table has in the statement. -/
structure ColumnRef where
  table : Option String
  column : String
deriving DecidableEq

def ColumnRef.text (c : ColumnRef) : String := Identifier.qualified c.table c.column

/-- A table and the name that it has in the statement, if it has one of its own. -/
structure TableRef where
  table : String
  name : Option String
deriving DecidableEq

def TableRef.text (t : TableRef) : String :=
  match t.name with
  | some n => t.table ++ " " ++ n
  | none => t.table

/-- The equality of two columns that joins two tables. -/
structure Link where
  parent : ColumnRef
  child : ColumnRef
deriving DecidableEq

def Link.text (l : Link) : String := l.parent.text ++ " = " ++ l.child.text

inductive Comparison where
  | eq
  | ne
  | lt
  | le
  | gt
  | ge
deriving DecidableEq

namespace Comparison

def symbol : Comparison → String
  | .eq => "="
  | .ne => "<>"
  | .lt => "<"
  | .le => "<="
  | .gt => ">"
  | .ge => ">="

/-- The comparison that holds exactly when this one does not. -/
def complement : Comparison → Comparison
  | .eq => .ne
  | .ne => .eq
  | .lt => .ge
  | .ge => .lt
  | .gt => .le
  | .le => .gt

end Comparison

/-- A test of one column. -/
inductive Test where
  | compare (op : Comparison) (v : Value)
  | compareLength (op : Comparison) (n : Int64)
  | between (negated : Bool) (lower upper : Value)
  | lengthBetween (negated : Bool) (lower upper : Int64)
  | isIn (negated : Bool) (vs : List Value)
  /-- A pattern; `escaped` if `!` makes the next character literal. -/
  | like (negated : Bool) (pattern : String) (escaped : Bool)
  | isNull (negated : Bool)
  | isTrue (negated : Bool)
  | isFalse (negated : Bool)
  /-- Null or the empty text. -/
  | blank
  /-- Neither null nor the empty text. -/
  | filled

mutual

/-- What a row must satisfy. -/
inductive Condition where
  | never
  /-- A test of a column, which null passes too if `orNull`. -/
  | test (orNull : Bool) (column : ColumnRef) (test : Test)
  /-- Whether a linked row of another source satisfies some conditions. -/
  | subquery (negated : Bool) (source : Source) (link : Link) (conditions : List Condition)

/-- Where rows come from. -/
inductive Source where
  | table (t : TableRef)
  /-- Rows of `left` joined to rows of `right`. An outer join keeps rows without a partner. -/
  | join (outer : Bool) (left right : Source) (link : Link) (conditions : List Condition)

end

/-- Rows of a source that satisfy conditions. -/
structure Selection where
  source : Source
  conditions : List Condition

/-! ## Printing -/

/-- The word that negates the operator after it. -/
def notText (negated : Bool) : String := if negated then "NOT " else ""

namespace Test

/-- The text of a test. Parameters are named for the column. -/
def print (d : Dialect) (c : ColumnRef) : Test → Binder SqlText
  | .compare op v => do
    let s ← bindSlot c.column v
    return (c.text ++ " " ++ op.symbol ++ " " : String) ++ s
  | .compareLength op n => do
    let s ← bindSlot c.column (.int n)
    return (d.lengthFunction ++ "(" ++ c.text ++ ") " ++ op.symbol ++ " " : String) ++ s
  | .between negated lower upper => do
    let lo ← bindSlot c.column lower
    let hi ← bindSlot c.column upper
    return (c.text ++ " " ++ notText negated ++ "BETWEEN " : String) ++ lo ++ " AND " ++ hi
  | .lengthBetween negated lower upper => do
    let lo ← bindSlot c.column (.int lower)
    let hi ← bindSlot c.column (.int upper)
    return (d.lengthFunction ++ "(" ++ c.text ++ ") " ++ notText negated ++ "BETWEEN " : String)
      ++ lo ++ " AND " ++ hi
  | .isIn negated vs => do
    let ss ← bindSlots c.column vs
    return (c.text ++ " " ++ notText negated ++ "IN (" : String) ++ SqlText.join ", " ss ++ ")"
  | .like negated pattern escaped => do
    let s ← bindSlot c.column (.text pattern)
    return (c.text ++ " " ++ notText negated ++ "LIKE " : String) ++ s
      ++ (if escaped then " ESCAPE '!'" else "")
  | .isNull negated => return (c.text ++ " IS " ++ notText negated ++ "NULL" : String)
  | .isTrue negated => return (c.text ++ " IS " ++ notText negated ++ "TRUE" : String)
  | .isFalse negated => return (c.text ++ " IS " ++ notText negated ++ "FALSE" : String)
  | .blank => return ("(" ++ c.text ++ " IS NULL OR " ++ c.text ++ " = '')" : String)
  | .filled => return ("(" ++ c.text ++ " IS NOT NULL AND " ++ c.text ++ " <> '')" : String)

end Test

/-- Conditions that continue a conjunction. -/
def andAll (conditions : List SqlText) : SqlText :=
  .concat (conditions.map fun c => " AND " ++ c)

/-- Whether a source is a single table. -/
def Source.isTable : Source → Bool
  | .table _ => true
  | .join .. => false

mutual

/-- The text of a condition. -/
def Condition.print (d : Dialect) : Condition → Binder SqlText
  | .never => return "1=0"
  | .test orNull c t => do
    let s ← t.print d c
    return if orNull then ("(" ++ c.text ++ " IS NULL OR " : String) ++ s ++ ")" else s
  | .subquery negated source link conditions => do
    let from_ ← source.print d
    let conds ← Condition.printAll d conditions
    return (notText negated ++ "EXISTS (SELECT 1 FROM " : String) ++ from_ ++ " WHERE " ++ link.text
      ++ andAll conds ++ ")"
termination_by structural x => x

/-- The text of a source. A join on the right stands in parentheses. -/
def Source.print (d : Dialect) : Source → Binder SqlText
  | .table t => return t.text
  | .join outer left right link conditions => do
    let l ← left.print d
    let r ← right.print d
    let conds ← Condition.printAll d conditions
    return l ++ (if outer then " LEFT JOIN " else " INNER JOIN ")
      ++ (if right.isTable then r else "(" ++ r ++ ")") ++ " ON " ++ link.text ++ andAll conds
termination_by structural x => x

/-- The texts of conditions, printed in order. -/
def Condition.printAll (d : Dialect) : List Condition → Binder (List SqlText)
  | [] => return []
  | c :: cs => do
    let s ← c.print d
    let ss ← Condition.printAll d cs
    return s :: ss
termination_by structural x => x

end

end Sift
