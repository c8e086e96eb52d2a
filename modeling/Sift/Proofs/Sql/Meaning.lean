import Sift.RecordLayout
import Sift.Sql.Condition
import Mathlib.Data.List.Basic

/-!
# The meaning of SQL

SQL expressions have three truths, of which unknown is `none`. A comparison with null
is unknown, and a row is kept when a condition is true of it. A source gives the
rows that its tables contribute together; the tables of a subquery see those around
it.
-/
namespace Sift

namespace Comparison

/-- Whether a comparison holds of two values that lie to each other in some order. -/
def holds : Comparison → Ordering → Bool
  | .eq, o => o.isEq
  | .ne, o => o.isNe
  | .lt, o => o.isLT
  | .le, o => o.isLE
  | .gt, o => o.isGT
  | .ge, o => o.isGE

theorem holds_complement (op : Comparison) (o : Ordering) : op.complement.holds o = !op.holds o := by
  cases op <;> cases o <;> rfl

end Comparison

namespace Sql

/-! ## Truth -/

abbrev Truth := Option Bool

namespace Truth

def not (t : Truth) : Truth := t.map (!·)

def and : Truth → Truth → Truth
  | some false, _ => some false
  | _, some false => some false
  | some true, some true => some true
  | _, _ => none

def or : Truth → Truth → Truth
  | some true, _ => some true
  | _, some true => some true
  | some false, some false => some false
  | _, _ => none

/-- The truth, or that of the negation. -/
def negate (negated : Bool) (t : Truth) : Truth := if negated then t.not else t

theorem and_eq_true {t u : Truth} : t.and u = some true ↔ t = some true ∧ u = some true := by
  rcases t with _ | _ | _ <;> rcases u with _ | _ | _ <;> simp [and]

theorem negate_some (negated b : Bool) : negate negated (some b) = some (b != negated) := by
  cases negated <;> cases b <;> rfl

@[simp] theorem negate_none (negated : Bool) : negate negated none = none := by
  cases negated <;> rfl

end Truth

/-! ## Patterns -/

/-- A part of a pattern. -/
inductive Wildcard where
  /-- Any run of characters. -/
  | run
  /-- Any one character. -/
  | one
  | literal (c : Char)

/-- The parts of a pattern. The character after the escape character, if there is one, is literal; a
pattern does not end in its escape character. -/
def wildcards (escape : Option Char) : List Char → Option (List Wildcard)
  | [] => some []
  | [p] =>
    if escape = some p then none
    else some [if p = '%' then .run else if p = '_' then .one else .literal p]
  | p :: q :: ps =>
    if escape = some p then (wildcards escape ps).map (.literal q :: ·)
    else
      (wildcards escape (q :: ps)).map
        ((if p = '%' then .run else if p = '_' then .one else .literal p) :: ·)

/-- Whether parts of a pattern match a text. -/
def wildcardsMatch : List Wildcard → List Char → Bool
  | [], text => text.isEmpty
  | .run :: ps, text => text.tails.any (wildcardsMatch ps)
  | .one :: ps, _ :: cs => wildcardsMatch ps cs
  | .literal p :: ps, c :: cs => p == c && wildcardsMatch ps cs
  | _ :: _, [] => false

/-! ## Expressions -/

inductive Operand where
  | column (c : ColumnRef)
  /-- The number of characters of a column. -/
  | length (c : ColumnRef)
  | value (v : Value)
  | number (n : Nat)
  | text (s : String)

mutual

inductive Expr where
  | compare (op : Comparison) (x y : Operand)
  | between (negated : Bool) (x lower upper : Operand)
  | isIn (negated : Bool) (x : Operand) (ys : List Operand)
  | like (negated : Bool) (x pattern : Operand) (escape : Option Char)
  | isNull (negated : Bool) (x : Operand)
  /-- Whether an operand is true, or whether it is false. -/
  | isTruth (negated : Bool) (truth : Bool) (x : Operand)
  | and (x y : Expr)
  | or (x y : Expr)
  /-- Whether some row of a source satisfies a condition. -/
  | exist (negated : Bool) (source : From) (condition : Expr)

/-- Tables, each with its name in the statement. -/
inductive From where
  | table (table name : String)
  | join (outer : Bool) (left right : From) (on : Expr)

end

/-- What an operand stands for. A number of characters is not bounded. -/
inductive Datum where
  | value (v : Value)
  | number (n : Int)

namespace Datum

def isNull : Datum → Bool
  | .value v => v.isNull
  | .number _ => false

/-- The order of two data, if they have one. -/
def compare? : Datum → Datum → Option Ordering
  | .value v, .value w => v.compare? w
  | .number m, .value (.int j) => some (compare m j.toInt)
  | .value (.int i), .number n => some (compare i.toInt n)
  | .number m, .number n => some (compare m n)
  | _, _ => none

/-- Structural equality of data without an order. -/
def same : Datum → Datum → Bool
  | .value v, .value w => v == w
  | _, _ => false

/-- The truth of a comparison. Without an order, only structural equality is known. -/
def compare (op : Comparison) (x y : Datum) : Truth :=
  if x.isNull || y.isNull then none
  else
    match x.compare? y with
    | some o => some (op.holds o)
    | none =>
      match op with
      | .eq => some (x.same y)
      | .ne => some !(x.same y)
      | _ => none

/-- The truth of equality with one of several data. -/
def isIn (x : Datum) : List Datum → Truth
  | [] => some false
  | y :: ys => (compare .eq x y).or (isIn x ys)

/-- The truth of a match. -/
def like (escape : Option Char) : Datum → Datum → Truth
  | .value (.text s), .value (.text pattern) =>
    (wildcards escape pattern.toList).map fun ps => wildcardsMatch ps s.toList
  | _, _ => none

end Datum

/-! ## Rows -/

/-- A row, known by its place in its table, so that equal rows are two rows. -/
structure Row where
  record : Record
  place : Nat

/-- The rows of each table. -/
abbrev Database := String → List Record

def Database.rows (db : Database) (table : String) : List Row :=
  (db table).zipIdx.map fun p => ⟨p.1, p.2⟩

/-- The row that each table of a source contributes. One that contributes none is null in every
column. -/
abbrev Assignment := String → Option Row

/-- The value of each column that an expression can name. -/
abbrev Lookup := ColumnRef → Value

namespace Assignment

/-- A table with one of its rows. -/
def single (name : String) (r : Row) : Assignment := fun n => if n = name then some r else none

/-- The rows of both sides of a join. -/
def merge (a b : Assignment) : Assignment := fun n => (a n).or (b n)

/-- The columns of the named tables, and those around them. -/
def lookup (a : Assignment) (names : List String) (outer : Lookup) : Lookup := fun c =>
  match c.table with
  | some t => if t ∈ names then ((a t).map (·.record.valueOf c.column)).getD .null else outer c
  | none => outer c

end Assignment

namespace From

/-- The names of the tables of a source. -/
def names : From → List String
  | table _ name => [name]
  | join _ left right _ => left.names ++ right.names

end From

def Operand.datum (look : Lookup) : Operand → Datum
  | .column c => .value (look c)
  | .length c =>
    match look c with
    | .text s => .number s.length
    | _ => .value .null
  | .value v => .value v
  | .number n => .number n
  | .text s => .value (.text s)

mutual

/-- The truth of an expression. -/
def Expr.truth (db : Database) (look : Lookup) : Expr → Truth
  | .compare op x y => Datum.compare op (x.datum look) (y.datum look)
  | .between negated x lower upper =>
    ((Datum.compare .ge (x.datum look) (lower.datum look)).and
      (Datum.compare .le (x.datum look) (upper.datum look))).negate negated
  | .isIn negated x ys => ((x.datum look).isIn (ys.map (·.datum look))).negate negated
  | .like negated x pattern escape =>
    (Datum.like escape (x.datum look) (pattern.datum look)).negate negated
  | .isNull negated x => some ((x.datum look).isNull != negated)
  | .isTruth negated b x => some ((x.datum look).same (.value (.bool b)) != negated)
  | .and x y => (x.truth db look).and (y.truth db look)
  | .or x y => (x.truth db look).or (y.truth db look)
  | .exist negated source condition =>
    some (((source.rows db look).any fun a =>
      condition.truth db (a.lookup source.names look) == some true) != negated)
termination_by structural x => x

/-- The rows of a source. A join keeps the pairs of which its condition is true; an outer join keeps
rows of its left side without a partner. -/
def From.rows (db : Database) (look : Lookup) : From → List Assignment
  | .table t name => (db.rows t).map (Assignment.single name)
  | .join outer left right on =>
    (left.rows db look).flatMap fun a =>
      let partners := ((right.rows db look).map a.merge).filter fun m =>
        on.truth db (m.lookup (left.names ++ right.names) look) == some true
      if outer && partners.isEmpty then [a] else partners
termination_by structural x => x

end

/-- A source and the condition on its rows. -/
structure Query where
  source : From
  condition : Option Expr

/-- The rows that a query keeps. -/
def Query.rows (db : Database) (look : Lookup) (q : Query) : List Assignment :=
  match q.condition with
  | none => q.source.rows db look
  | some e => (q.source.rows db look).filter fun a =>
    e.truth db (a.lookup q.source.names look) == some true

end Sql
end Sift
