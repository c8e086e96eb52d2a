import Sift.Like
import Sift.Query.Range
import Sift.Sql.Condition

/-!
# Restrictions as conditions

Every restriction but the vacuous one is a condition on its column. A negated
predicate that has no answer for null admits null, so a restriction and its
negation divide the rows of a table between them.
-/
namespace Sift

/-- The test of a predicate, or of its negation. -/
def Predicate.test (negated : Bool) : Predicate → Test
  | .equals v => compare .eq v
  | .less v => compare .lt v
  | .lessOrEqual v => compare .le v
  | .greater v => compare .gt v
  | .greaterOrEqual v => compare .ge v
  | .between lower upper => .between negated lower upper
  | .isIn vs => .isIn negated vs
  | .like pattern => .like negated pattern false
  | .contains needle => .like negated ("%" ++ Like.escape needle ++ "%") true
  | .startsWith start => .like negated (Like.escape start ++ "%") true
  | .endsWith ending => .like negated ("%" ++ Like.escape ending) true
  | .isNull => .isNull negated
  | .isTrue => .isTrue negated
  | .isFalse => .isFalse negated
  | .empty => if negated then .filled else .blank
  | .lengthLess n => compareLength .lt n
  | .lengthLessOrEqual n => compareLength .le n
  | .lengthGreater n => compareLength .gt n
  | .lengthGreaterOrEqual n => compareLength .ge n
  | .lengthBetween lower upper => .lengthBetween negated lower upper
where
  compare (op : Comparison) (v : Value) : Test :=
    .compare (if negated then op.complement else op) v
  compareLength (op : Comparison) (n : Int64) : Test :=
    .compareLength (if negated then op.complement else op) n

/-- The condition of a restriction; none if every row satisfies it. -/
def Restriction.condition? (c : ColumnRef) (nullable : Bool) (x : Restriction) :
    Option Condition :=
  if x.isVacuous then none
  else if x.predictsEmpty then some .never
  else
    let orNull := x.negated && nullable && !x.predicate.isTotal
    some (.test orNull c (x.predicate.test x.negated))

/-- The conditions on the columns of a row type, whose table has a given name in the statement. -/
def Conditions.compile (r : RowType) (name : Option String) (c : Conditions) : List Condition :=
  c.fields.flatMap fun (column, xs) =>
    xs.filterMap (Restriction.condition? ⟨name, column⟩ (r.isNullable column))

end Sift
