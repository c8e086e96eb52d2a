import Sift.Query

/-!
# Queries that no row satisfies

A column cannot lie above its greatest lower bound and below its least upper
bound when these contradict each other. Texts are left out: their order depends
on the collation.
-/
namespace Sift

/-- One end of a range. -/
structure Bound where
  value : Value
  inclusive : Bool

namespace Predicate

/-- What the predicate says a column is not below. -/
def lowerBound? : Predicate → Option Bound
  | .equals v => some ⟨v, true⟩
  | .greater v => some ⟨v, false⟩
  | .greaterOrEqual v => some ⟨v, true⟩
  | .between lower _ => some ⟨lower, true⟩
  | _ => none

/-- What the predicate says a column is not above. -/
def upperBound? : Predicate → Option Bound
  | .equals v => some ⟨v, true⟩
  | .less v => some ⟨v, false⟩
  | .lessOrEqual v => some ⟨v, true⟩
  | .between _ upper => some ⟨upper, true⟩
  | _ => none

end Predicate

namespace Bound

/-- The tighter of two bounds, `tighter` being the order of a tighter bound to another one. There
is none if the bounds are not comparable. -/
def tighten? (tighter : Ordering) (old new : Bound) : Option Bound :=
  (new.value.compareUncollated? old.value).map fun o =>
    if o = tighter then new
    else if o = .eq then { old with inclusive := old.inclusive && new.inclusive }
    else old

/-- The tightest of a list of bounds, if the list is not empty and all are comparable. -/
def tightest? (tighter : Ordering) : List Bound → Option Bound
  | [] => none
  | b :: bs => bs.foldlM (tighten? tighter) b

/-- Whether no value lies between a lower and an upper bound. -/
def excludes (lower upper : Bound) : Bool :=
  match lower.value.compareUncollated? upper.value with
  | some .gt => true
  | some .eq => !(lower.inclusive && upper.inclusive)
  | _ => false

end Bound

/-- The predicates of a list of restrictions that are not negated. -/
def Restriction.positives (xs : List Restriction) : List Predicate :=
  (xs.filter fun x => !x.negated).map (·.predicate)

/-- Whether the ranges that a column is restricted to exclude every value. -/
def Restriction.contradict (xs : List Restriction) : Bool :=
  let ps := positives xs
  match Bound.tightest? .gt (ps.filterMap (·.lowerBound?)),
      Bound.tightest? .lt (ps.filterMap (·.upperBound?)) with
  | some lower, some upper => lower.excludes upper
  | _, _ => false

/-- Whether no row can satisfy the conditions. -/
def Conditions.predictsEmpty (c : Conditions) : Bool :=
  c.fields.any fun (_, xs) => xs.any (·.predictsEmpty) || Restriction.contradict xs

def Query.predictsEmpty {r : RowType} (q : Query r) : Bool := q.conditions.predictsEmpty

end Sift
