import Sift.Proofs.Sql.Form
import Sift.Restriction.Condition

/-!
# Forms of restrictions

The form of a restriction is what is left of it without its values: its predicate,
whether it is negated and, of a list, how many values it has. Conditions of one form
compile to conditions of one form.
-/
namespace Sift

/-- A predicate without its values. -/
def Predicate.form : Predicate → Predicate
  | .equals _ => .equals .null
  | .less _ => .less .null
  | .lessOrEqual _ => .lessOrEqual .null
  | .greater _ => .greater .null
  | .greaterOrEqual _ => .greaterOrEqual .null
  | .between _ _ => .between .null .null
  | .isIn vs => .isIn (vs.map fun _ => .null)
  | .like _ => .like ""
  | .contains _ => .contains ""
  | .startsWith _ => .startsWith ""
  | .endsWith _ => .endsWith ""
  | .isNull => .isNull
  | .isTrue => .isTrue
  | .isFalse => .isFalse
  | .empty => .empty
  | .lengthLess _ => .lengthLess 0
  | .lengthLessOrEqual _ => .lengthLessOrEqual 0
  | .lengthGreater _ => .lengthGreater 0
  | .lengthGreaterOrEqual _ => .lengthGreaterOrEqual 0
  | .lengthBetween _ _ => .lengthBetween 0 0

/-- A restriction without its values. -/
def Restriction.form (x : Restriction) : Restriction := ⟨x.predicate.form, x.negated⟩

/-- Conditions without their values. Which restriction was added last does not matter. -/
def Conditions.form (c : Conditions) : Conditions :=
  ⟨c.fields.map fun (column, xs) => (column, xs.map Restriction.form), none⟩

theorem Predicate.isTotal_form (p : Predicate) : p.form.isTotal = p.isTotal := by cases p <;> rfl

theorem Predicate.form_test (negated : Bool) (p : Predicate) :
    (p.form.test negated).form = (p.test negated).form := by
  cases p with
  | isIn vs => simp only [form, test, Test.form, List.map_map, Function.comp_def]
  | empty => rfl
  | _ => rfl

namespace Restriction

theorem isVacuous_form (x : Restriction) : x.form.isVacuous = x.isVacuous := by
  obtain ⟨p, negated⟩ := x
  cases p with
  | isIn vs => cases vs <;> rfl
  | _ => rfl

theorem predictsEmpty_form (x : Restriction) : x.form.predictsEmpty = x.predictsEmpty := by
  obtain ⟨p, negated⟩ := x
  cases p with
  | isIn vs => cases vs <;> rfl
  | _ => rfl

theorem form_condition? (c : ColumnRef) (nullable : Bool) (x : Restriction) :
    (condition? c nullable x.form).map Condition.form = (condition? c nullable x).map Condition.form := by
  simp only [condition?, isVacuous_form, predictsEmpty_form]
  split
  · rfl
  · split
    · rfl
    · show some (Condition.test _ c ((x.predicate.form.test x.negated).form)) = some (.test _ c _)
      rw [Predicate.form_test, form, Predicate.isTotal_form]

end Restriction

namespace Conditions

theorem form_compile (r : RowType) (name : Option String) (c : Conditions) :
    (c.form.compile r name).map Condition.form = (c.compile r name).map Condition.form := by
  simp only [compile, form, List.flatMap_map, List.map_flatMap, List.map_filterMap, List.filterMap_map]
  refine List.flatMap_congr fun f _ => List.filterMap_congr fun x _ => ?_
  exact Restriction.form_condition? ⟨name, f.1⟩ (r.isNullable f.1) x

/-- Conditions of one form compile to conditions of one form. -/
theorem form_compile_of_form {c d : Conditions} (same : c.form = d.form) (r : RowType) (name : Option String) :
    (c.compile r name).map Condition.form = (d.compile r name).map Condition.form := by
  rw [← form_compile, same, form_compile]

/-- Conditions of one form restrict the same columns. -/
theorem check_form (c : Conditions) (r : RowType) : c.form.check r = c.check r := by
  rw [check, check, form]
  induction c.fields with
  | nil => rfl
  | cons f fields ih =>
    show (r.checkColumn f.1 >>= fun _ => _) = (r.checkColumn f.1 >>= fun _ => _)
    rw [ih]

end Conditions
end Sift
