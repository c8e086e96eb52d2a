import Sift.Proofs.Event
import Sift.Restriction

/-!
# Restrictions that constructors give

A restriction holds only what its constructor let pass. Its operands, the values that a
column is compared with, are not null.
-/
namespace Sift

/-- The values that a predicate compares a column with. -/
def Predicate.operands : Predicate → List Value
  | .equals v | .less v | .lessOrEqual v | .greater v | .greaterOrEqual v => [v]
  | .between lower upper => [lower, upper]
  | .isIn vs => vs
  | _ => []

namespace Restriction

/-- What the constructors give, and the opposites of these. -/
inductive Constructed : Restriction → Prop where
  | equals (v : Value) : Constructed (.equals v)
  | notEquals (v : Value) : Constructed (.notEquals v)
  | less {v : Value} {x : Restriction} (done : Restriction.less v = .ok x) : Constructed x
  | lessOrEqual {v : Value} {x : Restriction} (done : Restriction.lessOrEqual v = .ok x) : Constructed x
  | greater {v : Value} {x : Restriction} (done : Restriction.greater v = .ok x) : Constructed x
  | greaterOrEqual {v : Value} {x : Restriction} (done : Restriction.greaterOrEqual v = .ok x) : Constructed x
  | between {lower upper : Value} {x : Restriction} (done : Restriction.between lower upper = .ok x) :
      Constructed x
  | notBetween {lower upper : Value} {x : Restriction} (done : Restriction.notBetween lower upper = .ok x) :
      Constructed x
  | isIn {vs : List Value} {x : Restriction} (done : Restriction.isIn vs = .ok x) : Constructed x
  | notIn {vs : List Value} {x : Restriction} (done : Restriction.notIn vs = .ok x) : Constructed x
  | like (pattern : String) : Constructed (.like pattern)
  | notLike (pattern : String) : Constructed (.notLike pattern)
  | contains (needle : String) : Constructed (.contains needle)
  | notContains (needle : String) : Constructed (.notContains needle)
  | startsWith (start : String) : Constructed (.startsWith start)
  | notStartsWith (start : String) : Constructed (.notStartsWith start)
  | endsWith (ending : String) : Constructed (.endsWith ending)
  | notEndsWith (ending : String) : Constructed (.notEndsWith ending)
  | isNull : Constructed .isNull
  | isNotNull : Constructed .isNotNull
  | isTrue : Constructed .isTrue
  | isFalse : Constructed .isFalse
  | empty : Constructed .empty
  | notEmpty : Constructed .notEmpty
  | lengthLess {n : Int64} {x : Restriction} (done : Restriction.lengthLess n = .ok x) : Constructed x
  | lengthLessOrEqual {n : Int64} {x : Restriction} (done : Restriction.lengthLessOrEqual n = .ok x) :
      Constructed x
  | lengthGreater {n : Int64} {x : Restriction} (done : Restriction.lengthGreater n = .ok x) : Constructed x
  | lengthGreaterOrEqual {n : Int64} {x : Restriction} (done : Restriction.lengthGreaterOrEqual n = .ok x) :
      Constructed x
  | lengthBetween {lower upper : Int64} {x : Restriction}
      (done : Restriction.lengthBetween lower upper = .ok x) : Constructed x
  | negate {x : Restriction} (constructed : Constructed x) : Constructed x.negate

/-! ## What the checks let pass -/

theorem present_of_requireValue {v : Value} {operation : String}
    (passed : requireValue v operation = .ok ()) : v.isNull = false := by
  rw [requireValue] at passed
  split at passed
  · cases passed
  next present => exact Bool.eq_false_iff.mpr present

/-- A comparison with a checked value. -/
theorem eq_of_requireValue {v : Value} {operation : String} {p : Predicate} {x : Restriction}
    (done : (do requireValue v operation; return of p) = Except.ok x) : v.isNull = false ∧ x = of p := by
  obtain ⟨_, passed, done⟩ := ok_of_bind done
  exact ⟨present_of_requireValue passed, (Except.ok.inj done).symm⟩

theorem eq_of_requireLength {n : Int64} {operation : String} {p : Predicate} {x : Restriction}
    (done : (do requireLength n operation; return of p) = Except.ok x) : x = of p := by
  obtain ⟨_, -, done⟩ := ok_of_bind done
  exact (Except.ok.inj done).symm

theorem eq_of_between {lower upper : Value} {x : Restriction} (done : between lower upper = .ok x) :
    lower.isNull = false ∧ upper.isNull = false ∧ x = of (.between lower upper) := by
  unfold between at done
  obtain ⟨_, first, done⟩ := ok_of_bind done
  obtain ⟨_, second, done⟩ := ok_of_bind done
  refine ⟨present_of_requireValue first, present_of_requireValue second, ?_⟩
  split at done
  · exact (Except.ok.inj done).symm
  · split at done
    · cases done
    · exact (Except.ok.inj done).symm
    · cases done

/-- Values that are listed once are values of the list, none of them null. -/
theorem mem_of_distinct {vs seen us : List Value} (done : distinct seen vs = .ok us) {v : Value}
    (member : v ∈ us) : v ∈ seen ∨ v ∈ vs ∧ v.isNull = false := by
  induction vs generalizing seen with
  | nil =>
    rw [distinct] at done
    exact .inl (Except.ok.inj done ▸ member)
  | cons w vs ih =>
    rw [distinct] at done
    obtain ⟨_, passed, done⟩ := ok_of_bind done
    rcases ih done with before | ⟨later, present⟩
    · split at before
      · exact .inl before
      · rcases List.mem_append.mp before with before | here
        · exact .inl before
        · cases List.mem_singleton.mp here
          exact .inr ⟨List.mem_cons_self, present_of_requireValue passed⟩
    · exact .inr ⟨List.mem_cons_of_mem w later, present⟩

theorem eq_of_isIn {vs : List Value} {x : Restriction} (done : isIn vs = .ok x) :
    ∃ us, distinct [] vs = .ok us ∧ x = of (.isIn us) := by
  unfold isIn at done
  obtain ⟨us, listed, done⟩ := ok_of_bind done
  exact ⟨us, listed, (Except.ok.inj done).symm⟩

theorem eq_of_lengthBetween {lower upper : Int64} {x : Restriction}
    (done : lengthBetween lower upper = .ok x) : x = of (.lengthBetween lower upper) := by
  unfold lengthBetween at done
  obtain ⟨_, -, done⟩ := ok_of_bind done
  exact (Except.ok.inj (ok_of_guard done).2).symm

/-! ## Operands -/

/-- Whether every operand is a value. -/
def Comparable (x : Restriction) : Prop := ∀ v ∈ x.predicate.operands, v.isNull = false

theorem Comparable.negate {x : Restriction} (comparable : x.Comparable) : x.negate.Comparable := comparable

theorem comparable_single {v : Value} {p : Predicate} (present : v.isNull = false)
    (operand : p.operands = [v]) : (of p).Comparable := by
  intro w member
  rw [show (of p).predicate.operands = [v] from operand] at member
  exact List.mem_singleton.mp member ▸ present

theorem comparable_of_nothing {x : Restriction} (nothing : x.predicate.operands = []) : x.Comparable := by
  intro w member
  rw [nothing] at member
  cases member

theorem comparable_equals (v : Value) : (equals v).Comparable := by
  cases v with
  | null => exact comparable_of_nothing rfl
  | _ => exact comparable_single rfl rfl

theorem comparable_isIn {vs : List Value} {x : Restriction} (done : isIn vs = .ok x) : x.Comparable := by
  obtain ⟨us, listed, rfl⟩ := eq_of_isIn done
  intro v member
  rcases mem_of_distinct listed member with before | ⟨-, present⟩
  · cases before
  · exact present

theorem comparable_between {lower upper : Value} {x : Restriction} (done : between lower upper = .ok x) :
    x.Comparable := by
  obtain ⟨first, second, rfl⟩ := eq_of_between done
  intro v member
  rcases List.mem_cons.mp member with rfl | member
  · exact first
  · exact List.mem_singleton.mp member ▸ second

/-- No constructed restriction compares with null. -/
theorem Constructed.comparable {x : Restriction} (constructed : x.Constructed) : x.Comparable := by
  induction constructed with
  | equals v => exact comparable_equals v
  | notEquals v => exact (comparable_equals v).negate
  | less done | lessOrEqual done | greater done | greaterOrEqual done =>
    obtain ⟨present, rfl⟩ := eq_of_requireValue done
    exact comparable_single present rfl
  | between done => exact comparable_between done
  | notBetween done =>
    obtain ⟨y, given, done⟩ := ok_of_bind done
    rw [← Except.ok.inj done]
    exact (comparable_between given).negate
  | isIn done => exact comparable_isIn done
  | notIn done =>
    obtain ⟨y, given, done⟩ := ok_of_bind done
    rw [← Except.ok.inj done]
    exact (comparable_isIn given).negate
  | lengthLess done =>
    rw [Restriction.lengthLess] at done
    split at done
    · cases done
    · rw [← Except.ok.inj done]
      exact comparable_of_nothing rfl
  | lengthLessOrEqual done | lengthGreater done | lengthGreaterOrEqual done =>
    rw [eq_of_requireLength done]
    exact comparable_of_nothing rfl
  | lengthBetween done =>
    rw [eq_of_lengthBetween done]
    exact comparable_of_nothing rfl
  | negate _ ih => exact ih.negate
  | _ => exact comparable_of_nothing rfl

end Restriction
end Sift
