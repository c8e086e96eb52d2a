import Sift.Proofs.Like
import Sift.Proofs.RowType
import Sift.Proofs.Sql.RoundTrip
import Sift.Restriction.Evaluation
import Sift.Statement.Table
import Mathlib.Order.Compare
import Mathlib.Algebra.Order.Group.Int

/-!
# Conditions agree with restrictions

A restriction holds of a value exactly when its condition is true of a row with that
value: the test of a predicate has the truth that the predicate has, as long as the
value is of the kind that the predicate is about, and null is admitted where the
predicate has no answer for it.
-/
namespace Sift

open Sql

/-! ## What predicates are about -/

/-- Whether a value can be compared with `x`. -/
def Value.Ordered (v x : Value) : Prop := (v.compare? x).isSome = true

/-- Whether a value can be asked to equal `x`: both are ordered or both are documents. -/
def Value.Equatable (v x : Value) : Prop :=
  v.Ordered x ∨ ∃ j k, v = .json j ∧ x = .json k

/-- The values that a predicate is about. -/
def Predicate.IsAbout (v : Value) : Predicate → Prop
  | .equals x => v.Equatable x
  | .less x | .lessOrEqual x | .greater x | .greaterOrEqual x => v.Ordered x
  | .between lower upper => v.Ordered lower ∧ v.Ordered upper
  | .isIn xs => ∀ x ∈ xs, v.Equatable x
  | .like _ | .contains _ | .startsWith _ | .endsWith _ | .empty => ∃ s, v = .text s
  | .lengthLess _ | .lengthLessOrEqual _ | .lengthGreater _ | .lengthGreaterOrEqual _
  | .lengthBetween .. => ∃ s, v = .text s
  | .isNull => True
  | .isTrue | .isFalse => ∃ b, v = .bool b

/-- The values that a predicate can meet in a column: those that it is about, and null if the column
is nullable. -/
def Predicate.Meets (nullable : Bool) (v : Value) (p : Predicate) : Prop :=
  if v.isNull then nullable = true else p.IsAbout v

namespace Value

theorem Ordered.present {v x : Value} (ordered : v.Ordered x) : v.isNull = false ∧ x.isNull = false := by
  cases v <;> cases x <;> first | exact ⟨rfl, rfl⟩ | cases ordered

theorem Equatable.present {v x : Value} (equatable : v.Equatable x) :
    v.isNull = false ∧ x.isNull = false := by
  rcases equatable with ordered | ⟨j, k, rfl, rfl⟩
  · exact ordered.present
  · exact ⟨rfl, rfl⟩

theorem isNull_iff {v : Value} : v.isNull = true ↔ v = .null := by
  cases v <;> simp [isNull]

end Value

namespace Sql

/-! ## Comparisons of values -/

theorem compare_ordered {v x : Value} {o : Ordering} (compared : v.compare? x = some o)
    (op : Comparison) : Datum.compare op (.value v) (.value x) = some (op.holds o) := by
  have present : v.isNull = false ∧ x.isNull = false := Value.Ordered.present (by simp [Value.Ordered, compared])
  simp [Datum.compare, Datum.isNull, Datum.compare?, present, compared]

theorem compare_eq {v x : Value} (equatable : v.Equatable x) :
    Datum.compare .eq (.value v) (.value x) = some (v.equals x) := by
  have present := equatable.present
  rw [Value.equals]
  cases compared : v.compare? x with
  | some o => exact compare_ordered compared .eq
  | none => simp [Datum.compare, Datum.isNull, Datum.compare?, present, compared, Datum.same]

theorem compare_ne {v x : Value} (equatable : v.Equatable x) :
    Datum.compare .ne (.value v) (.value x) = some !(v.equals x) := by
  have present := equatable.present
  rw [Value.equals]
  cases compared : v.compare? x with
  | some o =>
    rw [compare_ordered compared .ne]
    cases o <;> rfl
  | none => simp [Datum.compare, Datum.isNull, Datum.compare?, present, compared, Datum.same]

theorem isIn_eq {v : Value} {xs : List Value} (equatable : ∀ x ∈ xs, v.Equatable x) :
    Datum.isIn (.value v) (xs.map .value) = some (xs.any fun x => v.equals x) := by
  induction xs with
  | nil => rfl
  | cons x xs ih =>
    rw [List.map_cons, Datum.isIn, compare_eq (equatable x List.mem_cons_self),
      ih fun y member => equatable y (List.mem_cons_of_mem x member)]
    cases first : v.equals x <;> cases rest : xs.any fun x => v.equals x <;>
      simp [Truth.or, first, rest]

@[simp] theorem compare_null (op : Comparison) (x : Datum) :
    Datum.compare op (.value .null) x = none := rfl

/-- Null is in no list that is not empty, and it is unknown whether it is. -/
theorem isIn_null (x : Datum) (xs : List Datum) : Datum.isIn (.value .null) (x :: xs) = none := by
  induction xs generalizing x with
  | nil => rfl
  | cons y ys ih => rw [Datum.isIn, compare_null, ih y]; rfl

end Sql

/-! ## Tests -/

namespace Comparison

/-- A comparison of integers, or its complement. -/
theorem holds_compare (a b : Int) :
    Comparison.lt.holds (compare a b) = decide (a < b) ∧
      Comparison.le.holds (compare a b) = decide (a ≤ b) ∧
      Comparison.gt.holds (compare a b) = decide (b < a) ∧
      Comparison.ge.holds (compare a b) = decide (b ≤ a) := by
  rcases Int.lt_trichotomy a b with less | rfl | greater
  · rw [compare_lt_iff_lt.mpr less]
    refine ⟨?_, ?_, ?_, ?_⟩ <;> simp [holds] <;> omega
  · rw [compare_eq_iff_eq.mpr rfl]
    refine ⟨?_, ?_, ?_, ?_⟩ <;> simp [holds]
  · rw [compare_gt_iff_gt.mpr greater]
    refine ⟨?_, ?_, ?_, ?_⟩ <;> simp [holds] <;> omega

end Comparison

namespace Sql

variable {db : Database} {look : Lookup} {c : ColumnRef}

/-- A comparison with a value, negated by its complement. -/
theorem truth_compare {x : Value} {o : Ordering} (compared : (look c).compare? x = some o)
    (op : Comparison) (negated : Bool) :
    ((Predicate.test.compare negated op x).expr c).truth db look = some (op.holds o != negated) := by
  show Datum.compare _ (.value (look c)) (.value x) = _
  rw [compare_ordered compared]
  cases negated <;> simp [Comparison.holds_complement]

theorem compare_length {s : String} (text : look c = .text s) (op : Comparison) (n : Int64) :
    Datum.compare op ((Operand.length c).datum look) (.value (.int n)) =
      some (op.holds (compare (s.length : Int) n.toInt)) := by
  have datum : (Operand.length c).datum look = .number s.length := by simp [Operand.datum, text]
  simp [datum, Datum.compare, Datum.isNull, Value.isNull, Datum.compare?]

/-- A comparison of a length, negated by its complement. -/
theorem truth_compareLength {s : String} (text : look c = .text s) (op : Comparison) (n : Int64)
    (negated : Bool) :
    ((Predicate.test.compareLength negated op n).expr c).truth db look =
      some (op.holds (compare (s.length : Int) n.toInt) != negated) := by
  show Datum.compare _ ((Operand.length c).datum look) (.value (.int n)) = _
  rw [compare_length text]
  cases negated <;> simp [Comparison.holds_complement]

theorem truth_and (a b : Bool) : Truth.and (some a) (some b) = some (a && b) := by
  cases a <;> cases b <;> rfl

theorem truth_or (a b : Bool) : Truth.or (some a) (some b) = some (a || b) := by
  cases a <;> cases b <;> rfl

theorem isEq_compare (s t : String) : (compare s t).isEq = (s == t) := by
  rw [Bool.eq_iff_iff, beq_iff_eq, Ordering.isEq_iff_eq_eq]
  exact Std.LawfulEqCmp.compare_eq_iff_eq

/-- A pattern test of a text, or its negation. -/
theorem truth_like {s pattern : String} {b : Bool} (text : look c = .text s) (escaped : Bool)
    (matched : Datum.like (if escaped then some '!' else none) (.value (.text s)) (.value (.text pattern)) =
      some b) (negated : Bool) :
    ((Test.like negated pattern escaped).expr c).truth db look = some (b != negated) := by
  show (Datum.like _ (.value (look c)) _).negate negated = _
  rw [text]
  exact (congrArg _ matched).trans (Truth.negate_some _ _)

/-- A text is blank or filled. -/
theorem truth_empty {s : String} (text : look c = .text s) (negated : Bool) :
    ((Predicate.empty.test negated).expr c).truth db look = some ((s == "") != negated) := by
  have compared (op : Comparison) : Datum.compare op (.value (look c)) (.value (.text "")) =
      some (op.holds (compare s "")) := compare_ordered (by rw [text]; rfl) op
  have null (negated : Bool) : (Expr.isNull negated (.column c)).truth db look = some negated := by
    show some ((look c).isNull != negated) = _
    rw [text, show (Value.text s).isNull = false from rfl, Bool.false_bne]
  cases negated with
  | false =>
    show ((Expr.isNull false (.column c)).truth db look).or
      (Datum.compare .eq (.value (look c)) (.value (.text ""))) = _
    rw [null, compared, truth_or, Comparison.holds, isEq_compare]
    simp
  | true =>
    show ((Expr.isNull true (.column c)).truth db look).and
      (Datum.compare .ne (.value (look c)) (.value (.text ""))) = _
    rw [null, compared, truth_and, show Comparison.ne = Comparison.eq.complement from rfl,
      Comparison.holds_complement, Comparison.holds, isEq_compare]
    simp

end Sql

namespace Predicate

theorem eval_present {v : Value} (present : v.isNull = false) (p : Predicate) :
    p.eval v = p.evalPresent v := by
  simp [eval, present]

variable {db : Database} {look : Lookup} {c : ColumnRef}

/-- A test of a value that a predicate is about has the predicate's truth. -/
theorem truth_of_about {p : Predicate} (about : p.IsAbout (look c)) (present : (look c).isNull = false)
    (negated : Bool) :
    ∃ b, p.eval (look c) = some b ∧
      ((p.test negated).expr c).truth db look = some (b != negated) := by
  rw [eval_present present]
  cases p with
  | equals x =>
    refine ⟨_, rfl, ?_⟩
    show Datum.compare _ (.value (look c)) (.value x) = _
    cases negated with
    | false => simpa using compare_eq about
    | true => simpa [Comparison.complement] using compare_ne about
  | less x =>
    obtain ⟨o, compared⟩ := Option.isSome_iff_exists.mp about
    exact ⟨o.isLT, by simp [evalPresent, compared], truth_compare compared .lt negated⟩
  | lessOrEqual x =>
    obtain ⟨o, compared⟩ := Option.isSome_iff_exists.mp about
    exact ⟨o.isLE, by simp [evalPresent, compared], truth_compare compared .le negated⟩
  | greater x =>
    obtain ⟨o, compared⟩ := Option.isSome_iff_exists.mp about
    exact ⟨o.isGT, by simp [evalPresent, compared], truth_compare compared .gt negated⟩
  | greaterOrEqual x =>
    obtain ⟨o, compared⟩ := Option.isSome_iff_exists.mp about
    exact ⟨o.isGE, by simp [evalPresent, compared], truth_compare compared .ge negated⟩
  | between lower upper =>
    obtain ⟨o, above⟩ := Option.isSome_iff_exists.mp about.1
    obtain ⟨o', below⟩ := Option.isSome_iff_exists.mp about.2
    refine ⟨o.isGE && o'.isLE, by simp [evalPresent, above, below], ?_⟩
    show ((Datum.compare .ge (.value (look c)) (.value lower)).and
      (Datum.compare .le (.value (look c)) (.value upper))).negate negated = _
    rw [compare_ordered above, compare_ordered below, truth_and, Truth.negate_some]
    rfl
  | isIn xs =>
    refine ⟨_, rfl, ?_⟩
    have elements : (xs.map Operand.value).map (·.datum look) = xs.map Datum.value := by
      simp [Operand.datum]
    show (Datum.isIn (.value (look c)) ((xs.map Operand.value).map (·.datum look))).negate negated = _
    rw [elements, isIn_eq about, Truth.negate_some]
  | like pattern =>
    obtain ⟨s, text⟩ := about
    exact ⟨Like.isMatch pattern s, by rw [text]; rfl,
      truth_like text false (Like.like_plain pattern s) negated⟩
  | contains needle =>
    obtain ⟨s, text⟩ := about
    exact ⟨_, by rw [text]; rfl, truth_like text true (Like.like_contains needle s) negated⟩
  | startsWith start =>
    obtain ⟨s, text⟩ := about
    exact ⟨_, by rw [text]; rfl, truth_like text true (Like.like_startsWith start s) negated⟩
  | endsWith ending =>
    obtain ⟨s, text⟩ := about
    exact ⟨_, by rw [text]; rfl, truth_like text true (Like.like_endsWith ending s) negated⟩
  | isNull =>
    refine ⟨false, rfl, ?_⟩
    show some ((look c).isNull != negated) = _
    rw [present]
  | isTrue => exact ⟨_, rfl, rfl⟩
  | isFalse => exact ⟨_, rfl, rfl⟩
  | empty =>
    obtain ⟨s, text⟩ := about
    exact ⟨s == "", by rw [text]; rfl, truth_empty text negated⟩
  | lengthLess n =>
    obtain ⟨s, text⟩ := about
    refine ⟨_, by rw [text]; rfl, ?_⟩
    exact (truth_compareLength text .lt n negated).trans (by rw [(Comparison.holds_compare _ _).1])
  | lengthLessOrEqual n =>
    obtain ⟨s, text⟩ := about
    refine ⟨_, by rw [text]; rfl, ?_⟩
    exact (truth_compareLength text .le n negated).trans (by rw [(Comparison.holds_compare _ _).2.1])
  | lengthGreater n =>
    obtain ⟨s, text⟩ := about
    refine ⟨_, by rw [text]; rfl, ?_⟩
    exact (truth_compareLength text .gt n negated).trans (by rw [(Comparison.holds_compare _ _).2.2.1])
  | lengthGreaterOrEqual n =>
    obtain ⟨s, text⟩ := about
    refine ⟨_, by rw [text]; rfl, ?_⟩
    exact (truth_compareLength text .ge n negated).trans (by rw [(Comparison.holds_compare _ _).2.2.2])
  | lengthBetween lower upper =>
    obtain ⟨s, text⟩ := about
    refine ⟨_, by rw [text]; rfl, ?_⟩
    show ((Datum.compare .ge ((Operand.length c).datum look) (.value (.int lower))).and
      (Datum.compare .le ((Operand.length c).datum look) (.value (.int upper)))).negate negated = _
    rw [compare_length text, compare_length text, truth_and, Truth.negate_some,
      (Comparison.holds_compare _ _).2.2.2,
      (Comparison.holds_compare _ _).2.1]

theorem isSome_eval_null (p : Predicate) : (p.eval .null).isSome = p.isTotal := by
  cases p <;> rfl

/-- A test of null has the predicate's truth too. -/
theorem truth_of_null {p : Predicate} (null : look c = .null) (nonempty : p ≠ .isIn []) (negated : Bool) :
    ((p.test negated).expr c).truth db look = (p.eval .null).map (· != negated) := by
  cases p with
  | isIn xs =>
    cases xs with
    | nil => exact absurd rfl nonempty
    | cons x xs =>
      have elements : ((x :: xs).map Operand.value).map (·.datum look) =
          .value x :: xs.map Datum.value := by simp [Operand.datum]
      show (Datum.isIn (.value (look c)) (((x :: xs).map Operand.value).map (·.datum look))).negate
        negated = none
      rw [elements, null, isIn_null, Truth.negate_none]
  | _ =>
    cases negated <;>
      simp [test, test.compare, test.compareLength, Test.expr, Expr.truth, Operand.datum, null, eval,
        Value.isNull, Datum.compare, Datum.isNull, Datum.like, Datum.same, Truth.and, Truth.or] <;>
      rfl

end Predicate

/-! ## Conditions -/

namespace Restriction

variable {db : Database} {look : Lookup} {c : ColumnRef} {nullable : Bool}

theorem condition?_of_ne {p : Predicate} (nonempty : p ≠ .isIn []) (negated : Bool) :
    condition? c nullable ⟨p, negated⟩ =
      some (.test (negated && nullable && !p.isTotal) c (p.test negated)) := by
  cases p with
  | isIn xs =>
    cases xs with
    | nil => exact absurd rfl nonempty
    | cons => rfl
  | _ => rfl

theorem truth_orNull (orNull : Bool) (t : Test) :
    (Condition.test orNull c t).expr.truth db look =
      if orNull then Truth.or (some (look c).isNull) ((t.expr c).truth db look)
      else (t.expr c).truth db look := by
  cases orNull with
  | false => rfl
  | true =>
    show Truth.or (some ((look c).isNull != false)) _ = _
    rw [Bool.bne_false]
    rfl

theorem never_false : Condition.never.expr.truth db look = some false := rfl

/-- The condition of a restriction is true of a row exactly when the restriction holds of the row's
value. A restriction without a condition holds of every value. -/
theorem holds_iff_condition (x : Restriction) (meets : x.predicate.Meets nullable (look c)) :
    x.holds (look c) = true ↔
      ∀ k, x.condition? c nullable = some k → k.expr.truth db look = some true := by
  obtain ⟨p, negated⟩ := x
  by_cases nothing : p = .isIn []
  · subst nothing
    -- no value is one of none
    have unknown : (Restriction.mk (.isIn []) negated).holds (look c) = negated := by
      cases v : (look c).isNull <;> cases negated <;> simp [holds, Predicate.eval, Predicate.evalPresent, v]
    cases negated with
    | false => simp [unknown, condition?, isVacuous, predictsEmpty, never_false]
    | true => simp [unknown, condition?, isVacuous]
  · rw [condition?_of_ne nothing negated]
    simp only [Option.some.injEq, forall_eq', truth_orNull]
    cases null : (look c).isNull with
    | true =>
      -- null is admitted exactly if the predicate has no answer for it and is negated
      rw [Predicate.Meets, null, if_pos rfl] at meets
      have test : ((p.test negated).expr c).truth db look = (p.eval .null).map (· != negated) :=
        Predicate.truth_of_null (Value.isNull_iff.mp null) nothing negated
      have total := p.isSome_eval_null
      rw [holds, Value.isNull_iff.mp null, test, meets]
      cases answer : p.eval .null <;> rw [answer] at total <;> cases negated <;>
        simp [← total, Truth.or]
    | false =>
      rw [Predicate.Meets, null, if_neg Bool.false_ne_true] at meets
      obtain ⟨b, answer, test⟩ : ∃ b, p.eval (look c) = some b ∧
          ((p.test negated).expr c).truth db look = some (b != negated) :=
        Predicate.truth_of_about meets null negated
      rw [holds, answer, test, truth_or]
      simp

/-- The condition of a restriction is never true, if no row can satisfy it, or tests the column. -/
theorem condition?_cases {x : Restriction} {k : Condition} (compiled : x.condition? c nullable = some k) :
    x.predictsEmpty = true ∧ k = .never ∨ x.predictsEmpty = false ∧ ∃ orNull t, k = .test orNull c t := by
  rw [condition?] at compiled
  split at compiled
  · cases compiled
  · split at compiled
    next empty =>
      cases compiled
      exact .inl ⟨empty, rfl⟩
    next some =>
      cases compiled
      exact .inr ⟨Bool.eq_false_iff.mpr some, _, _, rfl⟩

theorem condition?_eq_none_iff {x : Restriction} : x.condition? c nullable = none ↔ x.isVacuous = true := by
  rw [condition?]
  split
  next vacuous => exact iff_of_true rfl vacuous
  next effective => exact iff_of_false (by split <;> exact Option.some_ne_none _) effective

theorem plain_of_condition {x : Restriction} {k : Condition} (plain : c.Plain)
    (compiled : x.condition? c nullable = some k) : k.Plain := by
  obtain ⟨-, rfl⟩ | ⟨-, orNull, t, rfl⟩ := condition?_cases compiled
  · trivial
  · exact plain

/-- The truth of a restriction for a row as its text is read, with the values that it binds: true
without a text, and none if the text cannot be read. -/
def textTruth? (d : Dialect) (b : Binding) (c : ColumnRef) (nullable : Bool) (db : Database)
    (look : Lookup) (x : Restriction) : Option Truth :=
  match x.condition? c nullable with
  | none => some (some true)
  | some k => (((k.print d).run b).1.expr? ((k.print d).run b).2.params).map (·.truth db look)

end Restriction

/-! ## Queries -/

namespace Conditions

/-- The restricted columns of a row have values that their predicates can meet. -/
def Meets (r : RowType) (row : Record) (c : Conditions) : Prop :=
  ∀ p ∈ c.fields, ∀ x ∈ p.2, x.predicate.Meets (r.isNullable p.1) (row.valueOf p.1)

theorem allPlain_iff (cs : List Condition) : Condition.AllPlain cs ↔ ∀ k ∈ cs, k.Plain := by
  induction cs with
  | nil => simp [Condition.AllPlain]
  | cons c cs ih => rw [Condition.AllPlain, ih, List.forall_mem_cons]

variable {r : RowType} {c : Conditions} {name : Option String}

theorem mem_compile_iff {k : Condition} :
    k ∈ c.compile r name ↔
      ∃ p ∈ c.fields, ∃ x ∈ p.2, x.condition? ⟨name, p.1⟩ (r.isNullable p.1) = some k := by
  simp [compile, List.mem_flatMap, List.mem_filterMap]

/-- What is compiled from conditions is never true or tests a restricted column. -/
theorem compile_cases {k : Condition} (member : k ∈ c.compile r name) :
    k = .never ∨ ∃ p ∈ c.fields, ∃ orNull t, k = .test orNull ⟨name, p.1⟩ t := by
  obtain ⟨p, field, x, -, compiled⟩ := mem_compile_iff.mp member
  obtain ⟨-, rfl⟩ | ⟨-, orNull, t, rfl⟩ := Restriction.condition?_cases compiled
  · exact .inl rfl
  · exact .inr ⟨p, field, orNull, t, rfl⟩

/-- The restrictions that are not vacuous, each with its column. -/
def effectiveOn (c : Conditions) : List (String × Restriction) :=
  c.fields.flatMap fun f => (f.2.filter fun x => !x.isVacuous).map (f.1, ·)

/-- A restriction that is not vacuous is one condition on its column. -/
theorem forall₂_compile (c : Conditions) (r : RowType) (name : Option String) :
    List.Forall₂ (fun f k => Restriction.condition? ⟨name, f.1⟩ (r.isNullable f.1) f.2 = some k) c.effectiveOn
      (c.compile r name) := by
  have each (column : String) (xs : List Restriction) :
      List.Forall₂ (fun f k => Restriction.condition? ⟨name, f.1⟩ (r.isNullable f.1) f.2 = some k)
        ((xs.filter fun x => !x.isVacuous).map (column, ·))
        (xs.filterMap (Restriction.condition? ⟨name, column⟩ (r.isNullable column))) := by
    induction xs with
    | nil => exact .nil
    | cons x xs ih =>
      cases compiled : Restriction.condition? ⟨name, column⟩ (r.isNullable column) x with
      | none =>
        have vacuous := Restriction.condition?_eq_none_iff.mp compiled
        rwa [List.filterMap_cons_none compiled, List.filter_cons_of_neg (by simp [vacuous])]
      | some k =>
        have effective : x.isVacuous ≠ true := fun vacuous => by
          rw [Restriction.condition?_eq_none_iff.mpr vacuous] at compiled
          cases compiled
        rw [List.filterMap_cons_some compiled, List.filter_cons_of_pos (by simp [effective])]
        exact .cons compiled ih
  rw [effectiveOn, compile]
  induction c.fields with
  | nil => exact .nil
  | cons f fields ih => exact List.rel_append (each f.1 f.2) ih

theorem plain_compile (valid : r.Valid) (checked : c.check r = .ok ())
    (plain : ∀ n, name = some n → Identifier.isPlain n = true) :
    Condition.AllPlain (c.compile r name) := by
  rw [allPlain_iff]
  intro k member
  obtain ⟨p, field, x, -, compiled⟩ := mem_compile_iff.mp member
  exact Restriction.plain_of_condition ⟨valid.isPlain (hasColumn_of_check checked field), plain⟩ compiled

/-- A row satisfies conditions exactly when what they are compiled to is true of it. -/
theorem holds_iff_compile {db : Database} {look : Lookup} {row : Record}
    (columns : ∀ column, look ⟨name, column⟩ = row.valueOf column) (meets : c.Meets r row) :
    c.holds row = true ↔ ∀ k ∈ c.compile r name, k.expr.truth db look = some true := by
  have each (p : String × List Restriction) (field : p ∈ c.fields) (x : Restriction) (member : x ∈ p.2) :
      x.holds (row.valueOf p.1) = true ↔ ∀ k, x.condition? ⟨name, p.1⟩ (r.isNullable p.1) = some k →
        k.expr.truth db look = some true := by
    rw [← columns]
    exact x.holds_iff_condition (by rw [columns]; exact meets p field x member)
  simp only [holds, List.all_eq_true]
  constructor
  · intro all k member
    obtain ⟨p, field, x, restricted, compiled⟩ := mem_compile_iff.mp member
    exact (each p field x restricted).mp (all p field x restricted) k compiled
  · intro all p field x restricted
    refine (each p field x restricted).mpr fun k compiled => all k ?_
    exact mem_compile_iff.mpr ⟨p, field, x, restricted, compiled⟩

end Conditions

/-- The scope of a query over a valid row type that declares the restricted columns. -/
theorem Statement.eq_of_scopeOf {cfg : Config} {r : RowType} {q : Query r} {s : Scope}
    (done : scopeOf cfg r (some q) = .ok s) :
    r.Valid ∧ q.conditions.check r = .ok () ∧
      s = (((q.conditions.selection r).print cfg.dialect q.conditions.predictsEmpty).run .start).1 := by
  obtain ⟨p, printed, rfl⟩ := ok_of_map done
  unfold queryScope at printed
  obtain ⟨_, validated, printed⟩ := ok_of_bind printed
  obtain ⟨_, checked, printed⟩ := ok_of_bind printed
  exact ⟨RowType.valid_of_validate validated, checked, congrArg (·.1) (Except.ok.inj printed).symm⟩

/-- A restriction holds of a value exactly when its text, read with the values that it binds, is true
of every row with that value. A row satisfies a query exactly when all conditions of the query's
scope, read with the parameters of the scope, are true of it. -/
theorem holds_iff_text_true :
    (∀ (d : Dialect) (b : Binding) (c : ColumnRef) (nullable : Bool) (x : Restriction) (db : Database)
        (look : Lookup), c.Plain → x.predicate.Meets nullable (look c) →
      ∃ t, x.textTruth? d b c nullable db look = some t ∧
        (t = some true ↔ x.holds (look c) = true)) ∧
    (∀ (cfg : Config) (r : RowType) (q : Query r) (s : Scope) (db : Database) (look : Lookup)
        (row : Record), Statement.scopeOf cfg r (some q) = .ok s →
      (∀ column, look ⟨none, column⟩ = row.valueOf column) → q.conditions.Meets r row →
      ∃ es : List Expr, s.conditions.map (·.expr? s.params) = es.map some ∧
        ((∀ e ∈ es, e.truth db look = some true) ↔ q.holds row = true)) := by
  refine ⟨?_, ?_⟩
  · intro d b c nullable x db look plain meets
    have holds : x.holds (look c) = true ↔
        ∀ k, x.condition? c nullable = some k → k.expr.truth db look = some true :=
      x.holds_iff_condition meets
    rw [Restriction.textTruth?]
    cases compiled : x.condition? c nullable with
    | none =>
      refine ⟨some true, rfl, ?_⟩
      simp [holds, compiled]
    | some k =>
      have read := k.expr?_print d (Restriction.plain_of_condition plain compiled) b
      refine ⟨k.expr.truth db look, ?_, ?_⟩
      · exact congrArg (Option.map (·.truth db look)) read
      · simp [holds, compiled]
  · intro cfg r q s db look row done columns meets
    obtain ⟨valid, checked, rfl⟩ := Statement.eq_of_scopeOf done
    have plain : Condition.AllPlain (q.conditions.compile r none) :=
      Conditions.plain_compile valid checked fun _ named => nomatch named
    refine ⟨(q.conditions.compile r none).map (·.expr), ?_, ?_⟩
    · have resolved := Binding.start.resolve_bindAll (q.conditions.selection r).bindings
      have read := Condition.exprs_of_resolved cfg.dialect plain resolved
      rw [((q.conditions.selection r).print_spec cfg.dialect q.conditions.predictsEmpty .start).2.1,
        List.map_map]
      exact read
    · have holds : q.conditions.holds row = true ↔
          ∀ k ∈ q.conditions.compile r none, k.expr.truth db look = some true :=
        Conditions.holds_iff_compile columns meets
      rw [Query.holds, holds]
      simp

/-- A text that contains what must not occur in it, with a wildcard among its characters, and a
missing age that differs from a given one. -/
theorem holds_iff_text_true_of_wildcard :
    let x : Restriction := .notContains "50%"
    let c : ColumnRef := ⟨some "t0", "title"⟩
    let look : Lookup := fun _ => .text "50% off"
    let r : RowType := ⟨"Person", "people", [⟨"age", "age", true⟩], "age", none, []⟩
    let q : Query r := Query.all.restrict ⟨"age"⟩ (.notEquals (.int 18))
    let row : Record := .ofList [("age", .null)]
    (∃ t, x.textTruth? .postgres .start c true (fun _ => []) look = some t ∧
      (t = some true ↔ x.holds (look c) = true)) ∧
    (∃ s : Scope, Statement.scopeOf .standard r (some q) = .ok s ∧
      s.sql = "FROM people WHERE (age IS NULL OR age <> :age_1)" ∧
      ∃ es : List Expr, s.conditions.map (·.expr? s.params) = es.map some ∧
        ((∀ e ∈ es, e.truth (fun _ => []) (fun c => row.valueOf c.column) = some true) ↔
          q.holds row = true)) := by
  intro x c look r q row
  have plain : c.Plain := ⟨by decide, fun t named => by cases named; decide⟩
  refine ⟨holds_iff_text_true.1 .postgres .start c true x (fun _ => []) look plain ⟨_, rfl⟩, ?_⟩
  have shown : (Statement.scopeOf .standard r (some q)).toOption.map (·.sql) =
      some "FROM people WHERE (age IS NULL OR age <> :age_1)" := by decide +kernel
  have meets : q.conditions.Meets r row := by
    intro p field y member
    cases List.mem_singleton.mp field
    cases List.mem_singleton.mp member
    rfl
  cases compiled : Statement.scopeOf .standard r (some q) with
  | error e => rw [compiled] at shown; cases shown
  | ok s =>
    rw [compiled] at shown
    exact ⟨s, rfl, Option.some.inj shown, holds_iff_text_true.2 .standard r q s (fun _ => [])
      (fun c => row.valueOf c.column) row compiled (fun _ => rfl) meets⟩

end Sift
