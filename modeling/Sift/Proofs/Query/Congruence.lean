import Sift.Proofs.Query.Hashing
import Sift.Query.Range

/-!
# Equal queries give the same answers

Equal values differ at most in the signs of zeros in documents. Documents have no order
and equality does not see these signs, so a value cannot tell equal values apart, nor a
row equal queries.
-/
namespace Sift

/-- Lists of equal elements have one image under what does not tell equal elements apart. -/
theorem map_congr_of_beq {α β : Type} [BEq α] {f : α → β} (agree : ∀ {a b : α}, (a == b) = true → f a = f b)
    {xs ys : List α} (same : (xs == ys) = true) : xs.map f = ys.map f := by
  induction xs generalizing ys with
  | nil =>
    cases ys with
    | nil => rfl
    | cons y ys => cases same
  | cons x xs ih =>
    cases ys with
    | nil => cases same
    | cons y ys =>
      rw [List.cons_beq_cons, Bool.and_eq_true] at same
      rw [List.map_cons, List.map_cons, agree same.1, ih same.2]

/-! ## Values -/

namespace Value

variable {v w : Value}

/-- Equal values that differ are documents. -/
theorem eq_or_documents (same : (v == w) = true) : v = w ∨ ∃ j k, v = .json j ∧ w = .json k := by
  obtain ⟨-, -, agree⟩ := (equalByImage v w).mp same
  cases v with
  | json j =>
    cases w with
    | json k => exact .inr ⟨j, k, rfl, rfl⟩
    | _ => cases agree
  | _ =>
    cases w with
    | json k => cases agree
    | _ => exact .inl agree

theorem compare?_congr (same : (v == w) = true) (u : Value) : u.compare? v = u.compare? w := by
  obtain rfl | ⟨j, k, rfl, rfl⟩ := eq_or_documents same
  · rfl
  · cases u <;> rfl

theorem equals_congr (same : (v == w) = true) (u : Value) : u.equals v = u.equals w := by
  have beq : (u == v) = (u == w) := by
    obtain ⟨numeric, numeric', agree⟩ := (equalByImage v w).mp same
    rw [Bool.eq_iff_iff, equalByImage u v, equalByImage u w, agree]
    tauto
  rw [equals, equals, compare?_congr same, beq]

theorem compareUncollated?_unsigned (v w : Value) :
    v.unsigned.compareUncollated? w.unsigned = v.compareUncollated? w := by
  cases v <;> cases w <;> rfl

theorem unsigned_congr (same : (v == w) = true) : v.unsigned = w.unsigned := ((equalByImage v w).mp same).2.2

end Value

/-! ## Predicates -/

namespace Predicate

variable {p q : Predicate}

/-- How predicates can be equal: they are identical, or of one kind with equal values. -/
inductive Alike : Predicate → Predicate → Prop where
  | refl (p : Predicate) : Alike p p
  | equals {v w : Value} (same : (v == w) = true) : Alike (.equals v) (.equals w)
  | less {v w : Value} (same : (v == w) = true) : Alike (.less v) (.less w)
  | lessOrEqual {v w : Value} (same : (v == w) = true) : Alike (.lessOrEqual v) (.lessOrEqual w)
  | greater {v w : Value} (same : (v == w) = true) : Alike (.greater v) (.greater w)
  | greaterOrEqual {v w : Value} (same : (v == w) = true) : Alike (.greaterOrEqual v) (.greaterOrEqual w)
  | between {v w v' w' : Value} (lower : (v == v') = true) (upper : (w == w') = true) :
      Alike (.between v w) (.between v' w')
  | isIn {vs ws : List Value} (same : (vs == ws) = true) : Alike (.isIn vs) (.isIn ws)

theorem alike_of_beq (same : (p == q) = true) : Alike p q := by
  revert same
  show instBEqPredicate.beq p q = true → _
  fun_cases instBEqPredicate.beq p q with
  | case1 => exact .equals
  | case2 => exact .less
  | case3 => exact .lessOrEqual
  | case4 => exact .greater
  | case5 => exact .greaterOrEqual
  | case6 =>
    rw [Bool.and_eq_true]
    rintro ⟨lower, upper⟩
    exact .between lower upper
  | case7 => exact .isIn
  | case20 =>
    rw [Bool.and_eq_true]
    rintro ⟨lower, upper⟩
    rw [eq_of_beq lower, eq_of_beq upper]
    exact .refl _
  | case21 => exact fun same => absurd same Bool.false_ne_true
  | _ =>
    intro same
    first
      | exact .refl _
      | rw [eq_of_beq same]; exact .refl _

/-- Predicates that are alike have the same truth of every value. -/
theorem Alike.eval (alike : Alike p q) (u : Value) : p.eval u = q.eval u := by
  have present : p.evalPresent u = q.evalPresent u := by
    cases alike with
    | refl => rfl
    | equals same => exact congrArg some (Value.equals_congr same u)
    | less same => exact congrArg (Option.map _) (Value.compare?_congr same u)
    | lessOrEqual same => exact congrArg (Option.map _) (Value.compare?_congr same u)
    | greater same => exact congrArg (Option.map _) (Value.compare?_congr same u)
    | greaterOrEqual same => exact congrArg (Option.map _) (Value.compare?_congr same u)
    | between lower upper => rw [evalPresent, evalPresent, Value.compare?_congr lower, Value.compare?_congr upper]
    | @isIn vs ws same =>
      have equals : vs.map u.equals = ws.map u.equals := map_congr_of_beq (fun same => Value.equals_congr same u) same
      have any : vs.any u.equals = ws.any u.equals := by simpa [List.any_map] using congrArg (List.any · id) equals
      exact congrArg some any
  cases null : u.isNull with
  | true => cases alike <;> simp [Predicate.eval, null]
  | false => simpa [Predicate.eval, null] using present

end Predicate

/-! ## Bounds -/

namespace Bound

/-- The bound with positive zeros for negative ones in a document. -/
def unsigned (b : Bound) : Bound := { b with value := b.value.unsigned }

theorem tighten?_unsigned (tighter : Ordering) (old new : Bound) :
    tighten? tighter old.unsigned new.unsigned = (tighten? tighter old new).map unsigned := by
  rw [tighten?, tighten?, Option.map_map]
  show Option.map _ (new.value.unsigned.compareUncollated? old.value.unsigned) = _
  rw [Value.compareUncollated?_unsigned]
  congr 1
  funext o
  rw [Function.comp_apply]
  split_ifs <;> rfl

theorem tightest?_unsigned (tighter : Ordering) (bs : List Bound) :
    tightest? tighter (bs.map unsigned) = (tightest? tighter bs).map unsigned := by
  cases bs with
  | nil => rfl
  | cons b bs =>
    show (bs.map unsigned).foldlM (tighten? tighter) b.unsigned = (bs.foldlM (tighten? tighter) b).map unsigned
    induction bs generalizing b with
    | nil => rfl
    | cons c bs ih =>
      rw [List.map_cons, List.foldlM_cons, List.foldlM_cons, tighten?_unsigned]
      cases tighten? tighter b c with
      | none => rfl
      | some d => exact ih d

theorem excludes_unsigned (lower upper : Bound) : lower.unsigned.excludes upper.unsigned = lower.excludes upper := by
  have same : lower.unsigned.value.compareUncollated? upper.unsigned.value =
      lower.value.compareUncollated? upper.value := Value.compareUncollated?_unsigned _ _
  rw [excludes, excludes, same]
  rfl

end Bound

namespace Predicate

variable {p q : Predicate}

/-- Predicates that are alike have the same bounds but for the signs of zeros in documents. -/
theorem Alike.bounds (alike : Alike p q) :
    p.lowerBound?.map Bound.unsigned = q.lowerBound?.map Bound.unsigned ∧
      p.upperBound?.map Bound.unsigned = q.upperBound?.map Bound.unsigned := by
  have bound {v w : Value} (same : (v == w) = true) (inclusive : Bool) :
      (some (Bound.mk v inclusive)).map Bound.unsigned = (some ⟨w, inclusive⟩).map Bound.unsigned := by
    rw [Option.map_some, Option.map_some, Bound.unsigned, Bound.unsigned, Value.unsigned_congr same]
  cases alike with
  | refl => exact ⟨rfl, rfl⟩
  | equals same => exact ⟨bound same true, bound same true⟩
  | less same => exact ⟨rfl, bound same false⟩
  | lessOrEqual same => exact ⟨rfl, bound same true⟩
  | greater same => exact ⟨bound same false, rfl⟩
  | greaterOrEqual same => exact ⟨bound same true, rfl⟩
  | between lower upper => exact ⟨bound lower true, bound upper true⟩
  | isIn => exact ⟨rfl, rfl⟩

end Predicate

/-! ## Restrictions -/

namespace Restriction

variable {x y : Restriction} {xs ys : List Restriction}

theorem alike_of_beq (same : (x == y) = true) : Predicate.Alike x.predicate y.predicate ∧ x.negated = y.negated := by
  rw [beq_eq, Bool.and_eq_true] at same
  exact ⟨Predicate.alike_of_beq same.1, eq_of_beq same.2⟩

theorem holds_congr (same : (x == y) = true) (u : Value) : x.holds u = y.holds u := by
  obtain ⟨alike, negated⟩ := alike_of_beq same
  rw [holds, holds, alike.eval u, negated]

theorem predictsEmpty_congr (same : (x == y) = true) : x.predictsEmpty = y.predictsEmpty := by
  obtain ⟨p, m⟩ := x
  obtain ⟨q, n⟩ := y
  obtain ⟨alike, rfl⟩ : Predicate.Alike p q ∧ m = n := alike_of_beq same
  cases alike with
  | @isIn vs ws same => cases vs <;> cases ws <;> first | rfl | cases same
  | _ => rfl

theorem filterMap_positives {β : Type} (f : Predicate → Option β) (xs : List Restriction) :
    (positives xs).filterMap f = (xs.map fun x => if x.negated then none else f x.predicate).filterMap id := by
  rw [positives, List.filterMap_map, List.filterMap_filter, List.filterMap_map]
  refine List.filterMap_congr fun x _ => ?_
  cases x with
  | mk p negated => cases negated <;> rfl

/-- The bounds of equal restrictions, but for the signs of zeros in documents. -/
theorem bounds_congr (same : (xs == ys) = true) {bound? : Predicate → Option Bound}
    (agree : ∀ {p q}, Predicate.Alike p q → (bound? p).map Bound.unsigned = (bound? q).map Bound.unsigned) :
    ((positives xs).filterMap bound?).map Bound.unsigned = ((positives ys).filterMap bound?).map Bound.unsigned := by
  rw [List.map_filterMap, List.map_filterMap, filterMap_positives, filterMap_positives]
  refine congrArg _ (map_congr_of_beq (fun same => ?_) same)
  obtain ⟨alike, negated⟩ := alike_of_beq same
  rw [negated, agree alike]

/-- Whether ranges contradict each other does not depend on the signs of zeros in documents. -/
theorem contradict_eq (xs : List Restriction) : contradict xs =
    match Bound.tightest? .gt (((positives xs).filterMap (·.lowerBound?)).map Bound.unsigned),
      Bound.tightest? .lt (((positives xs).filterMap (·.upperBound?)).map Bound.unsigned) with
    | some lower, some upper => lower.excludes upper
    | _, _ => false := by
  rw [contradict, Bound.tightest?_unsigned, Bound.tightest?_unsigned]
  cases Bound.tightest? .gt ((positives xs).filterMap (·.lowerBound?)) with
  | none => rfl
  | some lower =>
    cases Bound.tightest? .lt ((positives xs).filterMap (·.upperBound?)) with
    | none => rfl
    | some upper => exact (Bound.excludes_unsigned lower upper).symm

theorem contradict_congr (same : (xs == ys) = true) : contradict xs = contradict ys := by
  rw [contradict_eq, contradict_eq, bounds_congr same fun alike => alike.bounds.1,
    bounds_congr same fun alike => alike.bounds.2]

end Restriction

/-! ## Queries -/

namespace Conditions

variable {c d : Conditions}

/-- A row satisfies conditions if it satisfies the restrictions of each column. -/
theorem Grouped.holds_iff (grouped : c.Grouped) {row : Record} :
    c.holds row = true ↔ ∀ column, ∀ x ∈ c.of column, x.holds (row.valueOf column) = true := by
  simp only [holds, List.all_eq_true]
  constructor
  · intro all column x member
    exact all (column, c.of column) (grouped.mem_iff.mpr ⟨List.ne_nil_of_mem member, rfl⟩) x member
  · rintro all ⟨column, xs⟩ field x member
    obtain ⟨-, rfl⟩ := grouped.mem_iff.mp field
    exact all column x member

/-- Conditions are predicted to be empty if the restrictions of a column are. -/
theorem Grouped.predictsEmpty_iff (grouped : c.Grouped) : c.predictsEmpty = true ↔
    ∃ column, ((c.of column).any (·.predictsEmpty) || Restriction.contradict (c.of column)) = true := by
  simp only [predictsEmpty, List.any_eq_true (l := c.fields)]
  constructor
  · rintro ⟨⟨column, xs⟩, field, empty⟩
    obtain ⟨-, rfl⟩ := grouped.mem_iff.mp field
    exact ⟨column, empty⟩
  · rintro ⟨column, empty⟩
    refine ⟨(column, c.of column), grouped.mem_iff.mpr ⟨?_, rfl⟩, empty⟩
    intro none_
    rw [none_] at empty
    cases empty

/-- Equal conditions are satisfied by the same rows, and both or neither are predicted to be empty. -/
theorem answers_congr (left : c.Grouped) (right : d.Grouped) (same : (c == d) = true) :
    (∀ row, c.holds row = d.holds row) ∧ c.predictsEmpty = d.predictsEmpty := by
  have equal := (beq_iff left right).mp same
  refine ⟨fun row => ?_, ?_⟩
  · rw [Bool.eq_iff_iff, left.holds_iff, right.holds_iff]
    refine forall_congr' fun column => ?_
    have answers := map_congr_of_beq (fun same => Restriction.holds_congr same (row.valueOf column)) (equal column)
    have all : (c.of column).all (·.holds (row.valueOf column)) = (d.of column).all (·.holds (row.valueOf column)) := by
      simpa [List.all_map] using congrArg (List.all · id) answers
    rw [← List.all_eq_true, ← List.all_eq_true, all]
  · rw [Bool.eq_iff_iff, left.predictsEmpty_iff, right.predictsEmpty_iff]
    refine exists_congr fun column => ?_
    have predicted := map_congr_of_beq Restriction.predictsEmpty_congr (equal column)
    have any : (c.of column).any (·.predictsEmpty) = (d.of column).any (·.predictsEmpty) := by
      simpa [List.any_map] using congrArg (List.any · id) predicted
    rw [any, Restriction.contradict_congr (equal column)]

end Conditions
end Sift
