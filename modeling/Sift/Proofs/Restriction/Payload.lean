import Sift.Proofs.Filter
import Sift.Proofs.Query.Congruence
import Sift.Proofs.Restriction.Agreement

/-!
# Payloads of restrictions

What a constructor lets pass holds of every restriction that can be made: by the
constructors, from filters and by negation. The values of a list may come in any order
and more than once: the restriction keeps their first occurrences and holds of the same
values.
-/
namespace Sift

/-! ## First occurrences -/

section

variable {α : Type} [BEq α]

/-- Induction on a list whose head takes its later occurrences with it. -/
theorem eraseDups_induction {motive : List α → Prop} (nil : motive [])
    (cons : ∀ a as, motive (as.filter fun b => !b == a) → motive (a :: as)) (as : List α) : motive as := by
  induction bound : as.length using Nat.strong_induction_on generalizing as with
  | _ n ih =>
    cases as with
    | nil => exact nil
    | cons a as =>
      refine cons a as (ih _ ?_ _ rfl)
      rw [← bound, List.length_cons]
      exact Nat.lt_succ_of_le (List.length_filter_le _ as)

theorem mem_of_mem_eraseDups {a : α} {as : List α} (member : a ∈ as.eraseDups) : a ∈ as := by
  induction as using eraseDups_induction with
  | nil => exact member
  | cons b as ih =>
    rw [List.eraseDups_cons] at member
    rcases List.mem_cons.mp member with rfl | later
    · exact List.mem_cons_self
    · exact List.mem_cons_of_mem b (List.mem_filter.mp (ih later)).1

/-- No first occurrence equals an earlier one. -/
theorem pairwise_eraseDups (as : List α) : as.eraseDups.Pairwise fun a b => (b == a) = false := by
  induction as using eraseDups_induction with
  | nil => exact .nil
  | cons a as ih =>
    rw [List.eraseDups_cons]
    refine .cons (fun b later => ?_) ih
    have other := (List.mem_filter.mp (mem_of_mem_eraseDups later)).2
    simpa using other

/-- What does not tell equal elements apart is found among the first occurrences if it is found at all. -/
theorem any_eraseDups {f : α → Bool} (agree : ∀ {a b : α}, (a == b) = true → f a = f b) (as : List α) :
    as.eraseDups.any f = as.any f := by
  induction as using eraseDups_induction with
  | nil => rfl
  | cons a as ih =>
    rw [List.eraseDups_cons, List.any_cons, List.any_cons, ih, Bool.eq_iff_iff, Bool.or_eq_true, Bool.or_eq_true,
      List.any_eq_true, List.any_eq_true]
    refine or_congr_right' fun first => exists_congr fun b => ?_
    rw [List.mem_filter]
    constructor
    · rintro ⟨⟨member, -⟩, found⟩
      exact ⟨member, found⟩
    · rintro ⟨member, found⟩
      refine ⟨⟨member, ?_⟩, found⟩
      rw [Bool.not_eq_true', Bool.eq_false_iff]
      exact fun same => first (agree same ▸ found)

end

/-! ## What payloads keep -/

/-- What a predicate asks of its bounds, and of its values among each other. Bounds that are texts are not compared:
their order depends on the collation. -/
def Predicate.Checked : Predicate → Prop
  | .between lower upper =>
    lower.kind = .text ∧ upper.kind = .text ∨ ∃ o, lower.compare? upper = some o ∧ o ≠ .gt
  | .isIn vs => vs.Pairwise fun v w => (v == w) = false
  | .lengthLess n => 1 ≤ n
  | .lengthLessOrEqual n | .lengthGreater n | .lengthGreaterOrEqual n => 0 ≤ n
  | .lengthBetween lower upper => 0 ≤ lower ∧ 0 ≤ upper ∧ lower ≤ upper
  | _ => True

namespace Restriction

/-- The payload of a restriction has no null, and is what its predicate asks. -/
structure Proper (x : Restriction) : Prop where
  comparable : x.Comparable
  checked : x.predicate.Checked

/-- The restrictions that constructors and filters give, and the opposites of these. -/
inductive Made : Restriction → Prop where
  | constructed {x : Restriction} (constructed : Constructed x) : Made x
  | filtered {f : Filter} {x : Restriction} (done : f.toRestriction = .ok x) : Made x
  | negate {x : Restriction} (made : Made x) : Made x.negate

variable {x : Restriction}

theorem checked_between {lower upper : Value} (done : between lower upper = .ok x) : x.predicate.Checked := by
  obtain ⟨-, -, rfl⟩ := eq_of_between done
  unfold between at done
  obtain ⟨_, -, done⟩ := ok_of_bind done
  obtain ⟨_, -, done⟩ := ok_of_bind done
  split at done
  · exact .inl ⟨rfl, rfl⟩
  · split at done
    · cases done
    next o different compared => exact .inr ⟨o, Value.compare?_of_uncollated compared, different⟩
    · cases done

/-- Values that are not null are listed once, those that were seen before left out. -/
theorem distinct_eq {vs : List Value} (present : .null ∉ vs) (seen : List Value) :
    distinct seen vs = .ok (seen ++ (vs.filter fun v => !seen.contains v).eraseDups) := by
  induction vs generalizing seen with
  | nil => simp [distinct]
  | cons v vs ih =>
    obtain ⟨first, others⟩ := not_or.mp (List.mem_cons.not.mp present)
    have passed : requireValue v "in_list" = .ok () := by
      rw [requireValue, if_neg fun null => first (Value.isNull_iff.mp null).symm]
    rw [distinct, passed]
    show distinct (if seen.contains v then seen else seen ++ [v]) vs = _
    rw [ih others]
    by_cases known : seen.contains v = true
    · rw [if_pos known, List.filter_cons_of_neg (by simpa using known)]
    · have skipped : (fun w => !(seen ++ [v]).contains w) = fun w => !w == v && !seen.contains w := by
        funext w
        simp [List.contains_eq_any_beq, Bool.and_comm]
      rw [if_neg known, List.filter_cons_of_pos (by simpa using known), List.eraseDups_cons, List.filter_filter,
        skipped, List.append_assoc, List.singleton_append]

theorem distinct_of_null {vs : List Value} (null : .null ∈ vs) (seen : List Value) :
    distinct seen vs = .error (.argument (.nullOperand "in_list")) := by
  induction vs generalizing seen with
  | nil => cases null
  | cons v vs ih =>
    cases v with
    | null => rfl
    | _ => exact ih ((List.mem_cons.mp null).resolve_left nofun) _

theorem isIn_eq_ok {vs : List Value} (present : .null ∉ vs) : isIn vs = .ok (of (.isIn vs.eraseDups)) := by
  have listed := distinct_eq present []
  rw [List.filter_eq_self.mpr (by simp), List.nil_append] at listed
  rw [isIn, listed]
  rfl

theorem isIn_eq_error {vs : List Value} (null : .null ∈ vs) :
    isIn vs = .error (.argument (.nullOperand "in_list")) := by
  rw [isIn, distinct_of_null null]
  rfl

/-- A list is refused exactly if null is among its values. -/
theorem isIn_eq_ok_iff {vs : List Value} :
    isIn vs = .ok x ↔ .null ∉ vs ∧ x = of (.isIn vs.eraseDups) := by
  by_cases null : .null ∈ vs
  · simp [isIn_eq_error null, null]
  · rw [isIn_eq_ok null, Except.ok.injEq, eq_comm]
    exact (and_iff_right null).symm

theorem notIn_eq (vs : List Value) : notIn vs = (isIn vs).map negate := by
  rw [notIn]
  cases isIn vs <;> rfl

theorem checked_isIn {vs : List Value} (done : isIn vs = .ok x) : x.predicate.Checked := by
  obtain ⟨-, rfl⟩ := isIn_eq_ok_iff.mp done
  refine (pairwise_eraseDups vs).imp fun {v w} different => ?_
  exact Bool.eq_false_iff.mpr fun same => Bool.eq_false_iff.mp different (Value.equalByImage.symm same)

theorem nonneg_of_requireLength {n : Int64} {operation : String} (passed : requireLength n operation = .ok ()) :
    0 ≤ n := by
  rw [requireLength] at passed
  split at passed
  · cases passed
  next nonneg => exact Int64.not_lt.mp nonneg

theorem checked_lengthLess {n : Int64} (done : lengthLess n = .ok x) : x.predicate.Checked := by
  rw [lengthLess] at done
  split at done
  · cases done
  next positive =>
    rw [← Except.ok.inj done]
    show 1 ≤ n
    rw [Int64.le_iff_toInt_le] at positive ⊢
    have zero : (0 : Int64).toInt = 0 := rfl
    have one : (1 : Int64).toInt = 1 := rfl
    omega

theorem checked_lengthBetween {lower upper : Int64} (done : lengthBetween lower upper = .ok x) :
    x.predicate.Checked := by
  rw [eq_of_lengthBetween done]
  unfold lengthBetween at done
  obtain ⟨_, passed, done⟩ := ok_of_bind done
  have above := nonneg_of_requireLength passed
  have within := Int64.not_lt.mp (ok_of_guard done).1
  exact ⟨above, Int64.le_trans above within, within⟩

/-- The payload of a constructed restriction is what its predicate asks. -/
theorem Constructed.checked (constructed : x.Constructed) : x.predicate.Checked := by
  induction constructed with
  | equals v | notEquals v => cases v <;> trivial
  | less done | lessOrEqual done | greater done | greaterOrEqual done =>
    obtain ⟨-, rfl⟩ := eq_of_requireValue done
    trivial
  | between done => exact checked_between done
  | notBetween done =>
    obtain ⟨y, given, done⟩ := ok_of_bind done
    rw [← Except.ok.inj done]
    exact (checked_between given : y.predicate.Checked)
  | isIn done => exact checked_isIn done
  | notIn done =>
    obtain ⟨y, given, done⟩ := ok_of_bind done
    rw [← Except.ok.inj done]
    exact (checked_isIn given : y.predicate.Checked)
  | lengthLess done => exact checked_lengthLess done
  | lengthLessOrEqual done | lengthGreater done | lengthGreaterOrEqual done =>
    obtain ⟨_, passed, -⟩ := ok_of_bind (id done)
    rw [eq_of_requireLength done]
    exact nonneg_of_requireLength passed
  | lengthBetween done => exact checked_lengthBetween done
  | negate _ ih => exact ih
  | _ => trivial

theorem Made.constructed_of_made (made : x.Made) : x.Constructed := by
  induction made with
  | constructed constructed => exact constructed
  | filtered done => exact Filter.constructed_of_toRestriction done
  | negate _ ih => exact .negate ih

/-! ## What lists hold of -/

theorem holds_negate (x : Restriction) (v : Value) : x.negate.holds v = !x.holds v := by
  rw [holds, holds, negate]
  cases x.predicate.eval v with
  | none => rfl
  | some b => cases b <;> cases x.negated <;> rfl

/-- A predicate that null does not satisfy holds of the values that satisfy it. -/
theorem holds_of {p : Predicate} (partial_ : p.isTotal = false) (v : Value) :
    (of p).holds v = (!v.isNull && (p.evalPresent v).getD false) := by
  have answer : p.eval v = if v.isNull then none else p.evalPresent v := by
    cases p <;> first | rfl | cases partial_
  rw [holds, of, answer]
  cases v.isNull with
  | true => rfl
  | false => cases p.evalPresent v <;> simp

theorem holds_equals {w : Value} (present : w ≠ .null) (v : Value) :
    (equals w).holds v = (!v.isNull && v.equals w) := by
  have compared : equals w = of (.equals w) := by
    cases w with
    | null => exact absurd rfl present
    | _ => rfl
  rw [compared]
  exact holds_of rfl v

/-- A list of values holds of what one of them is equal to. -/
theorem holds_isIn_iff {vs : List Value} (done : isIn vs = .ok x) (v : Value) :
    x.holds v = true ↔ ∃ w ∈ vs, (equals w).holds v = true := by
  obtain ⟨present, rfl⟩ := isIn_eq_ok_iff.mp done
  have anyOf : (of (.isIn vs.eraseDups)).holds v = (!v.isNull && vs.eraseDups.any fun w => v.equals w) :=
    holds_of rfl v
  rw [anyOf, any_eraseDups fun same => Value.equals_congr same v, Bool.and_eq_true, List.any_eq_true]
  constructor
  · rintro ⟨given, w, member, equal⟩
    refine ⟨w, member, ?_⟩
    rw [holds_equals (fun null => present (null ▸ member)), given, equal]
    rfl
  · rintro ⟨w, member, equal⟩
    rw [holds_equals (fun null => present (null ▸ member)), Bool.and_eq_true] at equal
    exact ⟨equal.1, w, member, equal.2⟩

/-- Every restriction that can be made has a proper payload. A list of values is refused exactly if null is among
them; otherwise the restriction lists their first occurrences and holds of the values that one of them is equal to,
in whatever order and however often they are given, and the negated list holds of all other values. -/
theorem payloads_proper_and_lists_transparent :
    (∀ x : Restriction, x.Made → x.Proper) ∧
    ∀ vs : List Value,
      ((∃ e, isIn vs = .error e) ↔ .null ∈ vs) ∧
      ((∃ e, notIn vs = .error e) ↔ .null ∈ vs) ∧
      ∀ x, isIn vs = .ok x →
        x = of (.isIn vs.eraseDups) ∧
        (∀ v, x.holds v = true ↔ ∃ w ∈ vs, (equals w).holds v = true) ∧
        (∃ y, notIn vs = .ok y ∧ ∀ v, y.holds v = !x.holds v) ∧
        ∀ ws : List Value, (∀ v, v ∈ ws ↔ v ∈ vs) → ∃ y, isIn ws = .ok y ∧ ∀ v, y.holds v = x.holds v := by
  refine ⟨fun x made => ⟨made.constructed_of_made.comparable, made.constructed_of_made.checked⟩, fun vs => ?_⟩
  have refused : (∃ e, isIn vs = .error e) ↔ .null ∈ vs := by
    by_cases null : .null ∈ vs
    · exact iff_of_true ⟨_, isIn_eq_error null⟩ null
    · refine iff_of_false (fun ⟨e, failed⟩ => ?_) null
      rw [isIn_eq_ok null] at failed
      cases failed
  have negated : (∃ e, notIn vs = .error e) ↔ ∃ e, isIn vs = .error e := by
    rw [notIn_eq]
    cases isIn vs <;> simp [Except.map]
  refine ⟨refused, negated.trans refused, fun x done => ?_⟩
  obtain ⟨present, listed⟩ := isIn_eq_ok_iff.mp done
  refine ⟨listed, holds_isIn_iff done, ⟨x.negate, ?_, x.holds_negate⟩, fun ws same => ?_⟩
  · rw [notIn_eq, done]
    rfl
  · have present' : .null ∉ ws := fun null => present ((same _).mp null)
    have done' := isIn_eq_ok present'
    refine ⟨_, done', fun v => ?_⟩
    rw [Bool.eq_iff_iff, holds_isIn_iff done', holds_isIn_iff done]
    simp only [same]

/-- A negated filter for a range of an integer and a float; a list with an integer twice, next to the float that it
is equal to, and with two zeros of different signs in documents. -/
theorem payloads_proper_and_lists_transparent_of_repeated :
    let f : Filter := ⟨"age", .between, .arr [.num (.int 18), .num (.float ⟨0x4050600000000000⟩)], true⟩
    let range : Restriction := ⟨.between (.int 18) (.float ⟨0x4050600000000000⟩), true⟩
    let one : Value := .float ⟨0x3FF0000000000000⟩
    let zero : Value := .json (.arr [.num (.float ⟨0⟩)])
    let negativeZero : Value := .json (.arr [.num (.float ⟨0x8000000000000000⟩)])
    let x := of (.isIn [.int 1, zero, one])
    f.toRestriction = .ok range ∧ range.Proper ∧ x.Proper ∧
      isIn [.int 1, zero, one, .int 1, negativeZero] = .ok x ∧
      x.holds negativeZero = true ∧ x.holds (.int 2) = false ∧
      (∃ y, notIn [.int 1, zero, one, .int 1, negativeZero] = .ok y ∧ y.holds (.int 2) = true) ∧
      (∃ y, isIn [negativeZero, one, .int 1, zero] = .ok y ∧ y.holds negativeZero = true) ∧
      ∃ e, isIn [.int 1, .null] = .error e := by
  intro f range one zero negativeZero x
  have filtered : f.toRestriction = .ok range := rfl
  have done : isIn [.int 1, zero, one, .int 1, negativeZero] = .ok x := rfl
  obtain ⟨proper, lists⟩ := payloads_proper_and_lists_transparent
  obtain ⟨-, -, given⟩ := lists [.int 1, zero, one, .int 1, negativeZero]
  obtain ⟨-, equal, ⟨y, negated, opposite⟩, anyOrder⟩ := given x done
  have found : x.holds negativeZero = true := (equal _).mpr ⟨negativeZero, by simp, rfl⟩
  have missed : x.holds (.int 2) = false := rfl
  refine ⟨filtered, proper range (.filtered filtered), proper x (.constructed (.isIn done)), done, found, missed,
    ⟨y, negated, (opposite _).trans (by rw [missed]; rfl)⟩, ?_, (lists [.int 1, .null]).1.mpr (by simp)⟩
  obtain ⟨z, reordered, same⟩ := anyOrder [negativeZero, one, .int 1, zero] fun v => by
    simp only [List.mem_cons, List.not_mem_nil]
    tauto
  exact ⟨z, reordered, (same _).trans found⟩

end Restriction
end Sift
