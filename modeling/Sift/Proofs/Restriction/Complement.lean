import Sift.Proofs.Restriction.Agreement
import Sift.Proofs.Restriction.Constructors
import Sift.Proofs.Sql.Interpretation

/-!
# Restrictions and their negations

A restriction and its negation divide the values of a column between them: of each value
exactly one of the two conditions is true. This holds in every database, whatever it
decides of equality, order and patterns, because the two conditions are complements of
each other and exactly one of them admits null.
-/
namespace Sift

open Sql

variable {α : Type} {I : Interpretation α} {look : ColumnRef → α} {c : ColumnRef}

/-! ## Tests -/

namespace Sql.Truth

theorem Opposite.iff_not {t u : Truth} (opposite : t.Opposite u) : t = some true ↔ ¬u = some true := by
  obtain ⟨b, rfl, rfl⟩ := opposite
  cases b <;> simp

/-- What neither of two opposites decides does not change them. -/
theorem Opposite.joined {t u : Truth} (opposite : t.Opposite u) :
    (Truth.or (some false) t).Opposite (Truth.and (some true) u) := by
  obtain ⟨b, rfl, rfl⟩ := opposite
  cases b
  · exact ⟨false, rfl, rfl⟩
  · exact ⟨true, rfl, rfl⟩

theorem Opposite.or_false {t u : Truth} (opposite : t.Opposite u) : Truth.or (some false) u = u := by
  obtain ⟨b, rfl, rfl⟩ := opposite
  cases b <;> rfl

end Sql.Truth

namespace Predicate

/-- A predicate that has an answer for null is decided with its negation, of every value. -/
theorem opposite_of_total {p : Predicate} (total : p.isTotal = true) :
    (((p.test false).expr c).truthIn I look).Opposite (((p.test true).expr c).truthIn I look) := by
  cases p with
  | isNull => exact ⟨I.isNull (look c), by rw [← Bool.bne_false (I.isNull (look c))]; rfl,
      by rw [← Bool.bne_true (I.isNull (look c))]; rfl⟩
  | isTrue => exact I.isTruth_complement true (look c)
  | isFalse => exact I.isTruth_complement false (look c)
  | empty =>
    show (Truth.or (some (I.isNull (look c) != false)) (I.compare .eq (look c) (I.value (.text "")))).Opposite
      (Truth.and (some (I.isNull (look c) != true)) (I.compare .ne (look c) (I.value (.text ""))))
    cases null : I.isNull (look c) with
    | true => exact ⟨true, rfl, rfl⟩
    | false => exact (I.compare_complement null (I.isNull_value (.text "")) .eq).joined
  | _ => cases total

/-- A test of a value that is not null is decided with the negated test. -/
theorem opposite_of_present {p : Predicate} (operands : ∀ v ∈ p.operands, v.isNull = false)
    (present : I.isNull (look c) = false) :
    (((p.test false).expr c).truthIn I look).Opposite (((p.test true).expr c).truthIn I look) := by
  have operand {v : Value} (member : v ∈ p.operands) : I.isNull (I.value v) = false :=
    (I.isNull_value v).trans (operands v member)
  have text (s : String) : I.isNull (I.value (.text s)) = false := I.isNull_value (.text s)
  have count (n : Int64) : I.isNull (I.value (.int n)) = false := I.isNull_value (.int n)
  have length : I.isNull (I.length (look c)) = false := (I.isNull_length (look c)).trans present
  cases p with
  | equals v => exact I.compare_complement present (operand List.mem_cons_self) .eq
  | less v => exact I.compare_complement present (operand List.mem_cons_self) .lt
  | lessOrEqual v => exact I.compare_complement present (operand List.mem_cons_self) .le
  | greater v => exact I.compare_complement present (operand List.mem_cons_self) .gt
  | greaterOrEqual v => exact I.compare_complement present (operand List.mem_cons_self) .ge
  | between lower upper =>
    exact I.between_complement present (operand List.mem_cons_self)
      (operand (List.mem_cons_of_mem lower List.mem_cons_self))
  | isIn vs =>
    refine I.isIn_complement present fun y listed => ?_
    obtain ⟨x, inOperands, rfl⟩ := List.mem_map.mp listed
    obtain ⟨v, member, rfl⟩ := List.mem_map.mp inOperands
    exact operand member
  | like pattern => exact I.like_complement present (text _) none
  | contains needle => exact I.like_complement present (text _) (some '!')
  | startsWith start => exact I.like_complement present (text _) (some '!')
  | endsWith ending => exact I.like_complement present (text _) (some '!')
  | isNull | isTrue | isFalse | empty => exact opposite_of_total rfl
  | lengthLess n => exact I.compare_complement length (count n) .lt
  | lengthLessOrEqual n => exact I.compare_complement length (count n) .le
  | lengthGreater n => exact I.compare_complement length (count n) .gt
  | lengthGreaterOrEqual n => exact I.compare_complement length (count n) .ge
  | lengthBetween lower upper => exact I.between_complement length (count lower) (count upper)

/-- A test of null is unknown, if the predicate has no answer for it. -/
theorem unknown_of_null {p : Predicate} (unanswered : p.isTotal = false) (null : I.isNull (look c) = true)
    (negated : Bool) : ((p.test negated).expr c).truthIn I look = none := by
  have length : I.isNull (I.length (look c)) = true := (I.isNull_length (look c)).trans null
  cases p with
  | equals | less | lessOrEqual | greater | greaterOrEqual => exact I.compare_null null _ _
  | between lower upper => exact I.between_null null negated _ _
  | isIn vs => exact I.isIn_null null negated _
  | like | contains | startsWith | endsWith => exact I.like_null null negated _ _
  | lengthLess | lengthLessOrEqual | lengthGreater | lengthGreaterOrEqual => exact I.compare_null length _ _
  | lengthBetween lower upper => exact I.between_null length negated _ _
  | isNull | isTrue | isFalse | empty => cases unanswered

end Predicate

/-! ## Conditions -/

namespace Restriction

/-- The truth of a restriction's condition in a database; a restriction without a condition is true. -/
def truthIn (I : Interpretation α) (look : ColumnRef → α) (c : ColumnRef) (nullable : Bool) (x : Restriction) :
    Truth :=
  match x.condition? c nullable with
  | none => some true
  | some k => k.expr.truthIn I look

/-- The truth of a restriction's text in a database, as it is read with the values that it binds: none if the
text cannot be read. -/
def textTruthIn? (I : Interpretation α) (look : ColumnRef → α) (d : Dialect) (b : Binding) (c : ColumnRef)
    (nullable : Bool) (x : Restriction) : Option Truth :=
  match x.condition? c nullable with
  | none => some (some true)
  | some k => (((k.print d).run b).1.expr? ((k.print d).run b).2.params).map (·.truthIn I look)

theorem textTruthIn?_eq (plain : c.Plain) (d : Dialect) (b : Binding) (nullable : Bool) (x : Restriction) :
    x.textTruthIn? I look d b c nullable = some (x.truthIn I look c nullable) := by
  rw [textTruthIn?, truthIn]
  cases compiled : x.condition? c nullable with
  | none => rfl
  | some k =>
    exact congrArg (Option.map (·.truthIn I look)) (k.expr?_print d (plain_of_condition plain compiled) b)

variable {nullable : Bool}

theorem truthIn_of_ne {p : Predicate} (nonempty : p ≠ .isIn []) (negated : Bool) :
    truthIn I look c nullable ⟨p, negated⟩ =
      if negated && nullable && !p.isTotal then
        Truth.or (some (I.isNull (look c))) (((p.test negated).expr c).truthIn I look)
      else ((p.test negated).expr c).truthIn I look := by
  rw [truthIn, condition?_of_ne nonempty]
  cases guarded : negated && nullable && !p.isTotal with
  | false => rfl
  | true =>
    show Truth.or (some (I.isNull (look c) != false)) _ = _
    rw [Bool.bne_false]
    rfl

/-- Of a predicate and its negation exactly one is true. -/
theorem truthIn_iff_not {p : Predicate} (operands : ∀ v ∈ p.operands, v.isNull = false)
    (admitted : I.isNull (look c) = true → nullable = true) :
    truthIn I look c nullable ⟨p, false⟩ = some true ↔ ¬truthIn I look c nullable ⟨p, true⟩ = some true := by
  by_cases nothing : p = .isIn []
  · -- one of no values is never true, none of no values always
    subst nothing
    have never : truthIn I look c nullable ⟨.isIn [], false⟩ = some false := rfl
    have always : truthIn I look c nullable ⟨.isIn [], true⟩ = some true := rfl
    simp [never, always]
  · rw [truthIn_of_ne nothing, truthIn_of_ne nothing]
    cases total : p.isTotal with
    | true => simpa using (Predicate.opposite_of_total total).iff_not
    | false =>
      cases null : I.isNull (look c) with
      | true =>
        -- both tests are unknown, and the guard of the negated one admits null
        rw [Predicate.unknown_of_null total null, Predicate.unknown_of_null total null, admitted null]
        simp [Truth.or]
      | false =>
        have opposite := Predicate.opposite_of_present operands null
        cases nullable with
        | false => simpa using opposite.iff_not
        | true => simpa [opposite.or_false] using opposite.iff_not

end Restriction

/-- Of a constructed restriction and its negation exactly one condition is true of a value, in every database,
if null occurs only in nullable columns. If the names of column and table need no quotes, the texts of the two
conditions are read as these conditions in every dialect, wherever they stand in a statement. -/
theorem negation_partitions (I : Interpretation α) {x : Restriction} (constructed : x.Constructed)
    (c : ColumnRef) (nullable : Bool) (look : ColumnRef → α)
    (admitted : I.isNull (look c) = true → nullable = true) :
    (x.truthIn I look c nullable = some true ↔ ¬x.negate.truthIn I look c nullable = some true) ∧
    (c.Plain → ∀ (d : Dialect) (b : Binding),
      x.textTruthIn? I look d b c nullable = some (x.truthIn I look c nullable) ∧
      x.negate.textTruthIn? I look d b c nullable = some (x.negate.truthIn I look c nullable)) := by
  constructor
  · obtain ⟨p, negated⟩ := x
    have divided := Restriction.truthIn_iff_not (p := p) constructed.comparable admitted
    cases negated with
    | false => exact divided
    | true => exact iff_not_comm.mp divided
  · intro plain d b
    exact ⟨Restriction.textTruthIn?_eq plain d b nullable x,
      Restriction.textTruthIn?_eq plain d b nullable x.negate⟩

/-- In a database that takes no notice of case, SMITH is equal to smith, and a missing name differs from it. -/
theorem negation_partitions_of_caseless :
    let I := Interpretation.caseless
    let x : Restriction := .equals (.text "smith")
    let c : ColumnRef := ⟨some "t0", "name"⟩
    let given : ColumnRef → Value := fun _ => .text "SMITH"
    let missing : ColumnRef → Value := fun _ => .null
    x.truthIn I given c true = some true ∧
    (x.truthIn I given c true = some true ↔ ¬x.negate.truthIn I given c true = some true) ∧
    x.truthIn I missing c true = none ∧
    (x.truthIn I missing c true = some true ↔ ¬x.negate.truthIn I missing c true = some true) ∧
    x.negate.textTruthIn? I missing .postgres .start c true = some (x.negate.truthIn I missing c true) := by
  intro I x c given missing
  have equal : x.truthIn I given c true = I.compare .eq (.text "SMITH") (.text "smith") := rfl
  have unknown : x.truthIn I missing c true = none := rfl
  have same : Interpretation.caseless.compare .eq (.text "SMITH") (.text "smith") = some true := by decide +kernel
  have plain : c.Plain := ⟨by decide, fun t named => by cases named; decide⟩
  have atGiven := negation_partitions I (.equals (.text "smith")) c true given fun _ => rfl
  have atMissing := negation_partitions I (.equals (.text "smith")) c true missing fun _ => rfl
  exact ⟨equal.trans same, atGiven.1, unknown, atMissing.1, (atMissing.2 plain .postgres .start).2⟩

end Sift
