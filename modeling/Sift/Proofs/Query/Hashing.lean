import Sift.Proofs.Json.Reader
import Sift.Proofs.Query.Fields
import Sift.Proofs.Value.Hashing
import Sift.Query.Digest
import Mathlib.Data.List.Perm.Subperm
import Mathlib.Order.Lattice

/-!
# Equal queries and their digests

Restrictions are equal if they are of one kind and their values are, queries if
each column has equal restrictions, in whatever order the columns were restricted.
Digests list the columns of a query in order of their names. So equal restrictions
and equal queries have one digest exactly if they are identical: what tells them
apart is the sign of a zero in a document.
-/
namespace Sift

/-! ## Restrictions -/

theorem Value.beq_text (s t : String) : (Value.text s == .text t) = (s == t) := rfl

theorem Value.beq_int (i j : Int64) : (Value.int i == .int j) = (i == j) := rfl

namespace Predicate

/-- The values of a predicate; its texts and counts stand as values. -/
def payload : Predicate → List Value
  | .equals v | .less v | .lessOrEqual v | .greater v | .greaterOrEqual v => [v]
  | .between lower upper => [lower, upper]
  | .isIn vs => vs
  | .like s | .contains s | .startsWith s | .endsWith s => [.text s]
  | .isNull | .isTrue | .isFalse | .empty => []
  | .lengthLess n | .lengthLessOrEqual n | .lengthGreater n | .lengthGreaterOrEqual n => [.int n]
  | .lengthBetween lower upper => [.int lower, .int upper]

theorem payloadDigest_eq (p : Predicate) : p.payloadDigest = p.payload.map Value.digest := by
  cases p <;> rfl

/-- The names of the kinds, in the order of the constructors. -/
def kinds : List String :=
  ["Equals", "Less", "LessOrEqual", "Greater", "GreaterOrEqual", "Between", "In", "Like", "Contains", "StartsWith",
    "EndsWith", "IsNull", "IsTrue", "IsFalse", "Empty", "StringLengthLess", "StringLengthLessOrEqual",
    "StringLengthGreater", "StringLengthGreaterOrEqual", "StringLengthBetween"]

theorem getElem?_kinds (p : Predicate) : kinds[p.ctorIdx]? = some p.names.1 := by
  cases p <;> rfl

/-- Predicates whose kinds have one name are of one kind. -/
theorem ctorIdx_eq {p q : Predicate} (kind : p.names.1 = q.names.1) : p.ctorIdx = q.ctorIdx := by
  have distinct : kinds.Nodup := by decide
  have within : p.ctorIdx < kinds.length := (List.getElem?_eq_some_iff.mp p.getElem?_kinds).1
  exact (List.getElem?_inj within distinct).mp (by rw [getElem?_kinds, getElem?_kinds, kind])

/-- Predicates are equal if they are of one kind and their payloads are. -/
theorem beq_iff {p q : Predicate} :
    (p == q) = true ↔ p.names.1 = q.names.1 ∧ (p.payload == q.payload) = true := by
  show instBEqPredicate.beq p q = true ↔ _
  fun_cases instBEqPredicate.beq p q with
  | case21 => exact iff_of_false Bool.false_ne_true fun both => ‹¬p.ctorIdx = q.ctorIdx› (ctorIdx_eq both.1)
  | _ => simp [names, payload, Value.beq_text, Value.beq_int]

theorem eq_of_payload {p q : Predicate} (same : (p == q) = true) (payload : p.payload = q.payload) : p = q := by
  revert same payload
  show instBEqPredicate.beq p q = true → _
  fun_cases instBEqPredicate.beq p q with
  | case21 => exact nofun
  | _ => simp [Predicate.payload]

end Predicate

namespace Restriction

/-- Whether every number in a document of the payload is one. -/
def IsNumeric (x : Restriction) : Prop := ∀ v ∈ x.predicate.payload, v.isNumeric = true

/-- What equality sees of a restriction: its kind, whether it is negated, and its values but for the signs of zeros in
documents. -/
def outline (x : Restriction) : String × Bool × List Value :=
  (x.predicate.names.1, x.negated, x.predicate.payload.map Value.unsigned)

theorem beq_eq (x y : Restriction) : (x == y) = (x.predicate == y.predicate && x.negated == y.negated) := rfl

theorem equalByImage : EqualByImage IsNumeric outline := by
  intro x y
  rw [beq_eq, Bool.and_eq_true, Predicate.beq_iff, Value.equalByImage.list, beq_iff_eq, IsNumeric, IsNumeric,
    outline, outline, Prod.mk.injEq, Prod.mk.injEq]
  tauto

theorem identifies_digest : Identifies digest := by
  intro x y same digests
  rw [beq_eq, Bool.and_eq_true] at same
  obtain ⟨predicate, negated⟩ := same
  have payload := (Predicate.beq_iff.mp predicate).2
  have digests : x.predicate.payloadDigest = y.predicate.payloadDigest := congrArg Digest.payload digests
  rw [Predicate.payloadDigest_eq, Predicate.payloadDigest_eq] at digests
  obtain ⟨p, m⟩ := x
  obtain ⟨q, n⟩ := y
  obtain rfl : p = q := Predicate.eq_of_payload predicate (Value.identifies_digest.list _ _ payload digests)
  obtain rfl : m = n := eq_of_beq negated
  rfl

end Restriction

/-! ## Queries -/

namespace Conditions

variable {c d : Conditions}

/-- The columns that have restrictions are the same, in some order. -/
theorem Grouped.columns_perm (left : c.Grouped) (right : d.Grouped)
    (same : ∀ column, c.of column = [] ↔ d.of column = []) : (c.fields.map (·.1)).Perm (d.fields.map (·.1)) := by
  rw [List.perm_ext_iff_of_nodup left.distinct right.distinct]
  intro column
  rw [left.mem_columns_iff, right.mem_columns_iff, not_iff_not]
  exact same column

/-- Conditions are equal if each column has equal restrictions, whatever the order of the columns. -/
theorem beq_iff (left : c.Grouped) (right : d.Grouped) :
    (c == d) = true ↔ ∀ column, (c.of column == d.of column) = true := by
  have ends {xs ys : List Restriction} (same : (xs == ys) = true) : xs = [] ↔ ys = [] := by
    cases xs <;> cases ys <;> simp at same ⊢
  show c.same d = true ↔ _
  rw [same, Bool.and_eq_true, beq_iff_eq, List.all_eq_true]
  constructor
  · rintro ⟨size, entries⟩
    have entry (column : String) (some_ : c.of column ≠ []) : (d.of column == c.of column) = true :=
      entries (column, c.of column) (left.mem_iff.mpr ⟨some_, rfl⟩)
    have among : c.fields.map (·.1) ⊆ d.fields.map (·.1) := by
      intro column member
      have some_ := left.mem_columns_iff.mp member
      exact right.mem_columns_iff.mpr fun none_ => some_ ((ends (entry column some_)).mp none_)
    -- As many columns as the other conditions have, all of them among theirs, are all of theirs.
    have all : (c.fields.map (·.1)).Perm (d.fields.map (·.1)) :=
      (left.distinct.subperm among).perm_of_length_le (by simpa [Conditions.size] using Nat.le_of_eq size.symm)
    intro column
    by_cases some_ : c.of column = []
    · have absent : column ∉ d.fields.map (·.1) := by
        rw [← all.mem_iff, left.mem_columns_iff]
        exact not_not_intro some_
      rw [right.mem_columns_iff, not_not] at absent
      rw [some_, absent]
      rfl
    · exact Restriction.equalByImage.list.symm (entry column some_)
  · intro same
    refine ⟨?_, ?_⟩
    · simpa [Conditions.size] using (left.columns_perm right fun column => ends (same column)).length_eq
    · rintro ⟨column, xs⟩ member
      obtain ⟨-, rfl⟩ := left.mem_iff.mp member
      exact Restriction.equalByImage.list.symm (same column)

/-- The digest lists the columns that have restrictions, each with the digests of all of them. -/
theorem Grouped.mem_digest_iff (grouped : c.Grouped) {column : String} {ds : List Restriction.Digest} :
    (column, ds) ∈ c.digest ↔ ds ≠ [] ∧ (c.of column).map Restriction.digest = ds := by
  rw [digest, List.mem_map]
  constructor
  · rintro ⟨⟨_, xs⟩, member, same⟩
    obtain ⟨rfl, rfl⟩ := Prod.mk.inj same
    obtain ⟨some_, rfl⟩ := grouped.mem_iff.mp ((List.mergeSort_perm _ _).mem_iff.mp member)
    exact ⟨by simpa using some_, rfl⟩
  · rintro ⟨some_, rfl⟩
    refine ⟨(column, c.of column), ?_, rfl⟩
    exact (List.mergeSort_perm _ _).mem_iff.mpr (grouped.mem_iff.mpr ⟨by simpa using some_, rfl⟩)

theorem map_fst_digest (c : Conditions) : (c.digest.map (·.1)).Perm (c.fields.map (·.1)) := by
  rw [digest, List.map_map]
  exact (List.mergeSort_perm _ _).map _

theorem pairwise_digest (c : Conditions) : c.digest.Pairwise fun f g => f.1 ≤ g.1 := by
  rw [digest, List.pairwise_map]
  let le (f g : String × List Restriction) : Bool := decide (f.1 ≤ g.1)
  have trans (f g h : String × List Restriction) (first : le f g = true) (second : le g h = true) :
      le f h = true :=
    decide_eq_true (String.le_trans (of_decide_eq_true first) (of_decide_eq_true second))
  have total (f g : String × List Restriction) : (le f g || le g f) = true := by
    rw [Bool.or_eq_true, decide_eq_true_eq, decide_eq_true_eq]
    exact String.le_total f.1 g.1
  exact (List.pairwise_mergeSort trans total c.fields).imp fun less => of_decide_eq_true less

/-- The order in which columns were restricted is not in the digest. -/
theorem digest_eq_iff (left : c.Grouped) (right : d.Grouped) : c.digest = d.digest ↔
    ∀ column, (c.of column).map Restriction.digest = (d.of column).map Restriction.digest := by
  constructor
  · intro same column
    by_cases some_ : (c.of column).map Restriction.digest = []
    · by_contra other
      have member := right.mem_digest_iff.mpr ⟨fun none_ => other (some_.trans none_.symm), rfl⟩
      rw [← same] at member
      exact other (left.mem_digest_iff.mp member).2
    · have member := left.mem_digest_iff.mpr ⟨some_, rfl⟩
      rw [same] at member
      exact (right.mem_digest_iff.mp member).2.symm
  · intro same
    have entries : c.digest.Perm d.digest := by
      rw [List.perm_ext_iff_of_nodup]
      · rintro ⟨column, ds⟩
        rw [left.mem_digest_iff, right.mem_digest_iff, same]
      · exact ((c.map_fst_digest.nodup_iff).mpr left.distinct).of_map _
      · exact ((d.map_fst_digest.nodup_iff).mpr right.distinct).of_map _
    refine entries.eq_of_pairwise ?_ c.pairwise_digest d.pairwise_digest
    rintro ⟨column, ds⟩ ⟨column', ds'⟩ member member' le ge
    obtain rfl : column = column' := String.le_antisymm le ge
    rw [← (left.mem_digest_iff.mp member).2, ← (right.mem_digest_iff.mp member').2, same]

end Conditions

namespace Query

variable {r : RowType}

/-- Whether every number in a document of the query is one. -/
def IsNumeric (q : Query r) : Prop := ∀ column, ∀ x ∈ q.conditions.of column, x.IsNumeric

theorem equivalence (r : RowType) :
    Equivalence fun p q : {q : Query r // q.Built ∧ q.IsNumeric} => (p.1 == q.1) = true := by
  refine equivalence_of_image (fun q column => (q.conditions.of column).map Restriction.outline) ?_
  rintro p q ⟨left, numeric⟩ ⟨right, numeric'⟩
  show (p.conditions == q.conditions) = true ↔ _
  rw [Conditions.beq_iff left.grouped right.grouped, funext_iff]
  refine forall_congr' fun column => ?_
  rw [Restriction.equalByImage.list]
  exact ⟨fun all => all.2.2, fun same => ⟨numeric column, numeric' column, same⟩⟩

/-- Equal queries have one digest exactly if each column has identical restrictions. -/
theorem digest_eq_iff {p q : Query r} (left : p.Built) (right : q.Built) (same : (p == q) = true) :
    p.digest = q.digest ↔ ∀ column, p.conditions.of column = q.conditions.of column := by
  rw [digest, digest, Conditions.digest_eq_iff left.grouped right.grouped]
  have equal := (Conditions.beq_iff left.grouped right.grouped).mp same
  exact forall_congr' fun column =>
    ⟨Restriction.identifies_digest.list _ _ (equal column), congrArg (List.map Restriction.digest)⟩

end Query

/-- Equality is an equivalence on values whose documents hold numbers only, as those do that are read, on the
restrictions by such values, and on the queries that are built of these, in whatever order. Values that are equal
agree up to the signs of zeros in documents, and they have one digest exactly if they are identical. So do
restrictions that are equal, and queries that are equal have one digest exactly if each column has identical
restrictions. -/
theorem equality_and_digests {r : RowType} (v w : Value) (x y : Restriction) (p q : Query r) :
    (∀ (s : String) (j : Json), Json.parse? s = some j → (Value.json j).isNumeric = true) ∧
    (Equivalence fun v w : {v : Value // v.isNumeric = true} => (v.1 == w.1) = true) ∧
    (Equivalence fun x y : {x : Restriction // x.IsNumeric} => (x.1 == y.1) = true) ∧
    (Equivalence fun p q : {q : Query r // q.Built ∧ q.IsNumeric} => (p.1 == q.1) = true) ∧
    ((v == w) = true → v.unsigned = w.unsigned ∧ (v.digest = w.digest ↔ v = w)) ∧
    ((x == y) = true → (x.digest = y.digest ↔ x = y)) ∧
    (p.Built → q.Built → (p == q) = true →
      (p.digest = q.digest ↔ ∀ column, p.conditions.of column = q.conditions.of column)) := by
  refine ⟨fun s j read => Json.isNumeric_of_parse read, Value.equalByImage.equivalence,
    Restriction.equalByImage.equivalence, Query.equivalence r, ?_, ?_, ?_⟩
  · intro same
    exact ⟨((Value.equalByImage v w).mp same).2.2, Value.identifies_digest v w same, congrArg Value.digest⟩
  · intro same
    exact ⟨Restriction.identifies_digest x y same, congrArg Restriction.digest⟩
  · intro left right same
    exact Query.digest_eq_iff left right same

/-- Two columns restricted in either order. -/
theorem equality_and_digests_of_reordered :
    let r : RowType := ⟨"Order", "orders", [⟨"id", "id", false⟩, ⟨"data", "data", true⟩], "id", none, []⟩
    let x : Restriction := .of (.equals (.int 1))
    let y : Restriction := .of (.equals (.json (.arr [.num (.float ⟨0⟩), .num (.int 0)])))
    let p : Query r := (Query.all.restrict ⟨"id"⟩ x).restrict ⟨"data"⟩ y
    let q : Query r := (Query.all.restrict ⟨"data"⟩ y).restrict ⟨"id"⟩ x
    p.Built ∧ q.Built ∧ (p == q) = true ∧ p.digest = q.digest := by
  intro r x y p q
  have left : p.Built := (Query.Built.all.restrict _ _).restrict _ _
  have right : q.Built := (Query.Built.all.restrict _ _).restrict _ _
  have same : (p == q) = true := by decide +kernel
  obtain ⟨-, -, -, -, -, -, queries⟩ := equality_and_digests (.int 1) (.int 1) x y p q
  refine ⟨left, right, same, (queries left right same).mpr fun column => ?_⟩
  show ((Conditions.empty.push "id" x).push "data" y).of column =
    ((Conditions.empty.push "data" y).push "id" x).of column
  simp only [Conditions.of_push]
  by_cases first : column = "id"
  · subst first; rfl
  · simp [first]

/-- The two zeros as documents are equal, and so are the queries for them, but their digests differ. -/
theorem zeros_have_two_digests :
    let v : Value := .json (.num (.float ⟨0⟩))
    let w : Value := .json (.num (.float ⟨0x8000000000000000⟩))
    let r : RowType := ⟨"Order", "orders", [⟨"id", "id", false⟩, ⟨"data", "data", true⟩], "id", none, []⟩
    let p : Query r := Query.all.restrict ⟨"data"⟩ (.equals v)
    let q : Query r := Query.all.restrict ⟨"data"⟩ (.equals w)
    (v == w) = true ∧ v.digest ≠ w.digest ∧ (p == q) = true ∧ p.digest ≠ q.digest := by
  refine ⟨?_, ?_, ?_, ?_⟩
  · decide +kernel
  · decide +kernel
  · decide +kernel
  · decide +kernel

end Sift
