import Sift.Proofs.Sql.Meaning

/-!
# Databases that interpret SQL

A database decides for itself which values are equal, how they are ordered and what
matches a pattern: two texts may be equal but for the case of their letters. What all
databases have in common is how tests are negated and what they make of null.
-/
namespace Sift.Sql

/-- One of two truths is true and the other false. -/
def Truth.Opposite (t u : Truth) : Prop := ∃ b, t = some b ∧ u = some !b

/-- What a database makes of values and tests. A test of operands that are not null is true or false, its
negation the opposite; a test of null is unknown, unless it asks whether a value is true or is false. -/
structure Interpretation (α : Type) where
  isNull : α → Bool
  /-- What a parameter, or a text in quotes, stands for. -/
  value : Value → α
  /-- What a number in the text stands for. -/
  number : Nat → α
  /-- The number of characters of a text. -/
  length : α → α
  compare : Comparison → α → α → Truth
  between : Bool → α → α → α → Truth
  isIn : Bool → α → List α → Truth
  like : Bool → Option Char → α → α → Truth
  /-- Whether a value is true, or whether it is false. -/
  isTruth : Bool → Bool → α → Truth
  /-- Whether a source has a row, with the columns around it. -/
  exist : Bool → From → Expr → (ColumnRef → α) → Truth
  isNull_value (v : Value) : isNull (value v) = v.isNull
  isNull_length (x : α) : isNull (length x) = isNull x
  compare_null {x : α} (null : isNull x = true) (op : Comparison) (y : α) : compare op x y = none
  between_null {x : α} (null : isNull x = true) (negated : Bool) (lower upper : α) :
    between negated x lower upper = none
  isIn_null {x : α} (null : isNull x = true) (negated : Bool) (ys : List α) : isIn negated x ys = none
  like_null {x : α} (null : isNull x = true) (negated : Bool) (escape : Option Char) (pattern : α) :
    like negated escape x pattern = none
  compare_complement {x y : α} (left : isNull x = false) (right : isNull y = false) (op : Comparison) :
    (compare op x y).Opposite (compare op.complement x y)
  between_complement {x lower upper : α} (tested : isNull x = false) (below : isNull lower = false)
    (above : isNull upper = false) : (between false x lower upper).Opposite (between true x lower upper)
  isIn_complement {x : α} {ys : List α} (tested : isNull x = false) (listed : ∀ y ∈ ys, isNull y = false) :
    (isIn false x ys).Opposite (isIn true x ys)
  like_complement {x pattern : α} (tested : isNull x = false) (given : isNull pattern = false)
    (escape : Option Char) : (like false escape x pattern).Opposite (like true escape x pattern)
  isTruth_complement (truth : Bool) (x : α) : (isTruth false truth x).Opposite (isTruth true truth x)

variable {α : Type}

/-- What an operand stands for in a database. -/
def Operand.read (I : Interpretation α) (look : ColumnRef → α) : Operand → α
  | .column c => look c
  | .length c => I.length (look c)
  | .value v => I.value v
  | .number n => I.number n
  | .text s => I.value (.text s)

/-- The truth of an expression in a database. Numbers in the text compare as numbers, and a test for null
finds null, in every database. -/
def Expr.truthIn (I : Interpretation α) (look : ColumnRef → α) : Expr → Truth
  | .compare op (.number m) (.number n) => some (op.holds (Ord.compare m n))
  | .compare op x y => I.compare op (x.read I look) (y.read I look)
  | .between negated x lower upper =>
    I.between negated (x.read I look) (lower.read I look) (upper.read I look)
  | .isIn negated x ys => I.isIn negated (x.read I look) (ys.map (·.read I look))
  | .like negated x pattern escape => I.like negated escape (x.read I look) (pattern.read I look)
  | .isNull negated x => some (I.isNull (x.read I look) != negated)
  | .isTruth negated truth x => I.isTruth negated truth (x.read I look)
  | .and x y => (x.truthIn I look).and (y.truthIn I look)
  | .or x y => (x.truthIn I look).or (y.truthIn I look)
  | .exist negated source condition => I.exist negated source condition look
termination_by structural x => x

/-! ## Databases with a collation -/

/-- The truth of a test that is decided unless an operand is null. -/
def Truth.unlessNull (vs : List Value) (b : Bool) : Truth :=
  if vs.any (·.isNull) then none else some b

theorem Truth.unlessNull_of_null {v : Value} (null : v.isNull = true) (vs : List Value) (b : Bool) :
    unlessNull (v :: vs) b = none := by
  simp [unlessNull, null]

/-- What is decided of operands that are not null is decided with its opposite. -/
theorem Truth.opposite_unlessNull {vs : List Value} (present : ∀ v ∈ vs, v.isNull = false) (b : Bool) :
    Opposite (unlessNull vs b) (unlessNull vs !b) := by
  have none : vs.any (·.isNull) = false := by simpa using present
  refine ⟨b, ?_, ?_⟩ <;> rw [unlessNull, none] <;> rfl

/-- The database that orders values by `order` and matches texts with patterns by `matched`. -/
def Interpretation.collated (order : Value → Value → Ordering) (matched : Option Char → Value → Value → Bool) :
    Interpretation Value where
  isNull := Value.isNull
  value := id
  number n := .int (Int64.ofNat n)
  length v := if v.isNull then .null else .int (Int64.ofNat ((v.text?.getD "").length))
  compare op x y := .unlessNull [x, y] (op.holds (order x y))
  between negated x lower upper :=
    .unlessNull [x, lower, upper] (negated ^^ ((order x lower).isGE && (order x upper).isLE))
  isIn negated x ys := .unlessNull (x :: ys) (negated ^^ ys.any fun y => (order x y).isEq)
  like negated escape x pattern := .unlessNull [x, pattern] (negated ^^ matched escape x pattern)
  isTruth negated truth x := some (negated ^^ (x == .bool truth))
  exist negated _ _ _ := some negated
  isNull_value _ := rfl
  isNull_length v := by cases null : v.isNull <;> simp [Value.isNull]
  compare_null null _ _ := Truth.unlessNull_of_null null _ _
  between_null null _ _ _ := Truth.unlessNull_of_null null _ _
  isIn_null null _ _ := Truth.unlessNull_of_null null _ _
  like_null null _ _ _ := Truth.unlessNull_of_null null _ _
  compare_complement {x y} left right op := by
    rw [Comparison.holds_complement]
    exact Truth.opposite_unlessNull (by simp [left, right]) (op.holds (order x y))
  between_complement tested below above := by
    rw [Bool.false_xor, Bool.true_xor]
    exact Truth.opposite_unlessNull (by simp [tested, below, above]) _
  isIn_complement tested listed := by
    rw [Bool.false_xor, Bool.true_xor]
    exact Truth.opposite_unlessNull (by simpa [tested] using listed) _
  like_complement tested given escape := by
    rw [Bool.false_xor, Bool.true_xor]
    exact Truth.opposite_unlessNull (by simp [tested, given]) _
  isTruth_complement truth x := ⟨x == .bool truth, by simp, by simp⟩

/-- The characters of a text without the case of its letters. -/
def folded (v : Value) : List Char := (v.text?.getD "").toList.map Char.toLower

/-- The database that takes no notice of case. -/
def Interpretation.caseless : Interpretation Value :=
  .collated (fun v w => Ord.compare (folded v) (folded w)) fun _ v w => folded v == folded w

end Sift.Sql
