import Sift.Proofs.Sql.Printing
import Mathlib

/-!
# Tokens as expressions

The tokens of a condition are read back as one expression and those of a source as
one source, whatever stands after them that could not continue them.
-/
namespace Sift

open Sql

/-! ## Expressions of syntax trees -/

/-- What a test says of a column. -/
def Test.expr (c : ColumnRef) : Test → Expr
  | .compare op v => .compare op (.column c) (.value v)
  | .compareLength op n => .compare op (.length c) (.value (.int n))
  | .between negated lower upper => .between negated (.column c) (.value lower) (.value upper)
  | .lengthBetween negated lower upper =>
    .between negated (.length c) (.value (.int lower)) (.value (.int upper))
  | .isIn negated vs => .isIn negated (.column c) (vs.map .value)
  | .like negated pattern escaped =>
    .like negated (.column c) (.value (.text pattern)) (if escaped then some '!' else none)
  | .isNull negated => .isNull negated (.column c)
  | .isTrue negated => .isTruth negated true (.column c)
  | .isFalse negated => .isTruth negated false (.column c)
  | .blank => .or (.isNull false (.column c)) (.compare .eq (.column c) (.text ""))
  | .filled => .and (.isNull true (.column c)) (.compare .ne (.column c) (.text ""))

def Link.expr (l : Link) : Expr := .compare .eq (.column l.parent) (.column l.child)

mutual

/-- What a condition says of a row. -/
def Condition.expr : Condition → Expr
  | .never => .compare .eq (.number 1) (.number 0)
  | .test orNull c t => if orNull then .or (.isNull false (.column c)) (t.expr c) else t.expr c
  | .subquery negated source link conditions =>
    .exist negated source.from_ (Condition.conjoin link.expr conditions)
termination_by structural x => x

/-- The rows that a source gives. -/
def Source.from_ : Source → From
  | .table t => .table t.table (t.name.getD t.table)
  | .join outer left right link conditions =>
    .join outer left.from_ right.from_ (Condition.conjoin link.expr conditions)
termination_by structural x => x

/-- An expression and the conditions that continue it as a conjunction. -/
def Condition.conjoin (e : Expr) : List Condition → Expr
  | [] => e
  | c :: cs => .and e (Condition.conjoin c.expr cs)
termination_by structural x => x

end

namespace Sql

/-! ## Words and marks -/

@[simp] theorem passWord_word (w s : String) (ts : List Token) :
    passWord w (.word s :: ts) = if s = w then some ts else none := rfl

@[simp] theorem passWord_mark (w : String) (c : Char) (ts : List Token) :
    passWord w (.mark c :: ts) = none := rfl

@[simp] theorem passWord_value (w : String) (v : Value) (ts : List Token) :
    passWord w (.value v :: ts) = none := rfl

@[simp] theorem passMark_mark (c d : Char) (ts : List Token) :
    passMark c (.mark d :: ts) = if d = c then some ts else none := rfl

@[simp] theorem passMark_word (c : Char) (s : String) (ts : List Token) :
    passMark c (.word s :: ts) = none := rfl

@[simp] theorem passMark_value (c : Char) (v : Value) (ts : List Token) :
    passMark c (.value v :: ts) = none := rfl

/-! ## What may follow -/

/-- Tokens that do not continue a condition. -/
structure Ends (rest : List Token) : Prop where
  point : passMark '.' rest = none
  parenthesis : passMark '(' rest = none
  escape : passWord "ESCAPE" rest = none

/-- Tokens that do not continue an expression. -/
structure EndsAll (rest : List Token) : Prop extends Ends rest where
  and : passWord "AND" rest = none
  or : passWord "OR" rest = none

theorem ends_word {w : String} (other : w ≠ "ESCAPE") (rest : List Token) :
    Ends (.word w :: rest) := ⟨rfl, rfl, by simp [other]⟩

theorem endsAll_word {w : String} (other : w ≠ "ESCAPE" ∧ w ≠ "AND" ∧ w ≠ "OR")
    (rest : List Token) : EndsAll (.word w :: rest) where
  toEnds := ends_word other.1 rest
  and := by simp [other.2.1]
  or := by simp [other.2.2]

theorem endsAll_closed (rest : List Token) : EndsAll (.mark ')' :: rest) :=
  ⟨⟨rfl, rfl, rfl⟩, rfl, rfl⟩

theorem endsAll_nil : EndsAll [] := ⟨⟨rfl, rfl, rfl⟩, rfl, rfl⟩

/-! ## Columns -/

theorem isNumber_of_plain {s : String} (plain : Identifier.isPlain s = true) : isNumber s = false := by
  unfold Identifier.isPlain at plain
  cases chars : s.toList with
  | nil => rw [chars] at plain; cases plain
  | cons c cs =>
    rw [chars] at plain
    have head := (Bool.and_eq_true_iff.mp plain).1
    have letter : c.isDigit = false := by
      by_contra digit
      simp only [Bool.not_eq_false, Char.isDigit, Bool.and_eq_true, decide_eq_true_eq] at digit
      simp only [Identifier.isHead, Char.isAlpha, Char.isUpper, Char.isLower, Bool.or_eq_true,
        Bool.and_eq_true, decide_eq_true_eq, UInt32.le_iff_toNat_le] at head digit
      rcases head with same | head
      · subst same
        revert digit
        decide
      · simp at head digit
        omega
    simp [isNumber, chars, letter]

theorem readColumn_tokens (c : ColumnRef) {rest : List Token} (after : passMark '.' rest = none) :
    readColumn (c.tokens ++ rest) = some (c, rest) := by
  obtain ⟨table, column⟩ := c
  cases table with
  | none => simp [ColumnRef.tokens, readColumn, after]
  | some t => simp [ColumnRef.tokens, readColumn]

theorem readOperand_column {c : ColumnRef} (plain : c.Plain) {rest : List Token}
    (point : passMark '.' rest = none) (parenthesis : passMark '(' rest = none) :
    readOperand (c.tokens ++ rest) = some (.column c, rest) := by
  have read := readColumn_tokens c point
  obtain ⟨table, column⟩ := c
  cases table with
  | none =>
    have word := isNumber_of_plain plain.1
    simp only [ColumnRef.tokens, List.cons_append, List.nil_append] at read ⊢
    simp [readOperand, word, parenthesis, read]
  | some t =>
    have word := isNumber_of_plain (plain.2 t rfl)
    simp only [ColumnRef.tokens, List.cons_append, List.nil_append] at read ⊢
    simp [readOperand, word, read]

theorem readOperand_length (d : Dialect) (c : ColumnRef) (rest : List Token) :
    readOperand (lengthTokens d c ++ rest) = some (.length c, rest) := by
  have read : readColumn (c.tokens ++ (.mark ')' :: rest)) = some (c, .mark ')' :: rest) :=
    readColumn_tokens c rfl
  have word : isNumber d.lengthFunction = false := by cases d <;> decide
  have function : d.lengthFunction = "LENGTH" ∨ d.lengthFunction = "CHAR_LENGTH" := by
    cases d <;> decide
  simp [lengthTokens, readOperand, word, function, read]

/-- A column is not the start of a subquery. -/
theorem readExists_column (c : ColumnRef) {rest : List Token} (word : passWord "EXISTS" rest = none)
    (parenthesis : passMark '(' rest = none) : readExists (c.tokens ++ rest) = none := by
  obtain ⟨table, column⟩ := c
  cases table with
  | none =>
    simp only [ColumnRef.tokens, List.cons_append, List.nil_append]
    by_cases not : column = "NOT"
    · simp [readExists, passWords, word, not]
    · by_cases exist : column = "EXISTS"
      · simp [readExists, passWords, parenthesis, exist]
      · simp [readExists, passWords, not, exist]
  | some t =>
    simp only [ColumnRef.tokens, List.cons_append, List.nil_append]
    by_cases not : t = "NOT"
    · simp [readExists, passWords, not]
    · by_cases exist : t = "EXISTS"
      · simp [readExists, passWords, exist]
      · simp [readExists, passWords, not, exist]

theorem readExists_length (d : Dialect) (c : ColumnRef) (rest : List Token) :
    readExists (lengthTokens d c ++ rest) = none := by
  cases d <;> simp [lengthTokens, readExists, passWords, Dialect.lengthFunction]

/-! ## Tests -/

theorem readComparison_tokens (op : Comparison) (v : Value) (rest : List Token) :
    readComparison (op.tokens ++ (.value v :: rest)) = some (op, .value v :: rest) := by
  cases op <;> rfl

theorem readComparison_word (w : String) (rest : List Token) :
    readComparison (.word w :: rest) = none := rfl

@[simp] theorem readOperand_value (v : Value) (rest : List Token) :
    readOperand (.value v :: rest) = some (.value v, rest) := rfl

theorem passNot_tokens (negated : Bool) {w : String} (other : w ≠ "NOT") (rest : List Token) :
    passNot (notTokens negated ++ (.word w :: rest)) = (negated, .word w :: rest) := by
  cases negated <;> simp [notTokens, passNot, other]

theorem readList_tokens (v : Value) (vs : List Value) (rest : List Token) {n : Nat}
    (enough : vs.length < n) :
    readList n (listTokens (v :: vs) ++ rest) = some ((v :: vs).map .value, rest) := by
  induction vs generalizing v n with
  | nil =>
    obtain ⟨m, rfl⟩ : ∃ m, n = m + 1 := ⟨n - 1, by simp at enough; omega⟩
    simp [listTokens, readList]
  | cons w ws ih =>
    obtain ⟨m, rfl⟩ : ∃ m, n = m + 1 := ⟨n - 1, by simp at enough; omega⟩
    have tail := ih w (n := m) (by simp at enough; omega)
    simp [listTokens, readList, tail]

theorem length_listTokens (vs : List Value) : vs.length ≤ (listTokens vs).length := by
  induction vs with
  | nil => simp
  | cons v vs ih =>
    cases vs with
    | nil => simp [listTokens]
    | cons w ws =>
      simp only [listTokens, List.length_cons] at ih ⊢
      omega

theorem readSet_tokens (vs : List Value) (rest : List Token) :
    readSet (.mark '(' :: (listTokens vs ++ rest)) = some (vs.map .value, rest) := by
  cases vs with
  | nil => simp [readSet, listTokens]
  | cons v vs =>
    have read := readList_tokens v vs rest (n := (listTokens (v :: vs) ++ rest).length) (by
      have := length_listTokens (v :: vs)
      simp only [List.length_cons, List.length_append] at this ⊢
      omega)
    have open_ : passMark ')' (listTokens (v :: vs) ++ rest) = none := by
      cases vs <;> simp [listTokens]
    simpa [readSet, open_] using read

/-- What follows the operand of a test that is not in parentheses. -/
theorem readTest_compare (x : Operand) (op : Comparison) (v : Value) (rest : List Token) :
    readTest x (op.tokens ++ (.value v :: rest)) = some (.compare op x (.value v), rest) := by
  simp [readTest, readComparison_tokens]

theorem readTest_isNull (x : Operand) (negated : Bool) (rest : List Token) :
    readTest x (.word "IS" :: (notTokens negated ++ (.word "NULL" :: rest))) =
      some (.isNull negated x, rest) := by
  simp [readTest, readComparison_word, passNot_tokens]

theorem readTest_isTrue (x : Operand) (negated : Bool) (rest : List Token) :
    readTest x (.word "IS" :: (notTokens negated ++ (.word "TRUE" :: rest))) =
      some (.isTruth negated true x, rest) := by
  simp [readTest, readComparison_word, passNot_tokens]

theorem readTest_isFalse (x : Operand) (negated : Bool) (rest : List Token) :
    readTest x (.word "IS" :: (notTokens negated ++ (.word "FALSE" :: rest))) =
      some (.isTruth negated false x, rest) := by
  simp [readTest, readComparison_word, passNot_tokens]

theorem readComparison_not (negated : Bool) (w : String) (rest : List Token) :
    readComparison (notTokens negated ++ (.word w :: rest)) = none := by
  cases negated <;> rfl

theorem passIs_not (negated : Bool) {w : String} (other : w ≠ "IS") (rest : List Token) :
    passWord "IS" (notTokens negated ++ (.word w :: rest)) = none := by
  cases negated <;> simp [notTokens, other]

theorem readTest_between (x : Operand) (negated : Bool) (lower upper : Value) (rest : List Token) :
    readTest x (notTokens negated ++ (.word "BETWEEN" :: .value lower :: .word "AND" :: .value upper
      :: rest)) = some (.between negated x (.value lower) (.value upper), rest) := by
  simp [readTest, readComparison_not, passIs_not, passNot_tokens]

theorem readTest_in (x : Operand) (negated : Bool) (vs : List Value) (rest : List Token) :
    readTest x (notTokens negated ++ (.word "IN" :: .mark '(' :: (listTokens vs ++ rest))) =
      some (.isIn negated x (vs.map .value), rest) := by
  simp [readTest, readComparison_not, passIs_not, passNot_tokens, readSet_tokens]

theorem readTest_like (x : Operand) (negated : Bool) (pattern : String) (escaped : Bool)
    {rest : List Token} (ends : Ends rest) :
    readTest x (notTokens negated ++ (.word "LIKE" :: .value (.text pattern)
      :: ((if escaped then [.word "ESCAPE", .quoted "!"] else []) ++ rest))) =
      some (.like negated x (.value (.text pattern)) (if escaped then some '!' else none), rest) := by
  cases escaped with
  | false =>
    simp [readTest, readComparison_not, passIs_not, passNot_tokens, readEscape, ends.escape]
  | true => simp [readTest, readComparison_not, passIs_not, passNot_tokens, readEscape]

/-! ## Conditions -/

/-- Tokens are read as one condition. -/
def Means (ts : List Token) (e : Expr) : Prop :=
  ∀ n rest, 3 * ts.length ≤ n → Ends rest → readCondition n (ts ++ rest) = some (e, rest)

/-- Tokens are read as a conjunction. -/
def MeansAnd (ts : List Token) (e : Expr) : Prop :=
  ∀ n rest, 3 * ts.length + 1 ≤ n → EndsAll rest → readAnd n (ts ++ rest) = some (e, rest)

/-- Tokens are read as an expression. -/
def MeansOr (ts : List Token) (e : Expr) : Prop :=
  ∀ n rest, 3 * ts.length + 2 ≤ n → EndsAll rest → readOr n (ts ++ rest) = some (e, rest)

/-- A condition that no AND follows is a conjunction. -/
theorem Means.alone {ts : List Token} {e : Expr} (means : Means ts e) {n : Nat}
    {rest : List Token} (enough : 3 * ts.length + 1 ≤ n) (ends : Ends rest)
    (last : passWord "AND" rest = none) : readAnd n (ts ++ rest) = some (e, rest) := by
  obtain ⟨m, rfl⟩ : ∃ m, n = m + 1 := ⟨n - 1, by omega⟩
  simp [readAnd, means m rest (by omega) ends, last]

theorem Means.single {ts : List Token} {e : Expr} (means : Means ts e) : MeansAnd ts e :=
  fun _ _ enough ends => means.alone enough ends.toEnds ends.and

theorem Means.and {ts us : List Token} {e f : Expr} (first : Means ts e) (second : MeansAnd us f) :
    MeansAnd (ts ++ .word "AND" :: us) (.and e f) := by
  intro n rest enough ends
  simp only [List.length_append, List.length_cons] at enough
  obtain ⟨m, rfl⟩ : ∃ m, n = m + 1 := ⟨n - 1, by omega⟩
  have read := first m (.word "AND" :: (us ++ rest)) (by omega) (ends_word (by decide) _)
  simp [readAnd, read, second m rest (by omega) ends]

theorem MeansAnd.single {ts : List Token} {e : Expr} (means : MeansAnd ts e) : MeansOr ts e := by
  intro n rest enough ends
  obtain ⟨m, rfl⟩ : ∃ m, n = m + 1 := ⟨n - 1, by omega⟩
  simp [readOr, means m rest (by omega) ends, ends.or]

/-- Two conditions with OR between them. -/
theorem Means.or {ts us : List Token} {e f : Expr} (first : Means ts e) (second : MeansOr us f) :
    MeansOr (ts ++ .word "OR" :: us) (.or e f) := by
  intro n rest enough ends
  simp only [List.length_append, List.length_cons] at enough
  obtain ⟨m, rfl⟩ : ∃ m, n = m + 1 := ⟨n - 1, by omega⟩
  have last : passWord "AND" (.word "OR" :: (us ++ rest)) = none := by simp
  have read := first.alone (n := m) (by omega) (ends_word (by decide) _) last
  simp [readOr, read, second m rest (by omega) ends]

/-- A parenthesised expression is one condition. -/
theorem MeansOr.parenthesized {ts : List Token} {e : Expr} (means : MeansOr ts e) :
    Means (.mark '(' :: (ts ++ [.mark ')'])) e := by
  intro n rest enough ends
  simp only [List.length_append, List.length_cons, List.length_nil] at enough
  obtain ⟨m, rfl⟩ : ∃ m, n = m + 1 := ⟨n - 1, by omega⟩
  have inner := means m (.mark ')' :: rest) (by omega) (endsAll_closed rest)
  have exist : readExists (.mark '(' :: (ts ++ (.mark ')' :: rest))) = none := by
    simp [readExists, passWords]
  simp [readCondition, exist, inner]

/-- A column and a test that could not continue its name. -/
theorem means_of_column {c : ColumnRef} (plain : c.Plain) {us : List Token} {e : Expr}
    (point : ∀ rest, passMark '.' (us ++ rest) = none)
    (parenthesis : ∀ rest, passMark '(' (us ++ rest) = none)
    (word : ∀ rest, passWord "EXISTS" (us ++ rest) = none)
    (test : ∀ rest, Ends rest → readTest (.column c) (us ++ rest) = some (e, rest)) :
    Means (c.tokens ++ us) e := by
  intro n rest enough ends
  have positive : 0 < c.tokens.length := by
    rw [ColumnRef.tokens]
    split <;> simp
  rw [List.length_append] at enough
  obtain ⟨m, rfl⟩ : ∃ m, n = m + 1 := ⟨n - 1, by omega⟩
  have exist := readExists_column c (word rest) (parenthesis rest)
  have open_ : passMark '(' (c.tokens ++ (us ++ rest)) = none := by
    rw [ColumnRef.tokens]
    split <;> rfl
  have operand := readOperand_column plain (point rest) (parenthesis rest)
  simp [readCondition, exist, open_, operand, test rest ends]

theorem means_of_length (d : Dialect) (c : ColumnRef) {us : List Token} {e : Expr}
    (test : ∀ rest, Ends rest → readTest (.length c) (us ++ rest) = some (e, rest)) :
    Means (lengthTokens d c ++ us) e := by
  intro n rest enough ends
  rw [List.length_append] at enough
  obtain ⟨m, rfl⟩ : ∃ m, n = m + 1 := ⟨n - 1, by
    have : 0 < (lengthTokens d c).length := by simp [lengthTokens]
    omega⟩
  have exist := readExists_length d c (us ++ rest)
  have open_ : passMark '(' (lengthTokens d c ++ (us ++ rest)) = none := rfl
  simp [readCondition, exist, open_, readOperand_length, test rest ends]

/-- A column and a test that begins with a word or with its negation. -/
theorem means_of_word {c : ColumnRef} (plain : c.Plain) (negated : Bool) {w : String}
    (other : w ≠ "EXISTS") (us : List Token) {e : Expr}
    (test : ∀ rest, Ends rest →
      readTest (.column c) (notTokens negated ++ (.word w :: (us ++ rest))) = some (e, rest)) :
    Means (c.tokens ++ (notTokens negated ++ (.word w :: us))) e := by
  refine means_of_column plain ?_ ?_ ?_ fun rest ends => by simpa using test rest ends
  all_goals
    intro rest
    cases negated <;> simp [notTokens, other]

/-- A column and a test that asks what it is. -/
theorem means_of_is {c : ColumnRef} (plain : c.Plain) (negated : Bool) {s : String} {e : Expr}
    (test : ∀ rest, readTest (.column c) (.word "IS" :: (notTokens negated ++ (.word s :: rest))) =
      some (e, rest)) :
    Means (c.tokens ++ (.word "IS" :: (notTokens negated ++ [.word s]))) e := by
  refine means_of_column plain (fun _ => rfl) (fun _ => rfl) (fun _ => by simp) fun rest _ => ?_
  simpa using test rest

/-- Whether a column is null. -/
theorem means_isNull {c : ColumnRef} (plain : c.Plain) (negated : Bool) :
    Means (c.tokens ++ (.word "IS" :: (notTokens negated ++ [.word "NULL"])))
      (.isNull negated (.column c)) :=
  means_of_is plain negated fun rest => readTest_isNull (.column c) negated rest

/-- A comparison of a column with the empty text. -/
theorem means_empty {c : ColumnRef} (plain : c.Plain) {op : Comparison} (equality : op = .eq ∨ op = .ne) :
    Means (c.tokens ++ (op.tokens ++ [.quoted ""])) (.compare op (.column c) (.text "")) := by
  rcases equality with rfl | rfl
  · exact means_of_column plain (fun _ => rfl) (fun _ => rfl) (fun _ => rfl) fun rest _ => rfl
  · exact means_of_column plain (fun _ => rfl) (fun _ => rfl) (fun _ => rfl) fun rest _ => rfl

end Sql

theorem Test.means (d : Dialect) {c : ColumnRef} (plain : c.Plain) (t : Test) :
    Means (t.tokens d c) (t.expr c) := by
  cases t with
  | compare op v =>
    have means : Means (c.tokens ++ (op.tokens ++ [.value v])) (.compare op (.column c) (.value v)) := by
      refine means_of_column plain ?_ ?_ ?_ fun rest _ => ?_
      · cases op <;> exact fun _ => rfl
      · cases op <;> exact fun _ => rfl
      · cases op <;> exact fun _ => rfl
      · simpa using readTest_compare (.column c) op v rest
    simpa [Test.tokens, Test.expr] using means
  | compareLength op n =>
    have means : Means (lengthTokens d c ++ (op.tokens ++ [.value (.int n)]))
        (.compare op (.length c) (.value (.int n))) :=
      means_of_length d c fun rest _ => by simpa using readTest_compare (.length c) op (.int n) rest
    simpa [Test.tokens, Test.expr] using means
  | between negated lower upper =>
    have means := means_of_word plain negated (w := "BETWEEN") (by decide)
      [.value lower, .word "AND", .value upper]
      fun rest _ => readTest_between (.column c) negated lower upper rest
    simpa [Test.tokens, Test.expr] using means
  | lengthBetween negated lower upper =>
    have means : Means (lengthTokens d c ++ (notTokens negated ++ [.word "BETWEEN",
        .value (.int lower), .word "AND", .value (.int upper)]))
        (.between negated (.length c) (.value (.int lower)) (.value (.int upper))) :=
      means_of_length d c fun rest _ => by
        simpa using readTest_between (.length c) negated (.int lower) (.int upper) rest
    simpa [Test.tokens, Test.expr] using means
  | isIn negated vs =>
    have means := means_of_word plain negated (w := "IN") (by decide) (.mark '(' :: listTokens vs)
      fun rest _ => readTest_in (.column c) negated vs rest
    simpa [Test.tokens, Test.expr] using means
  | like negated pattern escaped =>
    have means := means_of_word plain negated (w := "LIKE") (by decide)
      (.value (.text pattern) :: (if escaped then [.word "ESCAPE", .quoted "!"] else []))
      fun rest ends => readTest_like (.column c) negated pattern escaped ends
    simpa [Test.tokens, Test.expr] using means
  | isNull negated => simpa [Test.tokens, Test.expr] using means_isNull plain negated
  | isTrue negated =>
    have means := means_of_is plain negated fun rest => readTest_isTrue (.column c) negated rest
    simpa [Test.tokens, Test.expr] using means
  | isFalse negated =>
    have means := means_of_is plain negated fun rest => readTest_isFalse (.column c) negated rest
    simpa [Test.tokens, Test.expr] using means
  | blank =>
    have means := ((means_isNull plain false).or
      (means_empty plain (.inl rfl)).single.single).parenthesized
    simpa [Test.tokens, Test.expr, notTokens, Comparison.tokens] using means
  | filled =>
    have means := ((means_isNull plain true).and
      (means_empty plain (.inr rfl)).single).single.parenthesized
    simpa [Test.tokens, Test.expr, notTokens, Comparison.tokens] using means

theorem Link.means {l : Link} (plain : l.Plain) : Means l.tokens l.expr := by
  have means : Means (l.parent.tokens ++ (.mark '=' :: l.child.tokens)) l.expr := by
    refine means_of_column plain.1 (fun _ => rfl) (fun _ => rfl) (fun _ => rfl) fun rest ends => ?_
    have operand := readOperand_column plain.2 ends.point ends.parenthesis
    simp [readTest, readComparison, operand, Link.expr]
  simpa [Link.tokens, Comparison.tokens] using means

namespace Sql

/-- A comparison of numbers that never holds. -/
theorem means_never :
    Means [.word "1", .mark '=', .word "0"] (.compare .eq (.number 1) (.number 0)) := by
  intro n rest enough ends
  obtain ⟨m, rfl⟩ : ∃ m, n = m + 1 := ⟨n - 1, by simp at enough; omega⟩
  have one : "1".toNat? = some 1 := by cbv
  have zero : "0".toNat? = some 0 := by cbv
  have digits : isNumber "1" = true ∧ isNumber "0" = true := by decide
  simp [readCondition, readExists, passWords, readOperand, readTest, readComparison, digits, one, zero]

/-! ## Sources -/

/-- Tokens are read as one item of a join. -/
def MeansItem (ts : List Token) (s : From) : Prop :=
  ∀ n rest, 3 * ts.length ≤ n → readTable n (ts ++ rest) = some (s, rest)

/-- Tokens are read as a source to which joins may follow. Each join takes one of the steps. -/
def MeansFrom (ts : List Token) (s : From) : Prop :=
  ∃ joins < ts.length, ∀ n rest, 3 * ts.length ≤ n + joins → EndsAll rest →
    readFrom (n + joins + 1) (ts ++ rest) = readJoins n s rest

/-- A source that no join follows. -/
theorem MeansFrom.alone {ts : List Token} {s : From} (means : MeansFrom ts s) {n : Nat}
    {rest : List Token} (enough : 3 * ts.length + 1 ≤ n) (ends : EndsAll rest)
    (last : readJoin rest = none) : readFrom n (ts ++ rest) = some (s, rest) := by
  obtain ⟨joins, few, read⟩ := means
  obtain ⟨m, rfl⟩ : ∃ m, n = m + 1 + joins + 1 := ⟨n - joins - 2, by omega⟩
  rw [read (m + 1) rest (by omega) ends]
  simp [readJoins, last]

theorem meansItem_table (t : TableRef) :
    MeansItem t.tokens (.table t.table (t.name.getD t.table)) := by
  intro n rest enough
  obtain ⟨m, rfl⟩ : ∃ m, n = m + 1 := ⟨n - 1, by simp [TableRef.tokens] at enough; omega⟩
  simp [TableRef.tokens, readTable]

theorem MeansItem.from_ {ts : List Token} {s : From} (means : MeansItem ts s) (some : 0 < ts.length) :
    MeansFrom ts s := by
  refine ⟨0, some, fun n rest enough _ => ?_⟩
  simp [readFrom, means n rest (by omega)]

theorem MeansFrom.parenthesized {ts : List Token} {s : From} (means : MeansFrom ts s) :
    MeansItem (.mark '(' :: (ts ++ [.mark ')'])) s := by
  intro n rest enough
  simp only [List.length_append, List.length_cons, List.length_nil] at enough
  obtain ⟨m, rfl⟩ : ∃ m, n = m + 1 := ⟨n - 1, by omega⟩
  have inner := means.alone (n := m) (by omega) (endsAll_closed rest) rfl
  simp [readTable, inner]

theorem readJoin_tokens (outer : Bool) (rest : List Token) :
    readJoin (.word (if outer then "LEFT" else "INNER") :: .word "JOIN" :: rest) =
      some (outer, rest) := by
  cases outer <;> simp [readJoin, passWords]

/-- One more table of a source. -/
theorem MeansFrom.join {ts us vs : List Token} {l r : From} {e : Expr} (left : MeansFrom ts l)
    (right : MeansItem us r) (on : MeansOr vs e) (outer : Bool) :
    MeansFrom (ts ++ .word (if outer then "LEFT" else "INNER") :: .word "JOIN" :: (us ++
      .word "ON" :: vs)) (.join outer l r e) := by
  obtain ⟨joins, few, read⟩ := left
  refine ⟨joins + 1, by simp; omega, fun n rest enough ends => ?_⟩
  simp only [List.length_append, List.length_cons] at enough
  have spine := read (n + 1) (.word (if outer then "LEFT" else "INNER") :: .word "JOIN" :: (us ++
    .word "ON" :: (vs ++ rest))) (by omega) (endsAll_word (by cases outer <;> decide) _)
  rw [show n + (joins + 1) + 1 = n + 1 + joins + 1 by omega]
  simp only [List.append_assoc, List.cons_append]
  rw [spine, readJoins, readJoin_tokens]
  simp [right n _ (by omega), on n rest (by omega) ends]

/-- Whether some row of a source satisfies a condition. -/
theorem means_exist {ts us : List Token} {s : From} {e : Expr} (source : MeansFrom ts s)
    (condition : MeansOr us e) (negated : Bool) :
    Means (notTokens negated ++ [.word "EXISTS", .mark '(', .word "SELECT", .word "1", .word "FROM"]
      ++ ts ++ .word "WHERE" :: us ++ [.mark ')']) (.exist negated s e) := by
  intro n rest enough ends
  simp only [List.length_append, List.length_cons, List.length_nil] at enough
  obtain ⟨m, rfl⟩ : ∃ m, n = m + 1 := ⟨n - 1, by omega⟩
  have start : readExists (notTokens negated ++ (.word "EXISTS" :: .mark '(' :: .word "SELECT"
      :: .word "1" :: .word "FROM" :: (ts ++ .word "WHERE" :: (us ++ .mark ')' :: rest)))) =
      some (negated, ts ++ .word "WHERE" :: (us ++ .mark ')' :: rest)) := by
    cases negated <;> simp [readExists, passWords, notTokens]
  have last : readJoin (.word "WHERE" :: (us ++ .mark ')' :: rest)) = none := by
    simp [readJoin, passWords]
  have from_ := source.alone (n := m) (by omega) (endsAll_word (by decide) _) last
  have where_ := condition m (.mark ')' :: rest) (by omega) (endsAll_closed rest)
  simp [readCondition, start, from_, where_]

end Sql

mutual

/-- The tokens of a condition with plain names mean what it says. -/
theorem Condition.means (d : Dialect) : ∀ {c : Condition}, c.Plain → Means (c.tokens d) c.expr
  | .never, _ => means_never
  | .test orNull c t, plain => by
    have test := t.means d plain
    cases orNull with
    | false => exact test
    | true =>
      have means := ((means_isNull plain false).or test.single.single).parenthesized
      simpa [Condition.tokens, Condition.expr, notTokens] using means
  | .subquery negated source link conditions, ⟨plainSource, plainLink, plain⟩ => by
    have from_ := Source.means d plainSource
    have where_ := Condition.means_all d plain (Link.means plainLink)
    have means := means_exist from_ where_.single negated
    simpa [Condition.tokens, Condition.expr] using means

/-- The tokens of a source with plain names mean the rows that it gives. -/
theorem Source.means (d : Dialect) : ∀ {s : Source}, s.Plain → MeansFrom (s.tokens d) s.from_
  | .table t, _ => (meansItem_table t).from_ (by simp [TableRef.tokens])
  | .join outer left right link conditions, ⟨plainLeft, plainRight, plainLink, plain⟩ => by
    have l := Source.means d plainLeft
    have r := Source.means d plainRight
    have on := Condition.means_all d plain (Link.means plainLink)
    have item : MeansItem
        (if right.isTable then right.tokens d else .mark '(' :: (right.tokens d ++ [.mark ')']))
        right.from_ := by
      cases right with
      | table t => exact meansItem_table t
      | join => exact r.parenthesized
    have means := l.join item on.single outer
    simpa [Source.tokens, Source.from_] using means

/-- Conditions with plain names continue a conjunction. -/
theorem Condition.means_all (d : Dialect) :
    ∀ {cs : List Condition}, Condition.AllPlain cs → ∀ {ts : List Token} {e : Expr}, Means ts e →
      MeansAnd (ts ++ Condition.andTokens d cs) (Condition.conjoin e cs)
  | [], _ => fun means => by simpa [Condition.andTokens, Condition.conjoin] using means.single
  | c :: cs, ⟨plainFirst, plain⟩ => fun means => by
    have rest := Condition.means_all d plain (Condition.means d plainFirst)
    simpa [Condition.andTokens, Condition.conjoin] using means.and rest

end

end Sift
