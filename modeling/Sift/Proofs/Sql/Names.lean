import Sift.Proofs.Sql.Printing
import Sift.Statement

/-!
# Names in statements

Every word of a printed text is a word of SQL or the name of a column or a table that
may be named there. Words never touch, so no name comes about where two texts meet.
-/
namespace Sift

/-- What may be named in a statement. -/
structure Names where
  column : ColumnRef → Prop
  table : TableRef → Prop

mutual

/-- A condition names only what may be named. -/
def Condition.Uses (names : Names) : Condition → Prop
  | .never => True
  | .test _ c _ => names.column c
  | .subquery _ source link conditions =>
    source.Uses names ∧ (names.column link.parent ∧ names.column link.child) ∧ Condition.AllUse names conditions
termination_by structural x => x

def Source.Uses (names : Names) : Source → Prop
  | .table t => names.table t
  | .join _ left right link conditions =>
    left.Uses names ∧ right.Uses names ∧ (names.column link.parent ∧ names.column link.child) ∧
      Condition.AllUse names conditions
termination_by structural x => x

def Condition.AllUse (names : Names) : List Condition → Prop
  | [] => True
  | c :: cs => c.Uses names ∧ Condition.AllUse names cs
termination_by structural x => x

end

theorem Condition.allUse_iff {names : Names} {cs : List Condition} :
    AllUse names cs ↔ ∀ c ∈ cs, c.Uses names := by
  induction cs with
  | nil => simp [AllUse]
  | cons c cs ih => rw [AllUse, ih, List.forall_mem_cons]

def Selection.Uses (names : Names) (s : Selection) : Prop :=
  s.source.Uses names ∧ Condition.AllUse names s.conditions

namespace Sql

/-! ## Texts -/

/-- The words of SQL that statements are written with. -/
def keywords : List String :=
  ["SELECT", "COUNT", "DELETE", "FROM", "WHERE", "AS", "LEFT", "INNER", "JOIN", "ON", "AND", "OR", "NOT", "EXISTS",
    "IS", "NULL", "TRUE", "FALSE", "IN", "LIKE", "ESCAPE", "BETWEEN", "LENGTH", "CHAR_LENGTH", "ORDER", "BY", "ASC",
    "DESC", "NULLS", "FIRST", "LAST", "COLLATE", "LIMIT", "OFFSET", "FETCH", "NEXT", "ROWS", "ONLY", "0", "1",
    "18446744073709551615"]

/-- Whether the words of a text are words of SQL, and what it quotes is nothing or the escape of a
pattern. -/
def isFixed (s : String) : Bool :=
  (tokens .empty (symbols s)).all fun t =>
    match t with
    | .word w => keywords.contains w
    | .mark _ => true
    | .quoted s => s = "" || s = "!"
    | _ => false

/-- Whether symbols end with a character that ends a word. -/
def shuts (xs : List Symbol) : Bool :=
  match xs.getLast? with
  | some (.char c) => !Identifier.isTail c
  | _ => false

/-- Symbols whose words are words of SQL, columns and tables that may be named, labels of such columns,
quoted collations, and parameters that are named for such columns or the ends of a window. Of two that
follow each other, the first one ends its last word or the second one does not go on with it. -/
inductive Written (names : Names) : List Symbol → Prop where
  | fixed (s : String) (words : isFixed s = true) : Written names (symbols s)
  | column (c : ColumnRef) (named : names.column c) : Written names (symbols c.text)
  | table (t : TableRef) (named : names.table t) : Written names (symbols t.text)
  | label (table column : String) (named : names.column ⟨some table, column⟩) :
    Written names (symbols (Identifier.label table column))
  | collation (d : Dialect) (s : String) : Written names (symbols (Identifier.quote d.collationQuote s))
  | slot (base : String) (number : Nat)
    (named : base = "limit" ∨ base = "offset" ∨ ∃ t, names.column ⟨t, base⟩) :
    Written names [.slot (parameterName base number)]
  | append {xs ys : List Symbol} (first : Written names xs) (second : Written names ys)
    (parted : (shuts xs || apart ys) = true) : Written names (xs ++ ys)

variable {names : Names}

theorem Written.nil : Written names [] := .fixed "" rfl

theorem apart_append_left {xs ys : List Symbol} (first : apart xs = true) : apart (xs ++ ys) = true := by
  cases xs with
  | nil => cases first
  | cons x xs => cases x <;> exact first

namespace Written

/-- A text of SQL before another one. -/
theorem lit {m : String} {ys : List Symbol} (fits : (isFixed m && shuts (symbols m)) = true)
    (second : Written names ys) : Written names (symbols m ++ ys) := by
  obtain ⟨words, last⟩ := Bool.and_eq_true_iff.mp fits
  exact .append (.fixed m words) second (by rw [last, Bool.true_or])

/-- A text before one that does not go on with its last word. -/
theorem name {xs ys : List Symbol} (first : Written names xs) (second : Written names ys) (next : apart ys = true) :
    Written names (xs ++ ys) :=
  .append first second (by rw [next, Bool.or_true])

/-- A list of texts with a separator between them. -/
theorem join (separator : String) (fits : (isFixed separator && shuts (symbols separator)) = true)
    (first : apart (symbols separator) = true) {ts : List SqlText} (all : ∀ t ∈ ts, Written names t.symbols) :
    Written names (SqlText.join separator ts).symbols := by
  induction ts with
  | nil => exact .nil
  | cons t ts ih =>
    rw [List.forall_mem_cons] at all
    cases ts with
    | nil => exact all.1
    | cons u us =>
      rw [SqlText.join, SqlText.symbols_append, SqlText.symbols_append, SqlText.symbols_raw, List.append_assoc]
      · exact all.1.name (lit fits (ih all.2)) (apart_append_left first)
      · simp

/-- Conditions that continue a conjunction. -/
theorem andAll {xs : List Symbol} (first : Written names xs) {ts : List SqlText}
    (all : ∀ t ∈ ts, Written names t.symbols) : Written names (xs ++ (andAll ts).symbols) := by
  rw [symbols_andAll]
  induction ts generalizing xs with
  | nil => simpa using first
  | cons t ts ih =>
    rw [List.forall_mem_cons] at all
    rw [List.flatMap_cons, ← List.append_assoc]
    refine ih (first.name (lit rfl all.1) ?_) all.2
    rfl

end Written

/-- An action prints only what may be named. -/
def Writes (names : Names) (m : Binder SqlText) : Prop := ∀ b, Written names (m.run b).1.symbols

end Sql

open Sql

variable {names : Names}

/-! ## Conditions -/

/-- A word that may stand before an operator. -/
theorem Sql.Written.negation {xs : List Symbol} (negated : Bool) (first : Written names xs) :
    Written names (symbols (notText negated) ++ xs) := by
  cases negated with
  | false => exact first
  | true => exact .lit rfl first

/-- The length of a column before another text. -/
theorem Sql.Written.length (d : Dialect) {c : ColumnRef} (named : names.column c) {xs : List Symbol}
    (second : Written names xs) :
    Written names (symbols d.lengthFunction ++ (symbols "(" ++ (symbols c.text ++ (symbols ") " ++ xs)))) := by
  have function : Written names (symbols d.lengthFunction) := .fixed _ (by cases d <;> decide +kernel)
  have column : Written names (symbols c.text) := .column c named
  exact function.name (.lit rfl (column.name (.lit rfl second) rfl)) rfl

theorem Sql.Written.comparison (op : Comparison) {xs : List Symbol} (second : Written names xs) :
    Written names (symbols op.symbol ++ (symbols " " ++ xs)) := by
  have spaced : Written names (symbols " " ++ xs) := .lit rfl second
  cases op <;> exact .lit rfl spaced

/-- A test of a column names it, and names its parameters for it. -/
theorem Test.writes (d : Dialect) {c : ColumnRef} (named : names.column c) (t : Test) :
    Writes names (t.print d c) := by
  intro b
  have column : Written names (symbols c.text) := .column c named
  have slot (number : Nat) : Written names [.slot (parameterName c.column number)] :=
    .slot c.column number (.inr (.inr ⟨c.table, named⟩))
  have range (m n : Nat) (negated : Bool) : Written names (symbols (notText negated) ++ (symbols "BETWEEN " ++
      ([.slot (parameterName c.column m)] ++ (symbols " AND " ++ [.slot (parameterName c.column n)])))) :=
    .negation negated (.lit rfl ((slot m).name (.lit rfl (slot n)) rfl))
  have is {s : String} (negated : Bool) (words : isFixed s = true) :
      Written names (SqlText.raw (c.text ++ " IS " ++ notText negated ++ s)).symbols := by
    simp only [SqlText.symbols_raw, symbols_append, List.append_assoc]
    exact column.name (.lit rfl (.negation negated (.fixed s words))) rfl
  cases t with
  | compare op v =>
    show Written names (SqlText.raw (c.text ++ " " ++ op.symbol ++ " ")
      ++ SqlText.slot (parameterName c.column (b.naming.issued + 1))).symbols
    simp only [SqlText.symbols_append, SqlText.symbols_raw, SqlText.symbols_slot, symbols_append, List.append_assoc]
    exact column.name (.lit rfl (.comparison op (slot _))) rfl
  | compareLength op n =>
    show Written names (SqlText.raw (d.lengthFunction ++ "(" ++ c.text ++ ") " ++ op.symbol ++ " ")
      ++ SqlText.slot (parameterName c.column (b.naming.issued + 1))).symbols
    simp only [SqlText.symbols_append, SqlText.symbols_raw, SqlText.symbols_slot, symbols_append, List.append_assoc]
    exact .length d named (.comparison op (slot _))
  | between negated lower upper =>
    show Written names (SqlText.raw (c.text ++ " " ++ notText negated ++ "BETWEEN ")
      ++ SqlText.slot (parameterName c.column (b.naming.issued + 1)) ++ SqlText.raw " AND "
      ++ SqlText.slot (parameterName c.column (b.naming.issued + 1 + 1))).symbols
    simp only [SqlText.symbols_append, SqlText.symbols_raw, SqlText.symbols_slot, symbols_append, List.append_assoc]
    exact column.name (.lit rfl (range _ _ negated)) rfl
  | lengthBetween negated lower upper =>
    show Written names (SqlText.raw (d.lengthFunction ++ "(" ++ c.text ++ ") " ++ notText negated ++ "BETWEEN ")
      ++ SqlText.slot (parameterName c.column (b.naming.issued + 1)) ++ SqlText.raw " AND "
      ++ SqlText.slot (parameterName c.column (b.naming.issued + 1 + 1))).symbols
    simp only [SqlText.symbols_append, SqlText.symbols_raw, SqlText.symbols_slot, symbols_append, List.append_assoc]
    exact .length d named (range _ _ negated)
  | isIn negated vs =>
    have slots : ∀ t ∈ ((bindSlots c.column vs).run b).1, Written names t.symbols := by
      induction vs generalizing b with
      | nil => exact fun _ member => nomatch member
      | cons v vs ih => exact List.forall_mem_cons.mpr ⟨slot _, ih _⟩
    show Written names (SqlText.raw (c.text ++ " " ++ notText negated ++ "IN (")
      ++ SqlText.join ", " ((bindSlots c.column vs).run b).1 ++ SqlText.raw ")").symbols
    have list := Written.join ", " rfl rfl slots
    simp only [SqlText.symbols_append, SqlText.symbols_raw, symbols_append, List.append_assoc]
    refine column.name (.lit rfl (.negation negated (.lit rfl ?_))) rfl
    exact list.name (.fixed ")" rfl) rfl
  | like negated pattern escaped =>
    show Written names (SqlText.raw (c.text ++ " " ++ notText negated ++ "LIKE ")
      ++ SqlText.slot (parameterName c.column (b.naming.issued + 1))
      ++ SqlText.raw (if escaped then " ESCAPE '!'" else "")).symbols
    simp only [SqlText.symbols_append, SqlText.symbols_raw, SqlText.symbols_slot, symbols_append, List.append_assoc]
    refine column.name (.lit rfl (.negation negated (.lit rfl ?_))) rfl
    cases escaped with
    | false => exact slot _
    | true => exact (slot _).name (.fixed " ESCAPE '!'" rfl) rfl
  | isNull negated => exact is negated rfl
  | isTrue negated => exact is negated rfl
  | isFalse negated => exact is negated rfl
  | blank =>
    show Written names (SqlText.raw ("(" ++ c.text ++ " IS NULL OR " ++ c.text ++ " = '')")).symbols
    simp only [SqlText.symbols_raw, symbols_append, List.append_assoc]
    have last : Written names (symbols c.text ++ symbols " = '')") := column.name (.fixed _ rfl) rfl
    exact .lit rfl (column.name (.lit rfl last) rfl)
  | filled =>
    show Written names (SqlText.raw ("(" ++ c.text ++ " IS NOT NULL AND " ++ c.text ++ " <> '')")).symbols
    simp only [SqlText.symbols_raw, symbols_append, List.append_assoc]
    have last : Written names (symbols c.text ++ symbols " <> '')") := column.name (.fixed _ rfl) rfl
    exact .lit rfl (column.name (.lit rfl last) rfl)

theorem Link.written {l : Link} (parent : names.column l.parent) (child : names.column l.child) :
    Written names (symbols l.text) := by
  rw [text, symbols_append, symbols_append, List.append_assoc]
  exact (Written.column _ parent).name (.lit rfl (.column _ child)) rfl

mutual

theorem Condition.writes (d : Dialect) : ∀ {c : Condition}, c.Uses names → Writes names (c.print d)
  | .never, _, _ => by
    show Written names (SqlText.raw "1=0").symbols
    rw [SqlText.symbols_raw]
    exact .fixed "1=0" rfl
  | .test orNull c t, named, b => by
    have test := t.writes d named b
    cases orNull with
    | false => exact test
    | true =>
      show Written names (SqlText.raw ("(" ++ c.text ++ " IS NULL OR ") ++ ((t.print d c).run b).1
        ++ SqlText.raw ")").symbols
      simp only [SqlText.symbols_append, SqlText.symbols_raw, symbols_append, List.append_assoc]
      have last := test.name (.fixed ")" rfl) rfl
      exact .lit rfl ((Written.column c named).name (.lit rfl last) rfl)
  | .subquery negated source link conditions, ⟨inside, ⟨parent, child⟩, all⟩, b => by
    have from_ := source.writes d inside b
    have conds := Condition.writes_all d all ((source.print d).run b).2
    have equality := (Link.written parent child).andAll conds
    show Written names (SqlText.raw (notText negated ++ "EXISTS (SELECT 1 FROM ") ++ ((source.print d).run b).1
      ++ SqlText.raw " WHERE " ++ SqlText.raw link.text
      ++ andAll ((Condition.printAll d conditions).run ((source.print d).run b).2).1 ++ SqlText.raw ")").symbols
    simp only [SqlText.symbols_append, SqlText.symbols_raw, symbols_append, List.append_assoc]
    refine .negation negated (.lit rfl (from_.name (.lit rfl ?_) rfl))
    rw [← List.append_assoc]
    exact equality.name (.fixed ")" rfl) rfl

theorem Source.writes (d : Dialect) : ∀ {s : Source}, s.Uses names → Writes names (s.print d)
  | .table t, named, _ => by
    show Written names (SqlText.raw t.text).symbols
    rw [SqlText.symbols_raw]
    exact .table t named
  | .join outer left right link conditions, ⟨first, second, ⟨parent, child⟩, all⟩, b => by
    have l := left.writes d first b
    have r := right.writes d second ((left.print d).run b).2
    have conds := Condition.writes_all d all ((right.print d).run ((left.print d).run b).2).2
    have equality := (Link.written parent child).andAll conds
    have item : Written names (if right.isTable then ((right.print d).run ((left.print d).run b).2).1
        else SqlText.raw "(" ++ ((right.print d).run ((left.print d).run b).2).1 ++ SqlText.raw ")").symbols := by
      split
      · exact r
      · simp only [SqlText.symbols_append, SqlText.symbols_raw, List.append_assoc]
        exact .lit rfl (r.name (.fixed ")" rfl) rfl)
    show Written names (((left.print d).run b).1 ++ SqlText.raw (if outer then " LEFT JOIN " else " INNER JOIN ")
      ++ (if right.isTable then ((right.print d).run ((left.print d).run b).2).1
          else SqlText.raw "(" ++ ((right.print d).run ((left.print d).run b).2).1 ++ SqlText.raw ")")
      ++ SqlText.raw " ON " ++ SqlText.raw link.text ++ andAll ((Condition.printAll d conditions).run
        ((right.print d).run ((left.print d).run b).2).2).1).symbols
    rw [SqlText.symbols_append, SqlText.symbols_append, SqlText.symbols_append, SqlText.symbols_append,
      SqlText.symbols_append, SqlText.symbols_raw, SqlText.symbols_raw, SqlText.symbols_raw]
    simp only [List.append_assoc]
    have on := item.name (.lit (m := " ON ") rfl equality) rfl
    cases outer with
    | false => exact l.name (.lit rfl on) rfl
    | true => exact l.name (.lit rfl on) rfl

theorem Condition.writes_all (d : Dialect) : ∀ {cs : List Condition}, Condition.AllUse names cs →
    ∀ b, ∀ t ∈ ((Condition.printAll d cs).run b).1, Written names t.symbols
  | [], _, _, _, member => by cases member
  | c :: cs, ⟨first, rest⟩, b, t, member => by
    rcases List.mem_cons.mp member with rfl | later
    · exact c.writes d first b
    · exact Condition.writes_all d rest _ t later

end

/-! ## Scopes -/

/-- A text names only what may be named. -/
def SqlText.Written (names : Names) (t : SqlText) : Prop := Sql.Written names t.symbols

/-- The parts of a scope name only what may be named. -/
structure Scope.Written (names : Names) (s : Scope) : Prop where
  source : s.source.Written names
  conditions : ∀ t ∈ s.conditions, t.Written names

theorem Scope.Written.where {s : Scope} (written : s.Written names) {w : SqlText} (there : s.where? = some w) :
    w.Written names := by
  rw [where?] at there
  split at there
  · cases there
  · cases there
    exact .join " AND " rfl rfl written.conditions

theorem Scope.Written.text {s : Scope} (written : s.Written names) : s.text.Written names := by
  rw [SqlText.Written, Scope.text]
  cases there : s.where? with
  | none =>
    simp only [SqlText.symbols_append, SqlText.symbols_raw, SqlText.symbols_empty, List.append_nil]
    exact .lit rfl written.source
  | some w =>
    simp only [SqlText.symbols_append, SqlText.symbols_raw, List.append_assoc]
    exact .lit rfl (written.source.name (.lit rfl (written.where there)) rfl)

/-- A printed selection names what it uses. -/
theorem Selection.writes (d : Dialect) (predictsEmpty : Bool) {s : Selection} (uses : s.Uses names) (b : Binding) :
    ((s.print d predictsEmpty).run b).1.Written names :=
  ⟨s.source.writes d uses.1 b, Condition.writes_all d uses.2 ((s.source.print d).run b).2⟩

end Sift
