import Sift.Proofs.Sql.Reading
import Sift.Proofs.Sql.Slots

/-!
# Printed text as tokens

A printed condition or source has the tokens of its syntax tree, with its values where
their slots stand. A word goes on as long as letters, digits and underscores follow,
so texts keep their tokens when what follows them starts with another character.
-/
namespace Sift

namespace Sql

/-! ## Symbols -/

theorem symbols_append (s t : String) : symbols (s ++ t) = symbols s ++ symbols t := by
  rw [symbols, String.toList_append, List.map_append]
  rfl

end Sql

namespace SqlText

@[simp] theorem symbols_raw (s : String) : (raw s).symbols = Sql.symbols s := by
  simp [symbols, raw]

@[simp] theorem symbols_slot (name : String) : (slot name).symbols = [.slot name] := by
  simp [symbols, slot, Sql.symbols]

@[simp] theorem symbols_empty : empty.symbols = [] := by
  simp [symbols, empty, Sql.symbols]

theorem symbols_appendSlots (u : SqlText) (slots : List (String × String)) (some : slots ≠ []) :
    (appendSlots u slots).flatMap (fun s => Sql.Symbol.slot s.1 :: Sql.symbols s.2) =
      slots.flatMap (fun s => .slot s.1 :: Sql.symbols s.2) ++ u.symbols := by
  induction slots with
  | nil => exact absurd rfl some
  | cons s rest ih =>
    cases rest with
    | nil => simp [appendSlots, symbols, Sql.symbols_append]
    | cons t more =>
      show (s :: appendSlots u (t :: more)).flatMap _ = _
      rw [List.flatMap_cons, ih (List.cons_ne_nil t more), ← List.append_assoc]
      rfl

@[simp] theorem symbols_append (t u : SqlText) : (t ++ u).symbols = t.symbols ++ u.symbols := by
  show (append t u).symbols = _
  obtain ⟨head, slots⟩ := t
  cases slots with
  | nil => simp [append, symbols, Sql.symbols_append]
  | cons s rest =>
    have tail := symbols_appendSlots u (s :: rest) (List.cons_ne_nil s rest)
    simp only [append, symbols] at tail ⊢
    rw [tail, List.append_assoc]

theorem symbols_foldl (t : SqlText) (ts : List SqlText) :
    (ts.foldl append t).symbols = t.symbols ++ ts.flatMap symbols := by
  induction ts generalizing t with
  | nil => simp
  | cons u us ih =>
    rw [List.foldl_cons, ih, List.flatMap_cons, ← List.append_assoc]
    congr 1
    exact symbols_append t u

end SqlText

theorem symbols_andAll (ts : List SqlText) :
    (andAll ts).symbols = ts.flatMap fun t => Sql.symbols " AND " ++ t.symbols := by
  rw [andAll, SqlText.concat, SqlText.symbols_foldl, SqlText.symbols_empty, List.nil_append,
    List.flatMap_map]
  simp only [SqlText.symbols_append, SqlText.symbols_raw]

namespace Sql

/-! ## Reading on -/

/-- Whether symbols start with one that ends a word. -/
def apart : List Symbol → Bool
  | .char c :: _ => !Identifier.isTail c
  | .slot _ :: _ => true
  | [] => false

/-- Whether a word before symbols does not go on in them. -/
def Opens (xs : List Symbol) : Prop := xs = [] ∨ apart xs = true

theorem opens_append {xs ys : List Symbol} (first : Opens xs) (second : Opens ys) :
    Opens (xs ++ ys) := by
  rcases first with rfl | first
  · exact second
  · cases xs with
    | nil => cases first
    | cons x xs =>
      refine .inr ?_
      cases x <;> exact first

/-- The tokens of symbols and the place after them. -/
def run (params : Params) : Place → List Symbol → List Token × Place
  | p, [] => ([], p)
  | p, x :: xs =>
    ((step params p x).1 ++ (run params (step params p x).2 xs).1,
      (run params (step params p x).2 xs).2)

variable {params : Params}

theorem tokensFrom_append (p : Place) (xs ys : List Symbol) :
    tokensFrom params p (xs ++ ys) =
      (run params p xs).1 ++ tokensFrom params (run params p xs).2 ys := by
  induction xs generalizing p with
  | nil => rfl
  | cons x xs ih =>
    have tokens : tokensFrom params p (x :: (xs ++ ys)) =
        (step params p x).1 ++ tokensFrom params (step params p x).2 (xs ++ ys) := by
      cases p <;> rfl
    rw [List.cons_append, tokens, ih, run, List.append_assoc]

/-- What ends a word finishes it. -/
theorem tokensFrom_word {cs : List Char} {rest : List Symbol} (opens : Opens rest) :
    tokensFrom params (.word cs) rest = finished cs ++ tokens params rest := by
  cases rest with
  | nil => simp [tokens, tokensFrom, finished]
  | cons x xs =>
    have apart := opens.resolve_left (List.cons_ne_nil x xs)
    cases x with
    | slot name => simp [tokens, tokensFrom, step, finished]
    | char c =>
      have other : Identifier.isTail c = false := by simpa [Sql.apart] using apart
      simp only [tokens, tokensFrom, step, other, Bool.false_eq_true, if_false]
      split <;> [simp [finished]; split <;> simp [finished]]

/-- Symbols have tokens whatever follows that does not go on their last word. -/
def Reads (params : Params) (xs : List Symbol) (ts : List Token) : Prop :=
  ∀ rest, Opens rest → tokens params (xs ++ rest) = ts ++ tokens params rest

/-- Symbols have tokens whatever follows. -/
def Closes (params : Params) (xs : List Symbol) (ts : List Token) : Prop :=
  ∀ rest, tokens params (xs ++ rest) = ts ++ tokens params rest

theorem Closes.reads {xs : List Symbol} {ts : List Token} (closes : Closes params xs ts) :
    Reads params xs ts := fun rest _ => closes rest

theorem Closes.append {xs ys : List Symbol} {ts us : List Token} (first : Closes params xs ts)
    (second : Closes params ys us) : Closes params (xs ++ ys) (ts ++ us) := by
  intro rest
  rw [List.append_assoc, first, second, List.append_assoc]

theorem Closes.then {xs ys : List Symbol} {ts us : List Token} (first : Closes params xs ts)
    (second : Reads params ys us) : Reads params (xs ++ ys) (ts ++ us) := by
  intro rest opens
  rw [List.append_assoc, first, second rest opens, List.append_assoc]

theorem Reads.append {xs ys : List Symbol} {ts us : List Token} (first : Reads params xs ts)
    (opens : Opens ys) (second : Reads params ys us) : Reads params (xs ++ ys) (ts ++ us) := by
  intro rest after
  rw [List.append_assoc, first _ (opens_append opens after), second rest after, List.append_assoc]

theorem Reads.close {xs ys : List Symbol} {ts us : List Token} (first : Reads params xs ts)
    (apart : apart ys = true) (second : Closes params ys us) :
    Closes params (xs ++ ys) (ts ++ us) := by
  intro rest
  have opens : Opens (ys ++ rest) := by
    cases ys with
    | nil => cases apart
    | cons y ys => cases y <;> exact .inr apart
  rw [List.append_assoc, first _ opens, second, List.append_assoc]

theorem Reads.nil : Reads params [] [] := fun _ _ => rfl

theorem apart_append {s : String} (first : apart (symbols s) = true) (t : String) :
    apart (symbols (s ++ t)) = true := by
  rw [symbols_append]
  cases xs : symbols s with
  | nil => rw [xs] at first; cases first
  | cons x xs' => rw [xs] at first; cases x <;> exact first

/-- A text after which no word is open. -/
theorem closes_of_run {s : String} {ts : List Token}
    (read : run params (.word []) (symbols s) = (ts, .word [])) : Closes params (symbols s) ts := by
  intro rest
  rw [tokens, tokensFrom_append, read]
  rfl

theorem finished_toList {w : String} (some : w.toList ≠ []) : finished w.toList = [.word w] := by
  cases chars : w.toList with
  | nil => exact absurd chars some
  | cons c cs =>
    show [Token.word (String.ofList (c :: cs))] = _
    rw [← chars, String.ofList_toList]

/-- A text that ends with a word. -/
theorem reads_of_run {s : String} (ts : List Token) (w : String)
    (read : run params (.word []) (symbols s) = (ts, .word w.toList)) (some : w.toList ≠ []) :
    Reads params (symbols s) (ts ++ [.word w]) := by
  intro rest opens
  rw [tokens, tokensFrom_append, read, tokensFrom_word opens, finished_toList some, List.append_assoc]

theorem closes_slot {name : String} {v : Value} (value : params.get? name = some v) :
    Closes params [.slot name] [.value v] := by
  intro rest
  simp [tokens, tokensFrom, step, finished, value]

/-- A run of word characters is one word. -/
theorem run_word (before : List Char) {cs : List Char} (all : cs.all Identifier.isTail = true) :
    run params (.word before) (cs.map .char) = ([], .word (before ++ cs)) := by
  induction cs generalizing before with
  | nil => simp [run]
  | cons c cs ih =>
    obtain ⟨first, rest⟩ := Bool.and_eq_true_iff.mp all
    simp [run, step, first, ih (before ++ [c]) rest]

theorem reads_word {s : String} (plain : Identifier.isPlain s = true) :
    Reads params (symbols s) [.word s] := by
  unfold Identifier.isPlain at plain
  cases chars : s.toList with
  | nil => rw [chars] at plain; cases plain
  | cons c cs =>
    rw [chars] at plain
    obtain ⟨head, tail⟩ := Bool.and_eq_true_iff.mp plain
    have all : s.toList.all Identifier.isTail = true := by
      have first : Identifier.isTail c = true := by
        simp only [Identifier.isHead, Identifier.isTail, Char.isAlphanum, Bool.or_eq_true] at head ⊢
        tauto
      simp [chars, first, tail]
    exact reads_of_run [] s (run_word [] all) (by simp [chars])

end Sql

/-! ## Tokens of syntax trees -/

open Sql

/-- Names that need no quotes. -/
def ColumnRef.Plain (c : ColumnRef) : Prop :=
  Identifier.isPlain c.column = true ∧ ∀ t, c.table = some t → Identifier.isPlain t = true

/-- A table with a name of its own, both without quotes. -/
def TableRef.Plain (t : TableRef) : Prop :=
  Identifier.isPlain t.table = true ∧ ∃ n, t.name = some n ∧ Identifier.isPlain n = true

def Link.Plain (l : Link) : Prop := l.parent.Plain ∧ l.child.Plain

def ColumnRef.tokens (c : ColumnRef) : List Token :=
  match c.table with
  | some t => [.word t, .mark '.', .word c.column]
  | none => [.word c.column]

def TableRef.tokens (t : TableRef) : List Token := [.word t.table, .word (t.name.getD t.table)]

def Comparison.tokens : Comparison → List Token
  | .eq => [.mark '=']
  | .ne => [.mark '<', .mark '>']
  | .lt => [.mark '<']
  | .le => [.mark '<', .mark '=']
  | .gt => [.mark '>']
  | .ge => [.mark '>', .mark '=']

def Link.tokens (l : Link) : List Token := l.parent.tokens ++ Comparison.eq.tokens ++ l.child.tokens

def notTokens (negated : Bool) : List Token := if negated then [.word "NOT"] else []

/-- The length of a column. -/
def lengthTokens (d : Dialect) (c : ColumnRef) : List Token :=
  .word d.lengthFunction :: .mark '(' :: (c.tokens ++ [.mark ')'])

/-- The values of a list and its closing parenthesis. -/
def listTokens : List Value → List Token
  | [] => [.mark ')']
  | [v] => [.value v, .mark ')']
  | v :: w :: vs => .value v :: .mark ',' :: listTokens (w :: vs)

def Test.tokens (d : Dialect) (c : ColumnRef) : Test → List Token
  | .compare op v => c.tokens ++ op.tokens ++ [.value v]
  | .compareLength op n => lengthTokens d c ++ op.tokens ++ [.value (.int n)]
  | .between negated lower upper =>
    c.tokens ++ notTokens negated ++ [.word "BETWEEN", .value lower, .word "AND", .value upper]
  | .lengthBetween negated lower upper =>
    lengthTokens d c ++ notTokens negated
      ++ [.word "BETWEEN", .value (.int lower), .word "AND", .value (.int upper)]
  | .isIn negated vs => c.tokens ++ notTokens negated ++ [.word "IN", .mark '('] ++ listTokens vs
  | .like negated pattern escaped =>
    c.tokens ++ notTokens negated ++ [.word "LIKE", .value (.text pattern)]
      ++ (if escaped then [.word "ESCAPE", .quoted "!"] else [])
  | .isNull negated => c.tokens ++ [.word "IS"] ++ notTokens negated ++ [.word "NULL"]
  | .isTrue negated => c.tokens ++ [.word "IS"] ++ notTokens negated ++ [.word "TRUE"]
  | .isFalse negated => c.tokens ++ [.word "IS"] ++ notTokens negated ++ [.word "FALSE"]
  | .blank =>
    .mark '(' :: (c.tokens ++ [.word "IS", .word "NULL", .word "OR"] ++ c.tokens
      ++ [.mark '=', .quoted "", .mark ')'])
  | .filled =>
    .mark '(' :: (c.tokens ++ [.word "IS", .word "NOT", .word "NULL", .word "AND"] ++ c.tokens
      ++ [.mark '<', .mark '>', .quoted "", .mark ')'])

mutual

def Condition.tokens (d : Dialect) : Condition → List Token
  | .never => [.word "1", .mark '=', .word "0"]
  | .test orNull c t =>
    if orNull then
      .mark '(' :: (c.tokens ++ [.word "IS", .word "NULL", .word "OR"] ++ t.tokens d c ++ [.mark ')'])
    else t.tokens d c
  | .subquery negated source link conditions =>
    notTokens negated ++ [.word "EXISTS", .mark '(', .word "SELECT", .word "1", .word "FROM"]
      ++ source.tokens d ++ .word "WHERE" :: (link.tokens ++ Condition.andTokens d conditions)
      ++ [.mark ')']
termination_by structural x => x

def Source.tokens (d : Dialect) : Source → List Token
  | .table t => t.tokens
  | .join outer left right link conditions =>
    left.tokens d ++ [.word (if outer then "LEFT" else "INNER"), .word "JOIN"]
      ++ (if right.isTable then right.tokens d else .mark '(' :: (right.tokens d ++ [.mark ')']))
      ++ .word "ON" :: (link.tokens ++ Condition.andTokens d conditions)
termination_by structural x => x

/-- The tokens of conditions that continue a conjunction. -/
def Condition.andTokens (d : Dialect) : List Condition → List Token
  | [] => []
  | c :: cs => .word "AND" :: (c.tokens d ++ Condition.andTokens d cs)
termination_by structural x => x

end

mutual

/-- All names in a condition are plain, and its tables have names of their own. -/
def Condition.Plain : Condition → Prop
  | .never => True
  | .test _ c _ => c.Plain
  | .subquery _ source link conditions => source.Plain ∧ link.Plain ∧ Condition.AllPlain conditions
termination_by structural x => x

def Source.Plain : Source → Prop
  | .table t => t.Plain
  | .join _ left right link conditions =>
    left.Plain ∧ right.Plain ∧ link.Plain ∧ Condition.AllPlain conditions
termination_by structural x => x

def Condition.AllPlain : List Condition → Prop
  | [] => True
  | c :: cs => c.Plain ∧ Condition.AllPlain cs
termination_by structural x => x

end

/-! ## What texts spell -/

section

variable {params : Params}

theorem ColumnRef.reads {c : ColumnRef} (plain : c.Plain) : Reads params (symbols c.text) c.tokens := by
  obtain ⟨table, column⟩ := c
  cases table with
  | none => exact reads_word plain.1
  | some t =>
    have point : Closes params (symbols ".") [.mark '.'] := closes_of_run rfl
    rw [text, Identifier.qualified, symbols_append, symbols_append]
    exact ((reads_word (plain.2 t rfl)).close rfl point).then (reads_word plain.1)

theorem TableRef.reads {t : TableRef} (plain : t.Plain) : Reads params (symbols t.text) t.tokens := by
  obtain ⟨table, name⟩ := t
  obtain ⟨plainTable, n, same, plainName⟩ := plain
  cases same
  have blank : Closes params (symbols " ") [] := closes_of_run rfl
  rw [text, symbols_append, symbols_append]
  exact ((reads_word plainTable).close rfl blank).then (reads_word plainName)

theorem Link.reads {l : Link} (plain : l.Plain) : Reads params (symbols l.text) l.tokens := by
  have equals : Closes params (symbols " = ") [.mark '='] := closes_of_run rfl
  rw [text, symbols_append, symbols_append]
  exact ((ColumnRef.reads plain.1).close rfl equals).then (ColumnRef.reads plain.2)

theorem Comparison.closes (op : Comparison) :
    Closes params (symbols (" " ++ op.symbol ++ " ")) op.tokens := by
  cases op <;> exact closes_of_run rfl

theorem closes_length (d : Dialect) {c : ColumnRef} (plain : c.Plain) :
    Closes params (symbols (d.lengthFunction ++ "(" ++ c.text ++ ")")) (lengthTokens d c) := by
  have function : Closes params (symbols (d.lengthFunction ++ "("))
      [.word d.lengthFunction, .mark '('] := by
    cases d <;> exact closes_of_run rfl
  have closed : Closes params (symbols ")") [.mark ')'] := closes_of_run rfl
  rw [symbols_append, symbols_append (d.lengthFunction ++ "(")]
  exact (function.then (ColumnRef.reads plain)).close rfl closed

theorem closes_and : Closes params (symbols " AND ") [.word "AND"] := closes_of_run rfl

/-- A column and a word after it, or the negation of the word. -/
theorem closes_negatable {c : ColumnRef} (plain : c.Plain) (negated : Bool) {word : String}
    {ts : List Token}
    (closes : Closes params (symbols (" " ++ notText negated ++ word)) (notTokens negated ++ ts)) :
    Closes params (symbols (c.text ++ " " ++ notText negated ++ word))
      (c.tokens ++ (notTokens negated ++ ts)) := by
  have opens := apart_append (apart_append (s := " ") rfl (notText negated)) word
  simpa only [symbols_append, List.append_assoc] using (ColumnRef.reads plain).close opens closes

theorem closes_between (negated : Bool) :
    Closes params (symbols (" " ++ notText negated ++ "BETWEEN "))
      (notTokens negated ++ [.word "BETWEEN"]) := by
  cases negated <;> exact closes_of_run rfl

theorem closes_in (negated : Bool) :
    Closes params (symbols (" " ++ notText negated ++ "IN ("))
      (notTokens negated ++ [.word "IN", .mark '(']) := by
  cases negated <;> exact closes_of_run rfl

theorem closes_like (negated : Bool) :
    Closes params (symbols (" " ++ notText negated ++ "LIKE "))
      (notTokens negated ++ [.word "LIKE"]) := by
  cases negated <;> exact closes_of_run rfl

theorem closes_escape (escaped : Bool) :
    Closes params (symbols (if escaped then " ESCAPE '!'" else ""))
      (if escaped then [.word "ESCAPE", .quoted "!"] else []) := by
  cases escaped <;> exact closes_of_run rfl

/-- Two slots after what asks for a range. -/
theorem closes_range {xs : List Symbol} {ts : List Token} {m n : String} {v w : Value}
    (front : Closes params xs ts) (low : params.get? m = some v) (high : params.get? n = some w) :
    Closes params (xs ++ ([.slot m] ++ symbols " AND " ++ [.slot n]))
      (ts ++ ([.value v] ++ [.word "AND"] ++ [.value w])) :=
  front.append (((closes_slot low).append closes_and).append (closes_slot high))

/-- The slots of a list, with the parenthesis that closes it. -/
theorem closes_list {names : List String} {vs : List Value} (resolved : params.Resolve names vs) :
    Closes params ((SqlText.join ", " (names.map .slot)).symbols ++ symbols ")") (listTokens vs) := by
  have comma : Closes params (symbols ", ") [.mark ','] := closes_of_run rfl
  have closed : Closes params (symbols ")") [.mark ')'] := closes_of_run rfl
  induction resolved with
  | nil => simpa [SqlText.join, listTokens] using closed
  | @cons name v names vs value resolved ih =>
    cases resolved with
    | nil => simpa [SqlText.join, listTokens] using (closes_slot value).append closed
    | @cons other w names vs value' resolved =>
      have front := (closes_slot value).append comma
      simpa [SqlText.join, listTokens] using front.append ih

end

theorem opens_andAll (ts : List SqlText) : Opens (andAll ts).symbols := by
  rw [symbols_andAll]
  cases ts with
  | nil => exact .inl rfl
  | cons t ts => exact .inr rfl

/-- An action that prints a text with given tokens, in which the values that it binds stand. -/
def Spells (m : Binder SqlText) (bs : List (String × Value)) (ts : List Token) : Prop :=
  ∀ b params, params.Resolve (b.names bs) (bs.map (·.2)) → Reads params (m.run b).1.symbols ts

theorem bindSlots_run (base : String) (vs : List Value) (b : Binding) :
    ((bindSlots base vs).run b).1 = (b.names (vs.map fun v => (base, v))).map .slot := by
  induction vs generalizing b with
  | nil => rfl
  | cons v vs ih =>
    show SqlText.slot (b.naming.next base).1 :: ((bindSlots base vs).run (b.bindAll [(base, v)])).1 = _
    rw [ih]
    rfl

/-- A text in parentheses. -/
theorem closes_parenthesized {params : Params} {xs : List Symbol} {ts : List Token}
    (inner : Reads params xs ts) :
    Closes params (symbols "(" ++ xs ++ symbols ")") (.mark '(' :: (ts ++ [.mark ')'])) := by
  have opened : Closes params (symbols "(") [.mark '('] := closes_of_run rfl
  have closed : Closes params (symbols ")") [.mark ')'] := closes_of_run rfl
  exact (opened.then inner).close rfl closed

/-- A text that asks whether a column is null, true or false. -/
theorem reads_is {params : Params} {c : ColumnRef} (plain : c.Plain) (negated : Bool) {s : String}
    (asked : Reads params (symbols (" IS " ++ notText negated ++ s))
      ([.word "IS"] ++ notTokens negated ++ [.word s])) :
    Reads params (SqlText.raw (c.text ++ " IS " ++ notText negated ++ s)).symbols
      (c.tokens ++ [.word "IS"] ++ notTokens negated ++ [.word s]) := by
  have opens : Opens (symbols (" IS " ++ notText negated ++ s)) :=
    .inr (apart_append (apart_append rfl _) _)
  have reads := (ColumnRef.reads plain).append opens asked
  simpa only [SqlText.symbols_raw, symbols_append, List.append_assoc] using reads

/-- Two tests of one column in parentheses. -/
theorem reads_pair {params : Params} {c : ColumnRef} (plain : c.Plain) {word last : String}
    {ts us : List Token} (before : apart (symbols word) = true)
    (closes : Closes params (symbols word) ts) (after : apart (symbols last) = true)
    (ends : Closes params (symbols last) us) :
    Reads params (SqlText.raw ("(" ++ c.text ++ word ++ c.text ++ (last ++ ")"))).symbols
      (.mark '(' :: (c.tokens ++ ts ++ c.tokens ++ us ++ [.mark ')'])) := by
  have column : Reads params (symbols c.text) c.tokens := ColumnRef.reads plain
  have inner := ((column.close before closes).then column).close after ends
  simpa only [SqlText.symbols_raw, symbols_append, List.append_assoc] using
    (closes_parenthesized inner.reads).reads

theorem Test.spells (d : Dialect) {c : ColumnRef} (plain : c.Plain) (t : Test) :
    Spells (t.print d c) (t.values.map fun v => (c.column, v)) (t.tokens d c) := by
  intro b params resolved
  have column : Reads params (symbols c.text) c.tokens := ColumnRef.reads plain
  have length : Closes params (symbols (d.lengthFunction ++ "(" ++ c.text ++ ")")) (lengthTokens d c) :=
    closes_length d plain
  cases t with
  | compare op v =>
    cases resolved with
    | cons value _ =>
      have opens := apart_append (apart_append (s := " ") rfl op.symbol) " "
      have front := column.close opens op.closes
      show Reads params (SqlText.raw (c.text ++ " " ++ op.symbol ++ " ")
        ++ SqlText.slot (b.naming.next c.column).1).symbols _
      simpa only [SqlText.symbols_append, SqlText.symbols_raw, SqlText.symbols_slot, symbols_append,
        List.append_assoc, tokens] using (front.append (closes_slot value)).reads
  | compareLength op n =>
    cases resolved with
    | cons value _ =>
      show Reads params (SqlText.raw (d.lengthFunction ++ "(" ++ c.text ++ ") " ++ op.symbol ++ " ")
        ++ SqlText.slot (b.naming.next c.column).1).symbols _
      rw [show ") " = ")" ++ " " from rfl]
      simpa only [SqlText.symbols_append, SqlText.symbols_raw, SqlText.symbols_slot, symbols_append,
        List.append_assoc, tokens] using ((length.append op.closes).append (closes_slot value)).reads
  | between negated lower upper =>
    cases resolved with
    | cons low more =>
      cases more with
      | cons high _ =>
        have reads := (closes_range (closes_negatable plain negated (closes_between negated)) low high).reads
        show Reads params (SqlText.raw (c.text ++ " " ++ notText negated ++ "BETWEEN ")
          ++ SqlText.slot (b.naming.next c.column).1 ++ SqlText.raw " AND "
          ++ SqlText.slot ((b.naming.next c.column).2.next c.column).1).symbols _
        simpa only [SqlText.symbols_append, SqlText.symbols_raw, SqlText.symbols_slot,
          List.append_assoc, List.cons_append, List.nil_append, tokens] using reads
  | lengthBetween negated lower upper =>
    cases resolved with
    | cons low more =>
      cases more with
      | cons high _ =>
        have reads := (closes_range (length.append (closes_between negated)) low high).reads
        show Reads params (SqlText.raw (d.lengthFunction ++ "(" ++ c.text ++ ") " ++ notText negated
          ++ "BETWEEN ") ++ SqlText.slot (b.naming.next c.column).1 ++ SqlText.raw " AND "
          ++ SqlText.slot ((b.naming.next c.column).2.next c.column).1).symbols _
        rw [show ") " = ")" ++ " " from rfl]
        simpa only [SqlText.symbols_append, SqlText.symbols_raw, SqlText.symbols_slot,
          symbols_append, List.append_assoc, List.cons_append, List.nil_append, tokens] using reads
  | isIn negated vs =>
    have values : params.Resolve (b.names (vs.map fun v => (c.column, v))) vs := by
      simpa [values, Function.comp_def] using resolved
    have reads := ((closes_negatable plain negated (closes_in negated)).append
      (closes_list values)).reads
    rw [← bindSlots_run] at reads
    show Reads params (SqlText.raw (c.text ++ " " ++ notText negated ++ "IN (")
      ++ SqlText.join ", " ((bindSlots c.column vs).run b).1 ++ SqlText.raw ")").symbols _
    simpa only [SqlText.symbols_append, SqlText.symbols_raw, List.append_assoc,
      List.cons_append, List.nil_append, tokens] using reads
  | like negated pattern escaped =>
    cases resolved with
    | cons value _ =>
      have front := (closes_negatable plain negated (closes_like negated)).append (closes_slot value)
      show Reads params (SqlText.raw (c.text ++ " " ++ notText negated ++ "LIKE ")
        ++ SqlText.slot (b.naming.next c.column).1
        ++ SqlText.raw (if escaped then " ESCAPE '!'" else "")).symbols _
      simpa only [SqlText.symbols_append, SqlText.symbols_raw, SqlText.symbols_slot,
        List.append_assoc, List.cons_append, List.nil_append, tokens] using
        (front.append (closes_escape escaped)).reads
  | isNull negated =>
    refine reads_is plain negated ?_
    cases negated <;> exact reads_of_run _ "NULL" rfl (by decide)
  | isTrue negated =>
    refine reads_is plain negated ?_
    cases negated <;> exact reads_of_run _ "TRUE" rfl (by decide)
  | isFalse negated =>
    refine reads_is plain negated ?_
    cases negated <;> exact reads_of_run _ "FALSE" rfl (by decide)
  | blank =>
    have word : Closes params (symbols " IS NULL OR ") [.word "IS", .word "NULL", .word "OR"] :=
      closes_of_run rfl
    have empty : Closes params (symbols " = ''") [.mark '=', .quoted ""] := closes_of_run rfl
    show Reads params
      (SqlText.raw ("(" ++ c.text ++ " IS NULL OR " ++ c.text ++ (" = ''" ++ ")"))).symbols _
    simpa only [List.append_assoc, List.cons_append, List.nil_append, tokens] using
      reads_pair plain rfl word rfl empty
  | filled =>
    have word : Closes params (symbols " IS NOT NULL AND ")
        [.word "IS", .word "NOT", .word "NULL", .word "AND"] := closes_of_run rfl
    have empty : Closes params (symbols " <> ''") [.mark '<', .mark '>', .quoted ""] :=
      closes_of_run rfl
    show Reads params
      (SqlText.raw ("(" ++ c.text ++ " IS NOT NULL AND " ++ c.text ++ (" <> ''" ++ ")"))).symbols _
    simpa only [List.append_assoc, List.cons_append, List.nil_append, tokens] using
      reads_pair plain rfl word rfl empty

/-- What is bound in two parts is resolved part by part. -/
theorem NamedValues.Resolve.split {params : Params} {bs cs : List (String × Value)} {b : Binding}
    (resolved : params.Resolve (b.names (bs ++ cs)) ((bs ++ cs).map (·.2))) :
    params.Resolve (b.names bs) (bs.map (·.2)) ∧
      params.Resolve ((b.bindAll bs).names cs) (cs.map (·.2)) := by
  induction bs generalizing b with
  | nil => exact ⟨.nil, resolved⟩
  | cons p bs ih =>
    cases resolved with
    | cons value rest =>
      obtain ⟨front, back⟩ := ih (b := b.bindAll [p]) rest
      exact ⟨.cons value front, back⟩

mutual

/-- A condition with plain names is printed as its tokens. -/
theorem Condition.spells (d : Dialect) :
    ∀ {c : Condition}, c.Plain → Spells (c.print d) c.bindings (c.tokens d)
  | .never, _ => fun b params _ => by
    show Reads params (SqlText.raw "1=0").symbols _
    rw [SqlText.symbols_raw]
    exact reads_of_run [.word "1", .mark '='] "0" rfl (by decide)
  | .test orNull c t, plain => by
    intro b params resolved
    have inner := t.spells d plain b params resolved
    cases orNull with
    | false => exact inner
    | true =>
      have word : Closes params (symbols " IS NULL OR ") [.word "IS", .word "NULL", .word "OR"] :=
        closes_of_run rfl
      have either := ((ColumnRef.reads plain).close rfl word).then inner
      show Reads params (SqlText.raw ("(" ++ c.text ++ " IS NULL OR ")
        ++ ((t.print d c).run b).1 ++ SqlText.raw ")").symbols _
      simpa only [SqlText.symbols_append, SqlText.symbols_raw, symbols_append, List.append_assoc,
        List.cons_append, List.nil_append, Condition.tokens, if_true]
        using (closes_parenthesized either).reads
  | .subquery negated source link conditions, ⟨plainSource, plainLink, plain⟩ => by
    intro b params resolved
    obtain ⟨front, back⟩ := resolved.split
    have from_ := Source.spells d plainSource b params front
    rw [← (source.emits d b).1] at back
    have conds := Condition.spells_all d plain _ params back
    have start : Closes params (symbols (notText negated ++ "EXISTS (SELECT 1 FROM "))
        (notTokens negated
          ++ [.word "EXISTS", .mark '(', .word "SELECT", .word "1", .word "FROM"]) := by
      cases negated <;> exact closes_of_run rfl
    have word : Closes params (symbols " WHERE ") [.word "WHERE"] := closes_of_run rfl
    have closed : Closes params (symbols ")") [.mark ')'] := closes_of_run rfl
    have reads := ((((start.then from_).close rfl word).then (Link.reads plainLink)).append
      (opens_andAll _) conds).close rfl closed
    show Reads params (SqlText.raw (notText negated ++ "EXISTS (SELECT 1 FROM ")
      ++ ((source.print d).run b).1 ++ SqlText.raw " WHERE " ++ SqlText.raw link.text
      ++ andAll ((Condition.printAll d conditions).run ((source.print d).run b).2).1
      ++ SqlText.raw ")").symbols _
    simpa only [SqlText.symbols_append, SqlText.symbols_raw, List.append_assoc, List.cons_append,
      List.nil_append, Condition.tokens] using reads.reads

/-- A source with plain names is printed as its tokens. -/
theorem Source.spells (d : Dialect) :
    ∀ {s : Source}, s.Plain → Spells (s.print d) s.bindings (s.tokens d)
  | .table t, plain => fun b params _ => by
    show Reads params (SqlText.raw t.text).symbols _
    rw [SqlText.symbols_raw]
    exact TableRef.reads plain
  | .join outer left right link conditions, ⟨plainLeft, plainRight, plainLink, plain⟩ => by
    intro b params resolved
    obtain ⟨first, rest⟩ := resolved.split
    obtain ⟨second, third⟩ := rest.split
    have l := Source.spells d plainLeft b params first
    rw [← (left.emits d b).1] at second third
    have r := Source.spells d plainRight _ params second
    rw [← (right.emits d _).1] at third
    have conds := Condition.spells_all d plain _ params third
    have word : Closes params (SqlText.raw (if outer then " LEFT JOIN " else " INNER JOIN ")).symbols
        [.word (if outer then "LEFT" else "INNER"), .word "JOIN"] := by
      rw [SqlText.symbols_raw]
      cases outer <;> exact closes_of_run rfl
    have opens : apart (SqlText.raw (if outer then " LEFT JOIN " else " INNER JOIN ")).symbols = true := by
      rw [SqlText.symbols_raw]
      cases outer <;> rfl
    have on : Closes params (symbols " ON ") [.word "ON"] := closes_of_run rfl
    have item : Reads params (if right.isTable then ((right.print d).run ((left.print d).run b).2).1
          else SqlText.raw "(" ++ ((right.print d).run ((left.print d).run b).2).1
            ++ SqlText.raw ")").symbols
        (if right.isTable then right.tokens d else .mark '(' :: (right.tokens d ++ [.mark ')'])) := by
      split
      · exact r
      · simpa only [SqlText.symbols_append, SqlText.symbols_raw] using (closes_parenthesized r).reads
    have reads := ((((l.close opens word).then item).close rfl on).then (Link.reads plainLink)).append
      (opens_andAll _) conds
    show Reads params (((left.print d).run b).1
      ++ SqlText.raw (if outer then " LEFT JOIN " else " INNER JOIN ")
      ++ (if right.isTable then ((right.print d).run ((left.print d).run b).2).1
          else SqlText.raw "(" ++ ((right.print d).run ((left.print d).run b).2).1
            ++ SqlText.raw ")")
      ++ SqlText.raw " ON " ++ SqlText.raw link.text ++ andAll ((Condition.printAll d conditions).run
        ((right.print d).run ((left.print d).run b).2).2).1).symbols _
    simpa only [SqlText.symbols_append, SqlText.symbols_raw, List.append_assoc, List.cons_append,
      List.nil_append, Source.tokens] using reads

/-- Conditions with plain names continue a conjunction with their tokens. -/
theorem Condition.spells_all (d : Dialect) :
    ∀ {cs : List Condition}, Condition.AllPlain cs → ∀ b params,
      params.Resolve (b.names (Condition.allBindings cs)) ((Condition.allBindings cs).map (·.2)) →
      Reads params (andAll ((Condition.printAll d cs).run b).1).symbols (Condition.andTokens d cs)
  | [], _ => fun _ _ _ => by
    show Reads _ (andAll []).symbols []
    rw [symbols_andAll]
    exact .nil
  | c :: cs, ⟨plainFirst, plain⟩ => by
    intro b params resolved
    obtain ⟨front, back⟩ := resolved.split
    have first := Condition.spells d plainFirst b params front
    rw [← (c.emits d b).1] at back
    have rest := Condition.spells_all d plain _ params back
    show Reads params (andAll (((c.print d).run b).1
      :: ((Condition.printAll d cs).run ((c.print d).run b).2).1)).symbols _
    have reads := (closes_and.then first).append (opens_andAll _) rest
    rw [symbols_andAll] at reads ⊢
    simpa only [List.flatMap_cons, List.append_assoc, List.cons_append, List.nil_append,
      Condition.andTokens] using reads

end

end Sift
