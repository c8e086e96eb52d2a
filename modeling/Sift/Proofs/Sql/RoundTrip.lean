import Sift.Proofs.Sql.Parsing
import Sift.Proofs.Statement.Parameters

/-!
# Reading what is printed

A condition or selection with plain names is read back from its text and parameters.
So the rows that a text selects can be told from its syntax tree.
-/
namespace Sift

open Sql

theorem Sql.tokens_of_reads {params : Params} {xs : List Symbol} {ts : List Token}
    (reads : Reads params xs ts) : tokens params xs = ts := by
  have read := reads [] (.inl rfl)
  rwa [List.append_nil, show tokens params [] = [] from rfl, List.append_nil] at read

theorem Sql.whole_of_read {α : Type} {read : Nat → List Token → Option (α × List Token)}
    {ts : List Token} {a : α} (all : read (3 * ts.length + 3) ts = some (a, [])) :
    whole read ts = some a := by
  simp [whole, all]

/-- The text of a condition is read as what it says, if its slots have its values. -/
theorem Condition.expr?_of_resolved (d : Dialect) {c : Condition} (plain : c.Plain) {b : Binding}
    {params : Params} (resolved : params.Resolve (b.names c.bindings) (c.bindings.map (·.2))) :
    ((c.print d).run b).1.expr? params = some c.expr := by
  have read := (Condition.means d plain).single.single (3 * (c.tokens d).length + 3) [] (by omega)
    endsAll_nil
  rw [List.append_nil] at read
  rw [SqlText.expr?, tokens_of_reads (c.spells d plain b _ resolved)]
  exact whole_of_read read

/-- The text of a condition, with the values that it binds, is read as what it says. -/
theorem Condition.expr?_print (d : Dialect) {c : Condition} (plain : c.Plain) (b : Binding) :
    ((c.print d).run b).1.expr? ((c.print d).run b).2.params = some c.expr := by
  have resolved := b.resolve_bindAll c.bindings
  rw [← (c.emits d b).1] at resolved
  exact c.expr?_of_resolved d plain resolved

/-- So are the texts of conditions that are printed one after the other. -/
theorem Condition.exprs_of_resolved (d : Dialect) {cs : List Condition} (plain : Condition.AllPlain cs)
    {b : Binding} {params : Params} (resolved : params.Resolve (b.names (Condition.allBindings cs))
      ((Condition.allBindings cs).map (·.2))) :
    ((Condition.printAll d cs).run b).1.map (·.expr? params) = cs.map fun c => some c.expr := by
  induction cs generalizing b with
  | nil => rfl
  | cons c cs ih =>
    obtain ⟨front, back⟩ := resolved.split
    rw [← (c.emits d b).1] at back
    show ((c.print d).run b).1.expr? params
      :: ((Condition.printAll d cs).run ((c.print d).run b).2).1.map (·.expr? params) = _
    rw [c.expr?_of_resolved d plain.1 front, ih plain.2 back, List.map_cons]

/-! ## Selections -/

/-- The conjunction of conditions, if there are any. -/
def Condition.all? : List Condition → Option Expr
  | [] => none
  | c :: cs => some (Condition.conjoin c.expr cs)

/-- The tokens of a WHERE, if there are conditions. -/
def Condition.whereTokens (d : Dialect) : List Condition → List Token
  | [] => []
  | c :: cs => .word "WHERE" :: (c.tokens d ++ Condition.andTokens d cs)

namespace Selection

/-- What a selection asks for. -/
def query (s : Selection) : Sql.Query := ⟨s.source.from_, Condition.all? s.conditions⟩

def tokens (d : Dialect) (s : Selection) : List Token :=
  .word "FROM" :: (s.source.tokens d ++ Condition.whereTokens d s.conditions)

/-- All names are plain, and tables have names of their own. -/
def Plain (s : Selection) : Prop := s.source.Plain ∧ Condition.AllPlain s.conditions

end Selection

theorem symbols_join (t : SqlText) (ts : List SqlText) :
    (SqlText.join " AND " (t :: ts)).symbols = t.symbols ++ (andAll ts).symbols := by
  induction ts generalizing t with
  | nil => simp [SqlText.join, symbols_andAll]
  | cons u us ih =>
    show (t ++ SqlText.raw " AND " ++ SqlText.join " AND " (u :: us)).symbols = _
    rw [SqlText.symbols_append, SqlText.symbols_append, SqlText.symbols_raw, ih, symbols_andAll,
      symbols_andAll, List.flatMap_cons, List.append_assoc, List.append_assoc]

/-- The characters and slots of a WHERE, if there are conditions. -/
def whereSymbols : List SqlText → List Symbol
  | [] => []
  | t :: ts => symbols " WHERE " ++ (SqlText.join " AND " (t :: ts)).symbols

theorem Scope.symbols_text (s : Scope) :
    s.text.symbols = symbols " FROM " ++ (s.source.symbols ++ whereSymbols s.conditions) := by
  rw [text, where?]
  cases s.conditions with
  | nil => simp [whereSymbols]
  | cons t ts =>
    simp only [List.isEmpty_cons, Bool.false_eq_true, if_false, SqlText.symbols_append,
      SqlText.symbols_raw, symbols_join, whereSymbols, List.append_assoc]

/-- Conditions that are joined by AND are read as their tokens. -/
theorem Condition.spells_joined (d : Dialect) {c : Condition} {cs : List Condition}
    (plain : Condition.AllPlain (c :: cs)) (b : Binding) (params : Params)
    (resolved : params.Resolve (b.names (Condition.allBindings (c :: cs)))
      ((Condition.allBindings (c :: cs)).map (·.2))) :
    Reads params (SqlText.join " AND " ((Condition.printAll d (c :: cs)).run b).1).symbols
      (c.tokens d ++ Condition.andTokens d cs) := by
  obtain ⟨front, back⟩ := resolved.split
  have first := Condition.spells d plain.1 b params front
  rw [← (c.emits d b).1] at back
  have rest := Condition.spells_all d plain.2 _ params back
  show Reads params (SqlText.join " AND " (((c.print d).run b).1
    :: ((Condition.printAll d cs).run ((c.print d).run b).2).1)).symbols _
  rw [symbols_join]
  exact first.append (opens_andAll _) rest

/-- The text of conditions that are joined by AND, with the values that they bind, is read as their
conjunction. -/
theorem Condition.expr?_joined (d : Dialect) {c : Condition} {cs : List Condition}
    (plain : Condition.AllPlain (c :: cs)) (b : Binding) :
    (SqlText.join " AND " ((Condition.printAll d (c :: cs)).run b).1).expr?
        ((Condition.printAll d (c :: cs)).run b).2.params = some (Condition.conjoin c.expr cs) := by
  have resolved := b.resolve_bindAll (Condition.allBindings (c :: cs))
  rw [← (Condition.emits_all d (c :: cs) b).1] at resolved
  have all := (Condition.means_all d plain.2 (Condition.means d plain.1)).single
  have read := all (3 * (c.tokens d ++ Condition.andTokens d cs).length + 3) [] (by omega) endsAll_nil
  rw [List.append_nil] at read
  rw [SqlText.expr?, tokens_of_reads (Condition.spells_joined d plain b _ resolved)]
  exact whole_of_read read

theorem opens_where (ts : List SqlText) : Opens (whereSymbols ts) := by
  cases ts with
  | nil => exact .inl rfl
  | cons t ts => exact .inr rfl

theorem Condition.spells_where (d : Dialect) {cs : List Condition} (plain : Condition.AllPlain cs)
    (b : Binding) (params : Params)
    (resolved : params.Resolve (b.names (Condition.allBindings cs))
      ((Condition.allBindings cs).map (·.2))) :
    Reads params (whereSymbols ((Condition.printAll d cs).run b).1) (Condition.whereTokens d cs) := by
  cases cs with
  | nil => exact .nil
  | cons c cs =>
    have joined := Condition.spells_joined d plain b params resolved
    have word : Closes params (symbols " WHERE ") [.word "WHERE"] := closes_of_run rfl
    exact word.then joined

theorem Selection.spells (d : Dialect) (predictsEmpty : Bool) {s : Selection} (plain : s.Plain)
    (b : Binding) :
    Reads ((s.print d predictsEmpty).run b).1.params ((s.print d predictsEmpty).run b).1.text.symbols
      (s.tokens d) := by
  have resolved := b.resolve_bindAll s.bindings
  rw [← (s.print_spec d predictsEmpty b).2.1] at resolved
  obtain ⟨front, back⟩ := resolved.split
  have from_ := s.source.spells d plain.1 b _ front
  rw [← (s.source.emits d b).1] at back
  have where_ := Condition.spells_where d plain.2 _ _ back
  have start : Closes ((s.print d predictsEmpty).run b).1.params (symbols " FROM ")
      [.word "FROM"] := closes_of_run rfl
  rw [Scope.symbols_text]
  exact start.then (from_.append (opens_where _) where_)

theorem Selection.means (d : Dialect) {s : Selection} (plain : s.Plain) :
    readQuery (3 * (s.tokens d).length + 3) (s.tokens d) = some (s.query, []) := by
  have from_ := Source.means d plain.1
  obtain ⟨source, conditions⟩ := s
  cases conditions with
  | nil =>
    have read := from_.alone (n := 3 * (source.tokens d).length + 6) (by simp) endsAll_nil rfl
    rw [List.append_nil] at read
    have enough : 3 * (Selection.tokens d ⟨source, []⟩).length + 3 =
        3 * (source.tokens d).length + 6 := by
      simp [Selection.tokens, Condition.whereTokens]
      omega
    rw [enough]
    simp [readQuery, Selection.tokens, Condition.whereTokens, read, Selection.query, Condition.all?,
      passWord]
  | cons c cs =>
    have where_ := (Condition.means_all d plain.2.2 (Condition.means d plain.2.1)).single
    obtain ⟨n, enough⟩ : ∃ n, n = 3 * (Selection.tokens d ⟨source, c :: cs⟩).length + 3 := ⟨_, rfl⟩
    have length : n = 3 * (source.tokens d).length +
        3 * (c.tokens d ++ Condition.andTokens d cs).length + 9 := by
      simp [enough, Selection.tokens, Condition.whereTokens]
      omega
    have last : readJoin (.word "WHERE" :: (c.tokens d ++ Condition.andTokens d cs)) = none := by
      simp [readJoin, passWords]
    have read := from_.alone (n := n) (by simp only; omega) (endsAll_word (by decide) _) last
    have read' := where_ n [] (by omega) endsAll_nil
    rw [List.append_nil] at read'
    rw [← enough]
    simp [readQuery, Selection.tokens, Condition.whereTokens, read, read', Selection.query,
      Condition.all?]

/-- The FROM and WHERE of a selection, with the values that it binds, is read as what the selection
asks for. -/
theorem Selection.query?_print (d : Dialect) (predictsEmpty : Bool) {s : Selection}
    (plain : s.Plain) (b : Binding) :
    ((s.print d predictsEmpty).run b).1.text.query? ((s.print d predictsEmpty).run b).1.params =
      some s.query := by
  rw [SqlText.query?, tokens_of_reads (s.spells d predictsEmpty plain b)]
  exact whole_of_read (s.means d plain)

end Sift
