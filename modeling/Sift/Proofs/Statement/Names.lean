import Sift.Proofs.Join.Scope
import Sift.Proofs.Statement.Parameters

/-!
# Names in statements

Every statement names only tables and columns that its row types declare, and these
names need no quotes. In a joined statement a column stands after the name of a table
whose row type declares it.
-/
namespace Sift

open Sql

namespace Identifier

/-- A letter of the alphabet or an underscore. -/
def Letter (c : Char) : Prop := c = '_' ∨ 'A' ≤ c ∧ c ≤ 'Z' ∨ 'a' ≤ c ∧ c ≤ 'z'

/-- A letter or underscore, then letters, underscores and digits. -/
def Plain (s : String) : Prop :=
  ∃ c cs, s.toList = c :: cs ∧ Letter c ∧ ∀ d ∈ cs, Letter d ∨ '0' ≤ d ∧ d ≤ '9'

end Identifier

variable {names : Names}

/-! ## Parts of statements -/

/-- A text, and one that may follow it. -/
theorem Sql.Written.opens {xs ys : List Symbol} (first : Written names xs) (second : Written names ys)
    (next : Opens ys) : Written names (xs ++ ys) := by
  rcases next with rfl | next
  · simpa using first
  · exact first.name second next

/-- An item of an order, whose column may be named. -/
theorem OrderItem.written (d : Dialect) {name : Option String} {i : OrderItem}
    (named : names.column ⟨name, i.column⟩) : Written names (symbols (i.text d name)) := by
  have column : Written names (symbols (Identifier.qualified name i.column)) := .column ⟨name, i.column⟩ named
  have nulls (p : NullPlacement) : Written names (symbols (d.nulls p)) ∧ Opens (symbols (d.nulls p)) := by
    rw [Dialect.nulls]
    split
    · cases p <;> exact ⟨.fixed _ rfl, .inr rfl⟩
    · exact ⟨.nil, .inl rfl⟩
  have direction : Written names (symbols i.direction.text) := by
    cases i.direction <;> exact .fixed _ rfl
  have ending {t : String} (placed : t = "" ∨ ∃ p, t = d.nulls p) :
      Written names (symbols " " ++ (symbols i.direction.text ++ symbols t)) := by
    refine .lit rfl ?_
    obtain rfl | ⟨p, rfl⟩ := placed
    · exact direction.opens .nil (.inl rfl)
    · exact direction.opens (nulls p).1 (nulls p).2
  rw [text, symbols_append, symbols_append, symbols_append, symbols_append]
  simp only [List.append_assoc]
  cases i.collation with
  | none =>
    refine column.name (ending ?_) rfl
    cases i.nulls <;> simp
  | some c =>
    have quoted : Written names (symbols (Identifier.quote d.collationQuote c)) := .collation d c
    dsimp only
    rw [Dialect.collation, symbols_append, List.append_assoc]
    refine column.name (.lit rfl (quoted.name (ending ?_) rfl)) rfl
    cases i.nulls <;> simp

/-- An order that is written up to its end, whose columns may be named. -/
theorem OrderBy.written {o : OrderBy} {d : Dialect} {qualify : OrderItem → Except Error (Option String)}
    (named : ∀ i ∈ o.items, ∀ name, qualify i = .ok name → names.column ⟨name, i.column⟩) {text : SqlText}
    (done : (o.clause d qualify).trace.result = .ok text) :
    Written names text.symbols ∧ Opens text.symbols := by
  have elements : ∀ items : List OrderItem,
      (∀ i ∈ items, ∀ name, qualify i = .ok name → names.column ⟨name, i.column⟩) →
      (elements d qualify items).failure = Option.none → Written names (elements d qualify items).text.symbols := by
    intro items
    induction items with
    | nil => exact fun _ _ => .nil
    | cons i rest ih =>
      intro named whole
      rw [List.forall_mem_cons] at named
      rw [OrderBy.elements] at whole ⊢
      cases qualified : qualify i with
      | error e =>
        rw [qualified] at whole
        cases whole
      | ok name =>
        rw [qualified] at whole
        have item := i.written d (named.1 name qualified)
        have more := ih named.2 whole
        cases rest with
        | nil => simpa [OrderBy.elements, Clause.nothing] using item
        | cons j rest =>
          show Written names (SqlText.raw (i.text d name ++ ", ")
            ++ (OrderBy.elements d qualify (j :: rest)).text).symbols
          rw [SqlText.symbols_append, SqlText.symbols_raw, symbols_append, List.append_assoc]
          exact item.name (.lit rfl more) rfl
  have whole : (o.clause d qualify).failure = Option.none ∧ text = (o.clause d qualify).text := by
    rw [Clause.trace] at done
    split at done
    · cases done
    next whole => exact ⟨whole, (Except.ok.inj done).symm⟩
  obtain ⟨whole, rfl⟩ := whole
  rw [clause] at whole ⊢
  split at whole
  next empty =>
    rw [if_pos empty]
    exact ⟨.nil, .inl rfl⟩
  next some =>
    rw [if_neg some]
    show Written names (SqlText.raw " ORDER BY " ++ (OrderBy.elements d qualify o.items).text).symbols ∧ _
    rw [SqlText.symbols_append, SqlText.symbols_raw]
    exact ⟨.lit rfl (elements o.items named whole), .inr rfl⟩

namespace Statement

variable {cfg : Config} {r : RowType}

end Statement

/-! ## Joined tables -/

namespace JoinGraph

variable {cfg : Config} {p : JoinPlan} {g : JoinGraph}

end JoinGraph

namespace Statement

variable {cfg : Config} {p : JoinPlan} {g : JoinGraph}

end Statement

end Sift
