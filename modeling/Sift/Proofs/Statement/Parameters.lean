import Sift.Proofs.Event
import Sift.Proofs.Sql.Rendering
import Sift.Statement.Joined
import Mathlib.Data.List.Perm.Basic

/-!
# Parameters of statements

The slots of every issued statement have different names, and in the order of the
text they are the names of its parameters; only a window in which the offset is
written before the limit has these two the other way round. So every statement
renders, and each placeholder receives the value bound for its slot.
-/
namespace Sift

/-- A list with its last two elements exchanged. -/
def swapLast {α : Type} : List α → List α
  | [] => []
  | [x] => [x]
  | [x, y] => [y, x]
  | x :: y :: z :: rest => x :: swapLast (y :: z :: rest)

theorem swapLast_append_pair {α : Type} (xs : List α) (x y : α) :
    swapLast (xs ++ [x, y]) = xs ++ [y, x] := by
  induction xs with
  | nil => rfl
  | cons a rest ih =>
    cases rest with
    | nil => rfl
    | cons b more =>
      cases more with
      | nil => rfl
      | cons c rest =>
        show a :: swapLast ((b :: c :: rest) ++ [x, y]) = _
        rw [ih]
        rfl

theorem swapLast_perm {α : Type} (xs : List α) : (swapLast xs).Perm xs := by
  induction xs with
  | nil => exact .refl _
  | cons x rest ih =>
    cases rest with
    | nil => exact .refl _
    | cons y more =>
      cases more with
      | nil => exact .swap x y []
      | cons z rest => exact ih.cons x

namespace Dialect

/-- Whether a window is written with its offset before its limit. -/
def writesOffsetFirst (d : Dialect) (w : Pagination) : Bool :=
  d == .ansi && w.limit.isSome && w.offset.isSome

/-- The order in which the names of a statement's parameters stand in its text. -/
def slotOrder (d : Dialect) (w : Pagination) (names : List String) : List String :=
  if d.writesOffsetFirst w then swapLast names else names

theorem slotOrder_perm (d : Dialect) (w : Pagination) (names : List String) :
    (d.slotOrder w names).Perm names := by
  rw [slotOrder]
  split
  · exact swapLast_perm names
  · exact .refl _

end Dialect

/-! ## Scopes and windows -/

/-- What a scope binds: the values of its source before those of its conditions. -/
def Selection.bindings (s : Selection) : List (String × Value) :=
  s.source.bindings ++ Condition.allBindings s.conditions

namespace Scope

theorem slotNames_text (s : Scope) :
    s.text.slotNames = s.source.slotNames ++ s.conditions.flatMap SqlText.slotNames := by
  rw [text, where?]
  cases s.conditions with
  | nil => simp
  | cons c cs => simp

theorem slotNames_where {s : Scope} {w : SqlText} (there : s.where? = some w) :
    w.slotNames = s.conditions.flatMap SqlText.slotNames := by
  rw [where?] at there
  split at there
  · exact absurd there (by simp)
  · rw [← Option.some.inj there, SqlText.slotNames_join]

end Scope

/-- A printed selection holds the parameters bound up to its end. -/
theorem Selection.print_spec (d : Dialect) (predictsEmpty : Bool) (s : Selection) (b : Binding) :
    ((s.print d predictsEmpty).run b).2 = b.bindAll s.bindings ∧
      ((s.print d predictsEmpty).run b).1.params = (b.bindAll s.bindings).params ∧
      ((s.print d predictsEmpty).run b).1.source.slotNames = b.names s.source.bindings ∧
      ((s.print d predictsEmpty).run b).1.text.slotNames = b.names s.bindings := by
  obtain ⟨state, slots⟩ := s.source.emits d b
  obtain ⟨state', slots'⟩ := Condition.emits_all d s.conditions (b.bindAll s.source.bindings)
  have run : (s.print d predictsEmpty).run b =
      (⟨((s.source.print d).run b).1,
        ((Condition.printAll d s.conditions).run ((s.source.print d).run b).2).1,
        ((Condition.printAll d s.conditions).run ((s.source.print d).run b).2).2.params,
        predictsEmpty⟩,
      ((Condition.printAll d s.conditions).run ((s.source.print d).run b).2).2) := rfl
  have ends : (b.bindAll s.source.bindings).bindAll (Condition.allBindings s.conditions) =
      b.bindAll s.bindings := by
    rw [Selection.bindings, Binding.bindAll_append]
  rw [run, state, state', ends]
  refine ⟨rfl, rfl, slots, ?_⟩
  rw [Scope.slotNames_text, slots, slots', Selection.bindings, Binding.names_append]
  rfl

/-- The values of a window, the limit first. -/
def Pagination.bindings (w : Pagination) : List (String × Value) :=
  (w.limit.map fun n => ("limit", Value.int n)).toList ++
    (w.offset.map fun n => ("offset", Value.int n)).toList

namespace Statement

/-- A window is bound limit first; its slots stand in the order of the dialect. -/
theorem window?_spec (d : Dialect) (w : Pagination) (b : Binding) :
    ((window? d w).run b).2 = b.bindAll w.bindings ∧
      ((window? d w).run b).1.slotNames = d.slotOrder w (b.names w.bindings) := by
  obtain ⟨limit, offset⟩ := w
  cases limit with
  | none =>
    cases offset with
    | none => cases d <;> exact ⟨rfl, rfl⟩
    | some o => cases d <;> exact ⟨rfl, rfl⟩
  | some l =>
    cases offset with
    | none => cases d <;> exact ⟨rfl, rfl⟩
    | some o => cases d <;> exact ⟨rfl, rfl⟩

/-- The order of a window moves only the names of the window. -/
theorem slotOrder_append (d : Dialect) (w : Pagination) (b : Binding) (names : List String) :
    d.slotOrder w (names ++ b.names w.bindings) = names ++ d.slotOrder w (b.names w.bindings) := by
  rw [Dialect.slotOrder, Dialect.slotOrder]
  split
  next first =>
    obtain ⟨limit, offset⟩ := w
    cases limit with
    | none => simp [Dialect.writesOffsetFirst] at first
    | some l =>
      cases offset with
      | none => simp [Dialect.writesOffsetFirst] at first
      | some o => exact swapLast_append_pair names _ _
  next => rfl

end Statement

/-! ## Issued statements -/

/-- The statements that a configuration issues: the results of the operations that compile one,
and the statements that count the rows of an issued one. -/
inductive Issued (cfg : Config) : Statement → Prop where
  | findById {r : RowType} {id : Value} {s : Statement}
      (done : (Statement.findById cfg r id).result = .ok s) : Issued cfg s
  | deleteById {r : RowType} {id : Value} {s : Statement}
      (done : (Statement.deleteById cfg r id).result = .ok s) : Issued cfg s
  | deleteUnchanged {r : RowType} {id modifiedAt : Value} {s : Statement}
      (done : (Statement.deleteUnchanged cfg r id modifiedAt).result = .ok s) : Issued cfg s
  | select {r : RowType} {q : Query r} {order : OrderBy} {window : Pagination} {s : Statement}
      (done : (Statement.select cfg q order window).result = .ok s) : Issued cfg s
  | selectAll {r : RowType} {q : Query r} {order : OrderBy} {s : Statement}
      (done : (Statement.selectAll cfg q order).result = .ok s) : Issued cfg s
  | count {r : RowType} {q : Option (Query r)} {s : Statement}
      (done : (Statement.count cfg r q).result = .ok s) : Issued cfg s
  | delete {r : RowType} {q : Query r} {s : Statement}
      (done : (Statement.delete cfg q).result = .ok s) : Issued cfg s
  | joinedSelect {g : JoinGraph} {order : OrderBy} {window : Pagination} {s : Statement}
      (done : (Statement.joinedSelect cfg g order window).result = .ok s) : Issued cfg s
  | joinedCount {g : JoinGraph} {s : Statement}
      (done : (Statement.joinedCount cfg g).result = .ok s) : Issued cfg s
  | joinedDelete {g : JoinGraph} {s : Statement}
      (done : (Statement.joinedDelete cfg g).result = .ok s) : Issued cfg s
  | companion {s c : Statement} (issued : Issued cfg s) (counts : s.count? = some c) : Issued cfg c
  | countRows {s c : Statement} (issued : Issued cfg s)
      (done : (Statement.countRows cfg s).result = .ok c) : Issued cfg c

/-- The parameters of a scope are those of its text. -/
structure Scope.Aligned (s : Scope) : Prop where
  distinct : s.params.names.Nodup
  ordered : s.text.slotNames = s.params.names

/-- The parameters of a statement are those of its text, and so are those of its scope. -/
structure Statement.Aligned (d : Dialect) (s : Statement) : Prop where
  distinct : s.params.names.Nodup
  ordered : s.text.slotNames = d.slotOrder s.window s.params.names
  scope : ∀ scope, s.scope = some scope → scope.Aligned

/-- An order binds nothing. -/
theorem OrderBy.slotNames_clause (o : OrderBy) (d : Dialect)
    (qualify : OrderItem → Except Error (Option String)) :
    (o.clause d qualify).text.slotNames = [] := by
  have elements (items : List OrderItem) : (elements d qualify items).text.slotNames = [] := by
    induction items with
    | nil => rfl
    | cons i rest ih =>
      rw [OrderBy.elements]
      split
      · rfl
      · rw [SqlText.slotNames_append, ih]
        rfl
  rw [clause]
  split
  · rfl
  · rw [SqlText.slotNames_append, elements]
    rfl

theorem Clause.text_of_trace {c : Clause} {text : SqlText} (written : c.trace.result = .ok text) :
    text = c.text := by
  rw [trace] at written
  split at written
  · cases written
  · exact (Except.ok.inj written).symm

namespace Statement

variable {cfg : Config} {d : Dialect} {r : RowType}

/-- Logging does not change a statement. -/
theorem result_logged (cfg : Config) (operation : String) (s : Statement) :
    (logged cfg operation s).result = .ok s := by
  rw [logged]
  split <;> rfl

theorem eq_of_logged {operation : String} {s t : Statement}
    (done : (logged cfg operation s).result = .ok t) : s = t := by
  rw [result_logged] at done
  exact Except.ok.inj done

theorem eq_of_count? {s c : Statement} (counts : s.count? = some c) :
    ∃ scope, s.scope = some scope ∧ c = scope.count := by
  rw [count?] at counts
  split at counts
  · cases counts
  · obtain ⟨scope, there, same⟩ := Option.map_eq_some_iff.mp counts
    exact ⟨scope, there, same.symm⟩

theorem eq_of_countRows {s c : Statement} (done : (countRows cfg s).result = .ok c) :
    ∃ scope, s.scope = some scope ∧ c = scope.count := by
  unfold countRows at done
  split at done
  next scope there => exact ⟨scope, there, (eq_of_logged done).symm⟩
  next => cases done

theorem logged_aligned {operation : String} {s t : Statement}
    (done : (logged cfg operation s).result = .ok t) (aligned : s.Aligned d) : t.Aligned d :=
  eq_of_logged done ▸ aligned

/-- The selection of a scope, printed from the start, is aligned. -/
theorem scope_aligned (d : Dialect) (predictsEmpty : Bool) (s : Selection) :
    ((s.print d predictsEmpty).run .start).1.Aligned := by
  obtain ⟨-, params, -, slots⟩ := s.print_spec d predictsEmpty .start
  constructor
  · rw [params, Binding.names_bindAll_start]
    exact Naming.names_nodup _ _
  · rw [slots, params, Binding.names_bindAll_start]

/-- A statement without a window whose text has the slots of what it binds. -/
theorem plain_aligned {text : SqlText} (bs : List (String × Value)) (predictsEmpty : Bool)
    (slots : text.slotNames = Binding.start.names bs) :
    (plain text (Binding.start.bindAll bs) predictsEmpty).Aligned d := by
  refine ⟨?_, ?_, ?_⟩
  · show (Binding.start.bindAll bs).params.names.Nodup
    rw [Binding.names_bindAll_start]
    exact Naming.names_nodup _ _
  · show text.slotNames = d.slotOrder .all (Binding.start.bindAll bs).params.names
    rw [slots, Binding.names_bindAll_start]
    simp [Dialect.slotOrder, Dialect.writesOffsetFirst, Pagination.all]
  · intro scope there
    cases there

/-- A statement that ends in a text which is printed from the start. -/
theorem ending_aligned {m : Binder SqlText} {bs : List (String × Value)}
    (emits : Emits SqlText.slotNames [] m bs) (front : String) (predictsEmpty : Bool) :
    (plain (SqlText.raw front ++ (m.run .start).1) (m.run .start).2 predictsEmpty).Aligned d := by
  obtain ⟨state, slots⟩ := emits .start
  rw [state]
  refine plain_aligned bs predictsEmpty ?_
  rw [SqlText.slotNames_append, slots]
  rfl

theorem count_aligned {scope : Scope} (aligned : scope.Aligned) : scope.count.Aligned d := by
  refine ⟨aligned.distinct, ?_, ?_⟩
  · show (SqlText.raw "SELECT COUNT(*)" ++ scope.text).slotNames = _
    rw [SqlText.slotNames_append, aligned.ordered]
    simp [Scope.count, Dialect.slotOrder, Dialect.writesOffsetFirst, Pagination.all]
  · intro other there
    cases there
    exact aligned

/-- A select of a scope, with an order that binds nothing and a window after it. -/
theorem page_aligned (d : Dialect) (predictsEmpty : Bool) (selection : Selection)
    (columns : String) {ordered : SqlText} (unbound : ordered.slotNames = []) (w : Pagination) :
    let scope := (selection.print d predictsEmpty).run .start
    let paged := (window? d w).run scope.2
    (Statement.mk (SqlText.raw columns ++ scope.1.text ++ ordered ++ paged.1) paged.2.params
      predictsEmpty (some scope.1) w).Aligned d := by
  intro scope paged
  obtain ⟨state, -, -, slots⟩ := selection.print_spec d predictsEmpty .start
  obtain ⟨ends, paging⟩ := window?_spec d w scope.2
  have bound : paged.2 = Binding.start.bindAll (selection.bindings ++ w.bindings) := by
    rw [ends, show scope.2 = Binding.start.bindAll selection.bindings from state,
      Binding.bindAll_append]
  have params : paged.2.params.names =
      Binding.start.names selection.bindings ++ scope.2.names w.bindings := by
    rw [bound, Binding.names_bindAll_start, Binding.names_append,
      show scope.2 = Binding.start.bindAll selection.bindings from state]
  refine ⟨?_, ?_, ?_⟩
  · show paged.2.params.names.Nodup
    rw [bound, Binding.names_bindAll_start]
    exact Naming.names_nodup _ _
  · show (SqlText.raw columns ++ scope.1.text ++ ordered ++ paged.1).slotNames =
      d.slotOrder w paged.2.params.names
    rw [params, slotOrder_append, SqlText.slotNames_append, SqlText.slotNames_append,
      SqlText.slotNames_append, SqlText.slotNames_raw, unbound, slots, paging]
    simp
  · intro other there
    cases there
    exact scope_aligned d predictsEmpty selection

/-! ### One table -/

/-- The guard of a column binds the value that it must equal. -/
theorem emits_guard (column : String) (v : Value) :
    Emits SqlText.slotNames [] (guard column v) [(column, v)] :=
  (emits_bindSlot column v).map fun s => by simp

theorem findById_aligned {id : Value} {s : Statement}
    (done : (findById cfg r id).result = .ok s) : s.Aligned d := by
  unfold findById at done
  obtain ⟨-, -, done⟩ := Traced.result_of_bind done
  exact logged_aligned done (ending_aligned (emits_guard r.id id) _ false)

theorem deleteById_aligned {id : Value} {s : Statement}
    (done : (deleteById cfg r id).result = .ok s) : s.Aligned d := by
  unfold deleteById at done
  obtain ⟨-, -, done⟩ := Traced.result_of_bind done
  exact logged_aligned done (ending_aligned (emits_guard r.id id) _ false)

theorem deleteUnchanged_aligned {id modifiedAt : Value} {s : Statement}
    (done : (deleteUnchanged cfg r id modifiedAt).result = .ok s) : s.Aligned d := by
  unfold deleteUnchanged at done
  obtain ⟨-, -, done⟩ := Traced.result_of_bind done
  split at done
  · cases done
  next column _ =>
    have guards : Emits SqlText.slotNames [] (do
        let g ← guard r.id id
        let h ← guard column modifiedAt
        return g ++ " AND " ++ h) [(r.id, id), (column, modifiedAt)] :=
      (emits_guard r.id id).bind fun g => (emits_guard column modifiedAt).map fun h => by simp
    exact logged_aligned done (ending_aligned guards _ false)

/-- The scope of a query is printed from the start. -/
theorem eq_of_queryScope {q : Option (Query r)} {p : Scope × Binding}
    (done : queryScope cfg r q = .ok p) :
    ∃ c : Conditions, c = (q.map (·.conditions)).getD .empty ∧
      p = ((c.selection r).print cfg.dialect c.predictsEmpty).run .start := by
  unfold queryScope at done
  obtain ⟨-, -, done⟩ := ok_of_bind done
  obtain ⟨-, -, done⟩ := ok_of_bind done
  refine ⟨_, rfl, ?_⟩
  cases q with
  | none => exact (Except.ok.inj done).symm
  | some q => exact (Except.ok.inj done).symm

/-- A select is the columns, the scope of its query, an order and a window. -/
theorem eq_of_select {q : Query r} {order : OrderBy} {window : Pagination} {s : Statement}
    (done : (select cfg q order window).result = .ok s) :
    ∃ ordered clamped, (clamp cfg window).result = .ok clamped ∧
      r.validate = .ok () ∧ order.check r = .ok () ∧ q.conditions.check r = .ok () ∧
      (order.clause cfg.dialect OrderBy.unqualified).trace.result = .ok ordered ∧
      let printed := ((q.conditions.selection r).print cfg.dialect q.conditions.predictsEmpty).run .start
      let paged := (window? cfg.dialect clamped).run printed.2
      s = ⟨("SELECT " ++ columnList cfg r : String) ++ printed.1.text ++ ordered ++ paged.1, paged.2.params,
        printed.1.predictsEmpty, some printed.1, clamped⟩ := by
  unfold select at done
  obtain ⟨-, -, done⟩ := Traced.result_of_bind done
  obtain ⟨_, validated, done⟩ := Traced.result_of_bind done
  obtain ⟨_, checked, done⟩ := Traced.result_of_bind done
  obtain ⟨clamped, reduced, done⟩ := Traced.result_of_bind done
  obtain ⟨printed, scope, done⟩ := Traced.result_of_bind done
  have scope : queryScope cfg r (some q) = .ok printed := scope
  unfold queryScope at scope
  obtain ⟨_, -, scope⟩ := ok_of_bind scope
  obtain ⟨_, restricted, scope⟩ := ok_of_bind scope
  cases scope
  obtain ⟨ordered, written, done⟩ := Traced.result_of_bind done
  exact ⟨ordered, clamped, reduced, validated, checked, restricted, written, (eq_of_logged done).symm⟩

theorem selected_aligned {q : Query r} {order : OrderBy} {window : Pagination} {s : Statement}
    (done : (select cfg q order window).result = .ok s) : s.Aligned cfg.dialect := by
  obtain ⟨ordered, clamped, -, -, -, -, written, rfl⟩ := eq_of_select done
  have unbound : ordered.slotNames = [] := by
    rw [Clause.text_of_trace written]
    exact order.slotNames_clause cfg.dialect _
  exact page_aligned cfg.dialect q.conditions.predictsEmpty (q.conditions.selection r) _ unbound clamped

theorem counted_aligned {q : Option (Query r)} {s : Statement}
    (done : (count cfg r q).result = .ok s) : s.Aligned d := by
  unfold count at done
  obtain ⟨scope, found, done⟩ := Traced.result_of_bind done
  refine logged_aligned done (count_aligned ?_)
  have found : (queryScope cfg r q).map (·.1) = .ok scope := found
  cases printed : queryScope cfg r q with
  | error e => rw [printed] at found; cases found
  | ok p =>
    obtain ⟨c, -, rfl⟩ := eq_of_queryScope printed
    rw [printed] at found
    rw [← Except.ok.inj found]
    exact scope_aligned cfg.dialect c.predictsEmpty (c.selection r)

theorem delete_aligned {q : Query r} {s : Statement}
    (done : (delete cfg q).result = .ok s) : s.Aligned d := by
  unfold delete at done
  obtain ⟨printed, found, done⟩ := Traced.result_of_bind done
  have found : queryScope cfg r (some q) = .ok printed := found
  obtain ⟨c, -, same⟩ := eq_of_queryScope found
  obtain ⟨state, -, source, slots⟩ :=
    (c.selection r).print_spec cfg.dialect c.predictsEmpty .start
  rw [← same] at state source slots
  obtain ⟨scope, b⟩ := printed
  rw [Scope.slotNames_text, source] at slots
  have slots : scope.conditions.flatMap SqlText.slotNames =
      Binding.start.names (c.selection r).bindings := slots
  have state : b = Binding.start.bindAll (c.selection r).bindings := state
  rw [state] at done
  dsimp only at done
  split at done
  next w there =>
    refine logged_aligned done (plain_aligned _ _ ?_)
    rw [← slots, SqlText.slotNames_append, Scope.slotNames_where there]
    rfl
  next absent =>
    have nothing : [] = Binding.start.names (c.selection r).bindings := by
      rw [← slots]
      rw [Scope.where?] at absent
      split at absent
      next empty => rw [List.isEmpty_iff.mp empty]; rfl
      next => cases absent
    split at done
    · exact logged_aligned done (plain_aligned _ _ nothing)
    · obtain ⟨-, -, done⟩ := Traced.result_of_bind done
      exact logged_aligned done (plain_aligned _ _ nothing)

/-! ### Joined tables -/

/-- A joined select is the labelled columns, the scope of its graph, an order and a window. -/
theorem eq_of_joinedSelect {g : JoinGraph} {order : OrderBy} {window : Pagination} {s : Statement}
    (done : (joinedSelect cfg g order window).result = .ok s) :
    ∃ ordered clamped, (clamp cfg window).result = .ok clamped ∧
      (orderClause cfg order (some g)).trace.result = .ok ordered ∧
      let paged := (window? cfg.dialect clamped).run (g.printScope cfg.dialect).2
      s = ⟨("SELECT " ++ g.columnList : String) ++ (g.scope cfg).text ++ ordered ++ paged.1, paged.2.params,
        (g.scope cfg).predictsEmpty, some (g.scope cfg), clamped⟩ := by
  unfold joinedSelect at done
  obtain ⟨-, -, done⟩ := Traced.result_of_bind done
  obtain ⟨clamped, reduced, done⟩ := Traced.result_of_bind done
  obtain ⟨ordered, written, done⟩ := Traced.result_of_bind done
  exact ⟨ordered, clamped, reduced, written, (eq_of_logged done).symm⟩

theorem joinedSelect_aligned {g : JoinGraph} {order : OrderBy} {window : Pagination} {s : Statement}
    (done : (joinedSelect cfg g order window).result = .ok s) : s.Aligned cfg.dialect := by
  obtain ⟨ordered, clamped, -, written, rfl⟩ := eq_of_joinedSelect done
  have unbound : ordered.slotNames = [] := by
    rw [Clause.text_of_trace written]
    exact order.slotNames_clause cfg.dialect _
  exact page_aligned cfg.dialect g.predictsEmpty g.selection _ unbound clamped

theorem joinedCount_aligned {g : JoinGraph} {s : Statement}
    (done : (joinedCount cfg g).result = .ok s) : s.Aligned d :=
  logged_aligned done (count_aligned (scope_aligned cfg.dialect g.predictsEmpty g.selection))

theorem joinedDelete_aligned {g : JoinGraph} {s : Statement}
    (done : (joinedDelete cfg g).result = .ok s) : s.Aligned d := by
  obtain ⟨state, -, -, slots⟩ := g.selection.print_spec cfg.dialect g.predictsEmpty .start
  rw [show (g.selection.print cfg.dialect g.predictsEmpty).run .start = g.printScope cfg.dialect
    from rfl] at state slots
  unfold joinedDelete at done
  generalize g.printScope cfg.dialect = printed at *
  obtain ⟨scope, b⟩ := printed
  have state : b = Binding.start.bindAll g.selection.bindings := state
  dsimp only at done
  split at done
  · obtain ⟨-, -, done⟩ := Traced.result_of_bind done
    exact logged_aligned done (plain_aligned [] true rfl)
  · rw [state] at done
    refine logged_aligned done (plain_aligned _ _ ?_)
    rw [SqlText.slotNames_append, SqlText.slotNames_append, slots]
    simp

end Statement

/-! ### Every statement -/

theorem Issued.aligned {cfg : Config} {s : Statement} (issued : Issued cfg s) :
    s.Aligned cfg.dialect := by
  induction issued with
  | findById done => exact Statement.findById_aligned done
  | deleteById done => exact Statement.deleteById_aligned done
  | deleteUnchanged done => exact Statement.deleteUnchanged_aligned done
  | select done => exact Statement.selected_aligned done
  | selectAll done => exact Statement.selected_aligned done
  | count done => exact Statement.counted_aligned done
  | delete done => exact Statement.delete_aligned done
  | joinedSelect done => exact Statement.joinedSelect_aligned done
  | joinedCount done => exact Statement.joinedCount_aligned done
  | joinedDelete done => exact Statement.joinedDelete_aligned done
  | companion _ counts ih =>
    obtain ⟨scope, there, rfl⟩ := Statement.eq_of_count? counts
    exact Statement.count_aligned (ih.scope scope there)
  | countRows _ done ih =>
    obtain ⟨scope, there, rfl⟩ := Statement.eq_of_countRows done
    exact Statement.count_aligned (ih.scope scope there)

/-- Names of a map have values. -/
theorem NamedValues.exists_resolve {m : NamedValues} {names : List String}
    (among : ∀ name ∈ names, name ∈ m.names) : ∃ vs, m.Resolve names vs := by
  have there : ∀ (name : String) (entries : List (String × Value)), name ∈ entries.map (·.1) →
      ∃ v, entries.lookup name = some v := by
    intro name entries member
    induction entries with
    | nil => cases member
    | cons e rest ih =>
      rw [lookup_cons_eq]
      by_cases same : name = e.1
      · exact ⟨e.2, if_pos same⟩
      · rw [if_neg same]
        exact ih ((List.mem_cons.mp member).resolve_left same)
  induction names with
  | nil => exact ⟨[], .nil⟩
  | cons name rest ih =>
    obtain ⟨v, value⟩ := there name m.entries (among name List.mem_cons_self)
    obtain ⟨vs, resolved⟩ := ih fun n member => among n (List.mem_cons_of_mem _ member)
    exact ⟨v :: vs, .cons value resolved⟩

/-- The slots of an issued statement have different names, and they are the names of its parameters
in the order of the text. So it renders in both styles, to one value for each parameter, which is
that of the slot whose placeholder it fills. -/
theorem parameters_fill_slots {cfg : Config} {s : Statement} (issued : Issued cfg s) :
    s.text.slotNames.Nodup ∧
      s.text.slotNames = cfg.dialect.slotOrder s.window s.params.names ∧
      ∀ style : PlaceholderStyle, ∃ vs : List Value,
        s.text.render style s.params =
          .ok ⟨s.text.head ++ SqlText.positional style 0 s.text.slots, vs⟩ ∧
        vs.length = s.params.size ∧ s.params.Resolve s.text.slotNames vs := by
  have aligned := issued.aligned
  have order : s.text.slotNames.Perm s.params.names := by
    rw [aligned.ordered]
    exact cfg.dialect.slotOrder_perm s.window s.params.names
  have distinct : s.text.slotNames.Nodup := order.nodup_iff.mpr aligned.distinct
  refine ⟨distinct, aligned.ordered, ?_⟩
  intro style
  obtain ⟨vs, resolved⟩ :=
    NamedValues.exists_resolve (m := s.params) fun name member => order.mem_iff.mp member
  refine ⟨vs, s.text.render_eq style distinct resolved, ?_, resolved⟩
  have one_each : s.text.slotNames.length = vs.length := List.Forall₂.length_eq resolved
  have named : s.text.slotNames.length = s.params.size := by
    rw [order.length_eq, NamedValues.names, List.length_map]
    rfl
  omega

/-- A select in standard SQL with a limit and an offset, of which the offset is written first. -/
theorem parameters_fill_slots_of_page :
    let r : RowType := ⟨"Person", "people", [⟨"age", "age", true⟩], "age", none, []⟩
    let cfg : Config := { Config.standard with dialect := .ansi }
    let q : Query r := Query.all.restrict ⟨"age"⟩ (.of (.isIn [.int 18, .int 19]))
    ∃ s : Statement, (Statement.select cfg q .none ⟨some 10, some 20⟩).result = .ok s ∧
      s.sql = "SELECT age FROM people WHERE age IN (:age_1, :age_2) OFFSET :offset_4 ROWS"
        ++ " FETCH NEXT :limit_3 ROWS ONLY" ∧
      s.text.slotNames.Nodup ∧
      s.text.slotNames = Dialect.ansi.slotOrder s.window s.params.names ∧
      ∀ style : PlaceholderStyle, ∃ vs : List Value,
        s.text.render style s.params =
          .ok ⟨s.text.head ++ SqlText.positional style 0 s.text.slots, vs⟩ ∧
        vs.length = s.params.size ∧ s.params.Resolve s.text.slotNames vs := by
  intro r cfg q
  have shown : ((Statement.select cfg q .none ⟨some 10, some 20⟩).result.toOption.map (·.sql)) =
      some ("SELECT age FROM people WHERE age IN (:age_1, :age_2) OFFSET :offset_4 ROWS"
        ++ " FETCH NEXT :limit_3 ROWS ONLY") := by decide +kernel
  cases compiled : (Statement.select cfg q .none ⟨some 10, some 20⟩).result with
  | error e => rw [compiled] at shown; cases shown
  | ok s =>
    rw [compiled] at shown
    exact ⟨s, rfl, Option.some.inj shown, parameters_fill_slots (.select compiled)⟩

end Sift
