import Sift.Proofs.Statement.Deletion

/-!
# Counting the rows of a window

A select of a window and the statement that counts all its rows share their scope. The
scope stands before the window in the select, so its placeholders have the same numbers
in both, and its values are the first ones of the select.
-/
namespace Sift

/-! ## Texts one after the other -/

namespace SqlText

/-- The text with placeholders that count on from an index. -/
def numbered (style : PlaceholderStyle) (index : Nat) (t : SqlText) : String :=
  t.head ++ positional style index t.slots

theorem positional_appendSlots (style : PlaceholderStyle) (u : SqlText) (index : Nat)
    {slots : List (String × String)} (some : slots ≠ []) :
    positional style index (appendSlots u slots) =
      positional style index slots ++ u.numbered style (index + slots.length) := by
  induction slots generalizing index with
  | nil => exact absurd rfl some
  | cons s rest ih =>
    obtain ⟨name, after⟩ := s
    cases rest with
    | nil =>
      show style.placeholder index ++ (after ++ u.head) ++ positional style (index + 1) u.slots =
        style.placeholder index ++ after ++ "" ++ (u.head ++ positional style (index + 1) u.slots)
      rw [String.append_empty]
      simp only [String.append_assoc]
    | cons t more =>
      show style.placeholder index ++ after ++ positional style (index + 1) (appendSlots u (t :: more)) =
        style.placeholder index ++ after ++ positional style (index + 1) (t :: more) ++ _
      rw [ih (index + 1) (List.cons_ne_nil t more), ← String.append_assoc,
        show index + 1 + (t :: more).length = index + ((name, after) :: t :: more).length by
          simp only [List.length_cons]; omega]

/-- The placeholders of a text count on from those of the text before it. -/
theorem numbered_append (style : PlaceholderStyle) (index : Nat) (t u : SqlText) :
    (t ++ u).numbered style index = t.numbered style index ++ u.numbered style (index + t.slots.length) := by
  obtain ⟨head, slots⟩ := t
  cases slots with
  | nil =>
    show head ++ u.head ++ positional style index u.slots =
      head ++ "" ++ (u.head ++ positional style index u.slots)
    rw [String.append_empty, String.append_assoc]
  | cons s rest =>
    show head ++ positional style index (appendSlots u (s :: rest)) =
      head ++ positional style index (s :: rest) ++ _
    rw [positional_appendSlots style u index (List.cons_ne_nil s rest), String.append_assoc]

theorem numbered_raw_append (style : PlaceholderStyle) (index : Nat) (front : String) (u : SqlText) :
    (raw front ++ u).numbered style index = front ++ u.numbered style index := by
  rw [numbered_append]
  show front ++ "" ++ u.numbered style (index + 0) = _
  rw [String.append_empty, Nat.add_zero]

end SqlText

/-! ## The rows of a select -/

namespace Statement

/-- A window is empty after it has been reduced only if it was empty before. -/
theorem isEmpty_of_clamp {cfg : Config} {window clamped : Pagination}
    (reduced : (clamp cfg window).result = .ok clamped) : clamped.isEmpty = window.isEmpty := by
  unfold clamp at reduced
  split at reduced
  next max _ =>
    have same : clamped = window.clamp max := by
      split at reduced
      · exact (Except.ok.inj reduced).symm
      · exact (Except.ok.inj reduced).symm
    rw [same, Pagination.clamp, Pagination.isEmpty, Pagination.isEmpty, Option.isNone_map]
  next => rw [Except.ok.inj reduced]

theorem result_countRows {cfg : Config} {s : Statement} {scope : Scope} (held : s.scope = some scope) :
    (countRows cfg s).result = .ok scope.count := by
  unfold countRows
  rw [held]
  exact result_logged cfg "count" scope.count

theorem count?_of_window {s : Statement} {scope : Scope} (held : s.scope = some scope)
    (set : s.window.isEmpty = false) : s.count? = some scope.count := by
  rw [count?, set, held]
  rfl

theorem result_count {cfg : Config} {r : RowType} {q : Query r} (valid : r.validate = .ok ())
    (checked : q.conditions.check r = .ok ()) : (count cfg r (some q)).result = .ok (q.scope cfg).count := by
  unfold count
  rw [Traced.result_bind]
  show scopeOf cfg r (some q) >>= _ = _
  rw [scopeOf_eq_ok valid checked]
  exact result_logged cfg "count" _

theorem Aligned.nodup_slotNames {d : Dialect} {s : Statement} (aligned : s.Aligned d) :
    s.text.slotNames.Nodup := by
  rw [aligned.ordered]
  exact (d.slotOrder_perm s.window s.params.names).nodup_iff.mpr aligned.distinct

theorem params_print (d : Dialect) (predictsEmpty : Bool) (selection : Selection) :
    ((selection.print d predictsEmpty).run .start).2.params =
      ((selection.print d predictsEmpty).run .start).1.params := by
  obtain ⟨state, params, -, -⟩ := selection.print_spec d predictsEmpty .start
  rw [state, params]

/-- A scope is rendered with the parameters of its select as it is with its own ones, at the front of the
select and of its count. -/
theorem render_page (d : Dialect) (predictsEmpty : Bool) (selection : Selection) (front : String)
    {ordered : SqlText} (unbound : ordered.slotNames = []) (w : Pagination) (style : PlaceholderStyle) :
    let scope := (selection.print d predictsEmpty).run .start
    let paged := (window? d w).run scope.2
    ∃ (fragment rest : String) (vs ws : List Value),
      scope.1.text.render style scope.1.params = .ok ⟨fragment, vs⟩ ∧
      scope.1.count.text.render style scope.1.count.params = .ok ⟨"SELECT COUNT(*)" ++ fragment, vs⟩ ∧
      (SqlText.raw front ++ scope.1.text ++ ordered ++ paged.1).render style paged.2.params =
        .ok ⟨front ++ fragment ++ rest, vs ++ ws⟩ := by
  intro scope paged
  obtain ⟨state, params, -, slots⟩ := selection.print_spec d predictsEmpty .start
  obtain ⟨ends, paging⟩ := window?_spec d w scope.2
  have state : scope.2 = Binding.start.bindAll selection.bindings := state
  have bound : paged.2 = Binding.start.bindAll (selection.bindings ++ w.bindings) := by
    rw [ends, state, Binding.bindAll_append]
  have alone : scope.1.params.Resolve scope.1.text.slotNames (selection.bindings.map (·.2)) := by
    rw [params, slots]
    exact Binding.resolve_bindAll .start selection.bindings
  -- The parameters of the window are bound after those of the scope and leave them as they are.
  have kept : paged.2.params.Resolve scope.1.text.slotNames (selection.bindings.map (·.2)) := by
    rw [bound, slots]
    exact (Binding.resolve_bindAll .start (selection.bindings ++ w.bindings)).split.1
  obtain ⟨ws, added⟩ : ∃ ws, paged.2.params.Resolve paged.1.slotNames ws := by
    refine NamedValues.exists_resolve fun name member => ?_
    rw [paging, (d.slotOrder_perm w _).mem_iff, state] at member
    rw [bound, Binding.names_bindAll_start, Binding.names_append]
    exact List.mem_append_right _ member
  have names : (SqlText.raw front ++ scope.1.text ++ ordered ++ paged.1).slotNames =
      scope.1.text.slotNames ++ paged.1.slotNames := by simp [unbound]
  have distinct : (SqlText.raw front ++ scope.1.text ++ ordered ++ paged.1).slotNames.Nodup :=
    (page_aligned d predictsEmpty selection front unbound w).nodup_slotNames
  have fragment : scope.1.text.slotNames.Nodup := (scope_aligned d predictsEmpty selection).ordered ▸
    (scope_aligned d predictsEmpty selection).distinct
  obtain ⟨rest, whole⟩ : ∃ rest, (SqlText.raw front ++ scope.1.text ++ ordered ++ paged.1).numbered style 0 =
      front ++ scope.1.text.numbered style 0 ++ rest := by
    rw [SqlText.numbered_append, SqlText.numbered_append, SqlText.numbered_raw_append, String.append_assoc]
    exact ⟨_, rfl⟩
  refine ⟨scope.1.text.numbered style 0, rest, selection.bindings.map (·.2), ws,
    scope.1.text.render_eq style fragment alone, ?_, ?_⟩
  · have counted : scope.1.params.Resolve (SqlText.raw "SELECT COUNT(*)" ++ scope.1.text).slotNames
        (selection.bindings.map (·.2)) := by simpa using alone
    rw [← SqlText.numbered_raw_append]
    exact SqlText.render_eq (SqlText.raw "SELECT COUNT(*)" ++ scope.1.text) style (by simpa using fragment) counted
  · rw [← whole]
    exact SqlText.render_eq _ style distinct (names ▸ List.rel_append kept added)

end Statement

/-! ## Stored counts -/

/-- A statement and the count that is stored with it when it is made: that of its scope for a select of a window,
and none for any other statement. -/
inductive Stored : Statement → Option Statement → Prop where
  | plain (text : SqlText) (b : Binding) (predictsEmpty : Bool) : Stored (.plain text b predictsEmpty) none
  | count (scope : Scope) : Stored scope.count none
  | page (text : SqlText) (params : Params) (scope : Scope) (window : Pagination) :
      Stored ⟨text, params, scope.predictsEmpty, some scope, window⟩
        (if window.isEmpty then none else some scope.count)

theorem Stored.eq_count? {s : Statement} {c : Option Statement} (stored : Stored s c) : c = s.count? := by
  cases stored with
  | plain => rfl
  | count => rfl
  | page => rfl

namespace Statement

variable {cfg : Config}

theorem stored_delete {r : RowType} {q : Query r} {s : Statement} (done : (delete cfg q).result = .ok s) :
    Stored s none := by
  unfold delete at done
  obtain ⟨printed, -, done⟩ := Traced.result_of_bind done
  dsimp only at done
  split at done
  · exact eq_of_logged done ▸ .plain _ _ _
  · split at done
    · exact eq_of_logged done ▸ .plain _ _ _
    · obtain ⟨-, -, done⟩ := Traced.result_of_bind done
      exact eq_of_logged done ▸ .plain _ _ _

theorem stored_joinedDelete {g : JoinGraph} {s : Statement} (done : (joinedDelete cfg g).result = .ok s) :
    Stored s none := by
  unfold joinedDelete at done
  dsimp only at done
  split at done
  · obtain ⟨-, -, done⟩ := Traced.result_of_bind done
    exact eq_of_logged done ▸ .plain _ _ _
  · exact eq_of_logged done ▸ .plain _ _ _

theorem stored_deleteUnchanged {r : RowType} {id modifiedAt : Value} {s : Statement}
    (done : (deleteUnchanged cfg r id modifiedAt).result = .ok s) : Stored s none := by
  unfold deleteUnchanged at done
  obtain ⟨-, -, done⟩ := Traced.result_of_bind done
  split at done
  · cases done
  · exact eq_of_logged done ▸ .plain _ _ _

theorem stored_select {r : RowType} {q : Query r} {order : OrderBy} {window : Pagination} {s : Statement}
    (done : (select cfg q order window).result = .ok s) : ∃ c, Stored s c := by
  obtain ⟨_, _, -, -, -, -, -, rfl⟩ := eq_of_select done
  exact ⟨_, .page _ _ _ _⟩

end Statement

/-- Every issued statement is stored with the count that its scope and its window give. -/
theorem stored_iff_of_issued {cfg : Config} {s : Statement} (issued : Issued cfg s) {c : Option Statement} :
    Stored s c ↔ c = s.count? := by
  have some : ∃ c, Stored s c := by
    cases issued with
    | findById done =>
      obtain ⟨-, -, done⟩ := Traced.result_of_bind done
      exact ⟨none, Statement.eq_of_logged done ▸ .plain _ _ _⟩
    | deleteById done =>
      obtain ⟨-, -, done⟩ := Traced.result_of_bind done
      exact ⟨none, Statement.eq_of_logged done ▸ .plain _ _ _⟩
    | deleteUnchanged done => exact ⟨none, Statement.stored_deleteUnchanged done⟩
    | select done => exact Statement.stored_select done
    | selectAll done => exact Statement.stored_select done
    | count done =>
      obtain ⟨scope, -, done⟩ := Traced.result_of_bind done
      exact ⟨none, Statement.eq_of_logged done ▸ .count scope⟩
    | delete done => exact ⟨none, Statement.stored_delete done⟩
    | joinedSelect done =>
      obtain ⟨_, _, -, -, rfl⟩ := Statement.eq_of_joinedSelect done
      exact ⟨_, .page _ _ _ _⟩
    | joinedCount done => exact ⟨none, Statement.eq_of_logged done ▸ .count _⟩
    | joinedDelete done => exact ⟨none, Statement.stored_joinedDelete done⟩
    | companion _ counts =>
      obtain ⟨scope, -, rfl⟩ := Statement.eq_of_count? counts
      exact ⟨none, .count scope⟩
    | countRows _ done =>
      obtain ⟨scope, -, rfl⟩ := Statement.eq_of_countRows done
      exact ⟨none, .count scope⟩
  obtain ⟨d, stored⟩ := some
  constructor
  · exact Stored.eq_count?
  · rintro rfl
    exact stored.eq_count? ▸ stored

/-! ## Both kinds of select -/

/-- The selects of a configuration for a window: the columns and the order that each of them writes, and the
operation that counts its rows by itself. -/
inductive Selected (cfg : Config) (window : Pagination) :
    Statement → String → SqlText → Traced Statement → Prop where
  | table {r : RowType} {q : Query r} {order : OrderBy} {s : Statement}
      (done : (Statement.select cfg q order window).result = .ok s) :
      Selected cfg window s (Statement.columnList cfg r) (order.clause cfg.dialect OrderBy.unqualified).text
        (Statement.count cfg r (some q))
  | joined {g : JoinGraph} {order : OrderBy} {s : Statement}
      (done : (Statement.joinedSelect cfg g order window).result = .ok s) :
      Selected cfg window s g.columnList (Statement.orderClause cfg order (some g)).text
        (Statement.joinedCount cfg g)

/-- The rows of a select of a window have one count, however it is asked for. It has the scope of the select,
after which the select writes its order and the text of its window. In both styles of placeholders the scope is
rendered to the same text in both statements, and the values of the count are the first ones of the select. -/
theorem count_shares_scope {cfg : Config} {window : Pagination} {s : Statement} {columns : String}
    {ordered : SqlText} {counting : Traced Statement} (selected : Selected cfg window s columns ordered counting)
    (set : window.isEmpty = false) :
    ∃ (scope : Scope) (b : Binding), b.params = scope.params ∧
      s.count? = some scope.count ∧
      (Statement.countRows cfg s).result = .ok scope.count ∧
      counting.result = .ok scope.count ∧
      scope.count.text = "SELECT COUNT(*)" ++ scope.text ∧
      s.text = ("SELECT " ++ columns : String) ++ scope.text ++ ordered ++
        ((Statement.window? cfg.dialect s.window).run b).1 ∧
      ∀ style : PlaceholderStyle, ∃ (fragment rest : String) (vs ws : List Value),
        scope.text.render style scope.params = .ok ⟨fragment, vs⟩ ∧
        scope.count.text.render style scope.count.params = .ok ⟨"SELECT COUNT(*)" ++ fragment, vs⟩ ∧
        s.text.render style s.params = .ok ⟨"SELECT " ++ columns ++ fragment ++ rest, vs ++ ws⟩ := by
  cases selected with
  | @table r q order s done =>
    obtain ⟨text, clamped, reduced, valid, -, checked, written, rfl⟩ := Statement.eq_of_select done
    have set : clamped.isEmpty = false := (Statement.isEmpty_of_clamp reduced).trans set
    have unbound : text.slotNames = [] := by
      rw [Clause.text_of_trace written]
      exact order.slotNames_clause cfg.dialect _
    refine ⟨q.scope cfg, _, Statement.params_print cfg.dialect q.conditions.predictsEmpty (q.conditions.selection r),
      Statement.count?_of_window rfl set, Statement.result_countRows rfl, Statement.result_count valid checked,
      rfl, ?_, ?_⟩
    · rw [← Clause.text_of_trace written]
      rfl
    · exact Statement.render_page cfg.dialect q.conditions.predictsEmpty (q.conditions.selection r) _ unbound clamped
  | @joined g order s done =>
    obtain ⟨text, clamped, reduced, written, rfl⟩ := Statement.eq_of_joinedSelect done
    have set : clamped.isEmpty = false := (Statement.isEmpty_of_clamp reduced).trans set
    have unbound : text.slotNames = [] := by
      rw [Clause.text_of_trace written]
      exact order.slotNames_clause cfg.dialect _
    refine ⟨g.scope cfg, _, Statement.params_print cfg.dialect g.predictsEmpty g.selection,
      Statement.count?_of_window rfl set, Statement.result_countRows rfl,
      Statement.result_logged cfg "joined_count" (g.scope cfg).count, rfl, ?_, ?_⟩
    · rw [← Clause.text_of_trace written]
      rfl
    · exact Statement.render_page cfg.dialect g.predictsEmpty g.selection _ unbound clamped

/-- A select whose limit is reduced and whose offset is written first. The offset has the number 3 and the limit the
number 2, after the one value of the scope. -/
theorem count_shares_scope_of_page :
    let r : RowType := ⟨"Person", "people", [⟨"age", "age", true⟩], "age", none, []⟩
    let cfg : Config := { Config.standard with dialect := .ansi, maxPageSize := some 5 }
    let q : Query r := Query.all.restrict ⟨"age"⟩ (.of (.greaterOrEqual (.int 18)))
    let order : OrderBy := ⟨[⟨"people", "age", .desc, none, none⟩]⟩
    ∃ s : Statement, (Statement.select cfg q order ⟨some 10, some 20⟩).result = .ok s ∧
      s.sql = "SELECT age FROM people WHERE age >= :age_1 ORDER BY age DESC OFFSET :offset_3 ROWS"
        ++ " FETCH NEXT :limit_2 ROWS ONLY" ∧
      ∃ (scope : Scope) (b : Binding), b.params = scope.params ∧
        s.count? = some scope.count ∧
        (Statement.countRows cfg s).result = .ok scope.count ∧
        (Statement.count cfg r (some q)).result = .ok scope.count ∧
        scope.count.text = "SELECT COUNT(*)" ++ scope.text ∧
        s.text = ("SELECT " ++ Statement.columnList cfg r : String) ++ scope.text ++
          (order.clause cfg.dialect OrderBy.unqualified).text ++
          ((Statement.window? cfg.dialect s.window).run b).1 ∧
        ∀ style : PlaceholderStyle, ∃ (fragment rest : String) (vs ws : List Value),
          scope.text.render style scope.params = .ok ⟨fragment, vs⟩ ∧
          scope.count.text.render style scope.count.params = .ok ⟨"SELECT COUNT(*)" ++ fragment, vs⟩ ∧
          s.text.render style s.params =
            .ok ⟨"SELECT " ++ Statement.columnList cfg r ++ fragment ++ rest, vs ++ ws⟩ := by
  intro r cfg q order
  have shown : ((Statement.select cfg q order ⟨some 10, some 20⟩).result.toOption.map (·.sql)) =
      some ("SELECT age FROM people WHERE age >= :age_1 ORDER BY age DESC OFFSET :offset_3 ROWS"
        ++ " FETCH NEXT :limit_2 ROWS ONLY") := by decide +kernel
  cases compiled : (Statement.select cfg q order ⟨some 10, some 20⟩).result with
  | error e => rw [compiled] at shown; cases shown
  | ok s =>
    rw [compiled] at shown
    exact ⟨s, rfl, Option.some.inj shown, count_shares_scope (.table compiled) (by decide)⟩

end Sift
