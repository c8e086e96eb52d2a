import Sift.Proofs.Join.Form
import Sift.Proofs.Join.Scope

/-!
# Texts and values

The text of a statement and the names of its parameters come from the form of a query,
never from its values: queries of one form give statements of one form. What a value
decides is which subtrees that must not have rows are left out.
-/
namespace Sift

/-- A statement without its values, whether or not it is predicted to be empty. -/
def Statement.form (s : Statement) : Statement :=
  ⟨s.text, s.params.form, false, s.scope.map Scope.form, s.window.form⟩

/-- Statements of one form have the same text, and parameters of the same names in the same order. -/
theorem Statement.sql_of_form {s t : Statement} (same : s.form = t.form) :
    s.sql = t.sql ∧ s.params.names = t.params.names := by
  rw [form, form, Statement.mk.injEq] at same
  obtain ⟨text, params, -⟩ := same
  exact ⟨by rw [sql, sql, text], by rw [← s.params.names_form, params, t.params.names_form]⟩

namespace Traced

variable {α β γ δ : Type}

/-- Two operations give results of one form, or fail with the same error. -/
def Alike (form : α → γ) (x x' : Traced α) : Prop := x.result.map form = x'.result.map form

theorem Alike.bind {f : α → γ} {g : β → δ} {x x' : Traced α} {k k' : α → Traced β} (first : Alike f x x')
    (next : ∀ a a', f a = f a' → Alike g (k a) (k' a')) : Alike g (x >>= k) (x' >>= k') := by
  rw [Alike] at first ⊢
  rw [result_bind, result_bind]
  cases done : x.result with
  | error e =>
    cases done' : x'.result with
    | error e' =>
      rw [done, done'] at first
      cases first
      rfl
    | ok a' =>
      rw [done, done'] at first
      cases first
  | ok a =>
    cases done' : x'.result with
    | error e' =>
      rw [done, done'] at first
      cases first
    | ok a' =>
      rw [done, done'] at first
      exact next a a' (Except.ok.inj first)

/-- What follows the same operation. -/
theorem Alike.after {g : β → δ} (x : Traced α) {k k' : α → Traced β} (next : ∀ a, Alike g (k a) (k' a)) :
    Alike g (x >>= k) (x >>= k') :=
  Alike.bind (f := id) (x := x) rfl fun a a' same => by
    cases (same : a = a')
    exact next a

end Traced

open Traced (Alike)

namespace Statement

variable {cfg : Config} {r : RowType}

theorem alike_logged {operation : String} {s t : Statement} (same : s.form = t.form) :
    Alike form (logged cfg operation s) (logged cfg operation t) := by
  rw [Alike, result_logged, result_logged]
  exact congrArg Except.ok same

/-- A greatest page size reduces windows of one form to windows of one form. -/
theorem alike_clamp {v w : Pagination} (same : v.form = w.form) :
    Alike Pagination.form (clamp cfg v) (clamp cfg w) := by
  rw [Alike, clamp, clamp]
  cases cfg.maxPageSize with
  | none => exact congrArg Except.ok same
  | some max =>
    have reduced (w : Pagination) : (w.clamp max).form = w.form := by
      rw [Pagination.clamp, Pagination.form, Option.map_map]
      rfl
    have result (w : Pagination) :
        ((do if w.exceeds max then .emit [.clamped w.limit max]
             return w.clamp max : Traced Pagination)).result = .ok (w.clamp max) := by
      split <;> rfl
    dsimp only
    rw [result, result]
    exact congrArg Except.ok (by rw [reduced, reduced, same])

theorem agree_window_of_form {v w : Pagination} (same : v.form = w.form) (d : Dialect) :
    Agree id (window? d v) (window? d w) :=
  (agree_window? d v).trans (same ▸ (agree_window? d w).symm)

/-! ## Scopes -/

/-- A scope and the parameters it binds, without their values. -/
def scopeForm (x : Scope × Binding) : Scope × Binding := (x.1.form, x.2.form)

theorem scopeForm_run {m m' : Binder Scope} (agree : Agree Scope.form m m') :
    scopeForm (m.run .start) = scopeForm (m'.run .start) := by
  obtain ⟨scope, state⟩ := agree .start .start rfl
  exact Prod.ext scope state

theorem map_queryScope {q q' : Query r} (same : q.conditions.form = q'.conditions.form) :
    (queryScope cfg r (some q)).map scopeForm = (queryScope cfg r (some q')).map scopeForm := by
  have selection : (q.conditions.selection r).form = (q'.conditions.selection r).form :=
    congrArg (Selection.mk _) (Conditions.form_compile_of_form same r none)
  have check : q.conditions.check r = q'.conditions.check r := by
    rw [← Conditions.check_form, same, Conditions.check_form]
  unfold queryScope
  dsimp only
  rw [check]
  cases r.validate with
  | error e => rfl
  | ok =>
    cases q'.conditions.check r with
    | error e => rfl
    | ok => exact congrArg Except.ok (scopeForm_run (Selection.agree selection cfg.dialect _ _))

theorem map_scopeOf {q q' : Query r} (same : q.conditions.form = q'.conditions.form) :
    (scopeOf cfg r (some q)).map Scope.form = (scopeOf cfg r (some q')).map Scope.form := by
  have first (x : Except Error (Scope × Binding)) :
      (x.map (·.1)).map Scope.form = (x.map scopeForm).map (·.1) := by
    cases x <;> rfl
  rw [scopeOf, scopeOf, first, first, map_queryScope same]

theorem form_page {x y : Scope × Binding} (scopes : scopeForm x = scopeForm y) (columns : String)
    (ordered : SqlText) {v w : Pagination} (same : v.form = w.form) (d : Dialect) :
    form ⟨SqlText.raw columns ++ x.1.text ++ ordered ++ ((window? d v).run x.2).1, ((window? d v).run x.2).2.params,
        x.1.predictsEmpty, some x.1, v⟩ =
      form ⟨SqlText.raw columns ++ y.1.text ++ ordered ++ ((window? d w).run y.2).1,
        ((window? d w).run y.2).2.params, y.1.predictsEmpty, some y.1, w⟩ := by
  obtain ⟨scope, state⟩ := Prod.mk.inj scopes
  obtain ⟨paged, after⟩ := agree_window_of_form same d x.2 y.2 state
  have text : x.1.text = y.1.text := Scope.text_of_form scope
  have paged : ((window? d v).run x.2).1 = ((window? d w).run y.2).1 := paged
  have params : ((window? d v).run x.2).2.params.form = ((window? d w).run y.2).2.params.form :=
    congrArg Binding.params after
  rw [form, form, text, paged, params, same, Option.map_some, Option.map_some, scope]

theorem form_count {s t : Scope} (same : s.form = t.form) : s.count.form = t.count.form := by
  obtain ⟨-, -, params⟩ := Scope.form_eq_iff.mp same
  have text : s.text = t.text := Scope.text_of_form same
  rw [Scope.count, Scope.count, form, form, text, params, Option.map_some, Option.map_some, same]

theorem form_plain {t u : SqlText} {b c : Binding} (text : t = u) (params : b.params.form = c.params.form)
    (e e' : Bool) : (plain t b e).form = (plain u c e').form := by
  rw [plain, plain, form, form, text, params]

/-! ## One table -/

theorem alike_select {q q' : Query r} (same : q.conditions.form = q'.conditions.form) (order : OrderBy)
    {v w : Pagination} (windows : v.form = w.form) (valid : v.validate = .ok ()) (valid' : w.validate = .ok ()) :
    Alike form (select cfg q order v) (select cfg q' order w) := by
  unfold select
  rw [valid, valid']
  refine .after _ fun _ => .after _ fun _ => .after _ fun _ => ?_
  refine (alike_clamp windows).bind fun v w windows => ?_
  refine Alike.bind (map_queryScope same) fun x y scopes => .after _ fun ordered => ?_
  exact alike_logged (form_page scopes _ ordered windows cfg.dialect)

theorem alike_count {q q' : Query r} (same : q.conditions.form = q'.conditions.form) :
    Alike form (count cfg r (some q)) (count cfg r (some q')) :=
  Alike.bind (map_scopeOf same) fun _ _ scopes => alike_logged (form_count scopes)

theorem alike_delete {q q' : Query r} (same : q.conditions.form = q'.conditions.form) :
    Alike form (delete cfg q) (delete cfg q') := by
  refine Alike.bind (map_queryScope same) fun x y scopes => ?_
  obtain ⟨scope, state⟩ := Prod.mk.inj scopes
  obtain ⟨-, conditions, -⟩ := Scope.form_eq_iff.mp scope
  have restricted : x.1.where? = y.1.where? := by rw [Scope.where?, Scope.where?, conditions]
  have params : x.2.params.form = y.2.params.form := congrArg Binding.params state
  dsimp only
  rw [restricted]
  cases y.1.where? with
  | some w => exact alike_logged (form_plain rfl params _ _)
  | none =>
    dsimp only
    split
    · exact alike_logged (form_plain rfl params _ _)
    · exact .after _ fun _ => alike_logged (form_plain rfl params _ _)

/-! ## Joined tables -/

variable {g h : JoinGraph}

theorem scopeForm_printScope (alike : g.tree.Alike h.tree) (d : Dialect) :
    scopeForm (g.printScope d) = scopeForm (h.printScope d) :=
  scopeForm_run (Selection.agree (JoinTree.form_selection alike) d _ _)

theorem alike_joinedSelect (same : g.form = h.form) (alike : g.tree.Alike h.tree) (order : OrderBy)
    {v w : Pagination} (windows : v.form = w.form) (valid : v.validate = .ok ()) (valid' : w.validate = .ok ()) :
    Alike form (joinedSelect cfg g order v) (joinedSelect cfg h order w) := by
  have columns : g.columnList = h.columnList := by rw [← g.columnList_form, same, h.columnList_form]
  have ordered : orderClause cfg order (some g) = orderClause cfg order (some h) := by
    show order.clause cfg.dialect g.orderName = order.clause cfg.dialect h.orderName
    rw [← g.orderName_form, same, h.orderName_form]
  unfold joinedSelect
  rw [valid, valid', columns, ordered]
  refine .after _ fun _ => (alike_clamp windows).bind fun v w windows => .after _ fun ordered => ?_
  exact alike_logged (form_page (scopeForm_printScope alike cfg.dialect) _ ordered windows cfg.dialect)

theorem alike_joinedCount (alike : g.tree.Alike h.tree) : Alike form (joinedCount cfg g) (joinedCount cfg h) :=
  alike_logged (form_count (Prod.mk.inj (scopeForm_printScope alike cfg.dialect)).1)

theorem alike_joinedDelete (same : g.form = h.form) (alike : g.tree.Alike h.tree) :
    Alike form (joinedDelete cfg g) (joinedDelete cfg h) := by
  obtain ⟨scope, state⟩ := Prod.mk.inj (scopeForm_printScope alike cfg.dialect)
  obtain ⟨id, row, -, -⟩ := JoinNode.form_eq_iff.mp (congrArg JoinGraph.root same)
  obtain ⟨-, conditions, -⟩ := Scope.form_eq_iff.mp scope
  have text := Scope.text_of_form scope
  have params := congrArg Binding.params state
  unfold joinedDelete
  dsimp only
  rw [conditions, JoinGraph.hasInnerJoin_form alike, row, text, JoinNode.name, id]
  split
  · exact .after _ fun _ => alike_logged rfl
  · exact alike_logged (form_plain rfl params _ _)

end Statement

/-- Queries of one form and windows of one form give statements of one form, or the same error. So do
graphs of plans of one form that agree on which nodes cannot have the rows that they must not have. -/
theorem statements_of_form (cfg : Config) (order : OrderBy) {r : RowType} {q q' : Query r}
    (queries : q.conditions.form = q'.conditions.form) {v w : Pagination} (windows : v.form = w.form)
    (valid : v.validate = .ok ()) (valid' : w.validate = .ok ()) :
    Alike Statement.form (Statement.select cfg q order v) (Statement.select cfg q' order w) ∧
      Alike Statement.form (Statement.count cfg r (some q)) (Statement.count cfg r (some q')) ∧
      Alike Statement.form (Statement.delete cfg q) (Statement.delete cfg q') ∧
      (Statement.scopeOf cfg r (some q)).map Scope.form = (Statement.scopeOf cfg r (some q')).map Scope.form ∧
      ∀ (p p' : JoinPlan) (g h : JoinGraph), p.form = p'.form → p.graph = .ok g → p'.graph = .ok h →
        g.AgreesWith h →
        Alike Statement.form (Statement.joinedSelect cfg g order v) (Statement.joinedSelect cfg h order w) ∧
          Alike Statement.form (Statement.joinedCount cfg g) (Statement.joinedCount cfg h) ∧
          Alike Statement.form (Statement.joinedDelete cfg g) (Statement.joinedDelete cfg h) := by
  refine ⟨Statement.alike_select queries order windows valid valid', Statement.alike_count queries,
    Statement.alike_delete queries, Statement.map_scopeOf queries, fun p p' g h plans done done' agree => ?_⟩
  have graphs := JoinPlan.form_graph plans done done'
  have alike := JoinGraph.alike_tree graphs agree
  exact ⟨Statement.alike_joinedSelect graphs alike order windows valid valid', Statement.alike_joinedCount alike,
    Statement.alike_joinedDelete graphs alike⟩

/-- Lists of the same length, pages of different sizes, and orders without lines of two ranges. -/
theorem statements_of_form_of_ranges :
    let q : Query lineType := Query.all.restrict ⟨"quantity"⟩ (.of (.isIn [.int 1, .int 2]))
    let q' : Query lineType := Query.all.restrict ⟨"quantity"⟩ (.of (.isIn [.text "' OR 1=1", .bool true]))
    let v : Pagination := ⟨some 10, none⟩
    let w : Pagination := ⟨some 25, none⟩
    let g := ordersGraph (.greaterOrEqual (.int 1)) (.lessOrEqual (.int 5))
    let h := ordersGraph (.greaterOrEqual (.int 20)) (.lessOrEqual (.int 30))
    q.conditions.form = q'.conditions.form ∧ v.form = w.form ∧ v.validate = .ok () ∧ w.validate = .ok () ∧
      Alike Statement.form (Statement.select .standard q .none v) (Statement.select .standard q' .none w) ∧
      Alike Statement.form (Statement.joinedDelete .standard g) (Statement.joinedDelete .standard h) := by
  intro q q' v w g h
  have agree : g.AgreesWith h := by
    have subtrees (p q : Predicate) : (ordersGraph p q).tree.subtrees =
        [(ordersGraph p q).tree, .node (lineNode p q) []] := rfl
    intro t member u member' same must
    rw [subtrees] at member member'
    simp only [List.mem_cons, List.not_mem_nil, or_false] at member member'
    rcases member with rfl | rfl
    · cases must
    · rcases member' with rfl | rfl
      · cases same
      · decide +kernel
  obtain ⟨select, -, -, -, joined⟩ := statements_of_form .standard .none
    (show q.conditions.form = q'.conditions.form from rfl) (v := v) (w := w) rfl (ok_of_isOk rfl) (ok_of_isOk rfl)
  obtain ⟨-, -, delete⟩ := joined (ordersWithout (.greaterOrEqual (.int 1)) (.lessOrEqual (.int 5)))
    (ordersWithout (.greaterOrEqual (.int 20)) (.lessOrEqual (.int 30))) g h rfl
    (graph_ordersWithout _ _) (graph_ordersWithout _ _) agree
  exact ⟨rfl, rfl, ok_of_isOk rfl, ok_of_isOk rfl, select, delete⟩

end Sift
