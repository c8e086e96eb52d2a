import Sift.Proofs.Join.Numbering
import Sift.Proofs.Join.Scope
import Sift.Proofs.Sql.RoundTrip

/-!
# Deletes

A delete always has a WHERE. It asks for no row if the query or the graph restricts
nothing, and otherwise for the rows of the scope that a select has.
-/
namespace Sift

open Sql

/-! ## Restrictions that leave rows out -/

namespace Conditions

/-- Every restriction is one that every row satisfies. -/
def Vacuous (c : Conditions) : Prop := ∀ f ∈ c.fields, ∀ x ∈ f.2, x.isVacuous = true

/-- The restrictions that are not vacuous. -/
def effective (c : Conditions) : List Restriction := c.fields.flatMap fun f => f.2.filter fun x => !x.isVacuous

theorem effective_eq_nil_iff {c : Conditions} : c.effective = [] ↔ c.Vacuous := by
  simp [effective, Vacuous, List.flatMap_eq_nil_iff, List.filter_eq_nil_iff]

theorem predictsEmpty_of_effective {c : Conditions} {x : Restriction} (member : x ∈ c.effective)
    (empty : x.predictsEmpty = true) : c.predictsEmpty = true := by
  obtain ⟨f, field, member⟩ := List.mem_flatMap.mp member
  have any : f.2.any (·.predictsEmpty) = true := List.any_eq_true.mpr ⟨x, (List.mem_filter.mp member).1, empty⟩
  exact List.any_eq_true.mpr ⟨f, field, Bool.or_eq_true_iff.mpr (.inl any)⟩

end Conditions

/-- Whether a condition is the one that is never true. -/
def Condition.isNever : Condition → Bool
  | .never => true
  | _ => false

/-- Restrictions that are not vacuous are conditions in the same order, and those that no row satisfies are never
true. -/
theorem Conditions.map_isNever_compile (c : Conditions) (r : RowType) (name : Option String) :
    (c.compile r name).map Condition.isNever = c.effective.map (·.predictsEmpty) := by
  have each : List.Forall₂ (fun f k => f = Condition.isNever k) (c.effectiveOn.map (·.2.predictsEmpty))
      (c.compile r name) := by
    refine List.forall₂_map_left_iff.mpr ((c.forall₂_compile r name).imp fun f k compiled => ?_)
    obtain ⟨empty, rfl⟩ | ⟨some, orNull, t, rfl⟩ := Restriction.condition?_cases compiled
    · exact empty
    · exact some
  have effective : c.effective = c.effectiveOn.map (·.2) := by
    rw [effective, effectiveOn, List.map_flatMap]
    exact List.flatMap_congr fun f _ => by simp
  have same := List.forall₂_eq_eq_eq ▸ List.forall₂_map_right_iff.mpr each
  rw [effective, List.map_map]
  exact same.symm

theorem Conditions.compile_eq_nil_iff {c : Conditions} {r : RowType} {name : Option String} :
    c.compile r name = [] ↔ c.Vacuous := by
  rw [← effective_eq_nil_iff, ← List.map_eq_nil_iff (f := Condition.isNever), map_isNever_compile,
    List.map_eq_nil_iff]

theorem Conditions.compile_eq_never_iff {c : Conditions} {r : RowType} {name : Option String} :
    c.compile r name = [.never] ↔ ∃ x, c.effective = [x] ∧ x.predictsEmpty = true := by
  have conditions : c.compile r name = [.never] ↔ (c.compile r name).map Condition.isNever = [true] := by
    constructor
    · intro same
      rw [same]
      rfl
    · intro same
      obtain ⟨k, only, never⟩ := List.map_eq_singleton_iff.mp same
      cases k with
      | never => exact only
      | test => cases never
      | subquery => cases never
  rw [conditions, map_isNever_compile, List.map_eq_singleton_iff]

/-! ## Texts -/

/-- Conditions whose text is that of a false equality are one condition that is never true. -/
theorem Condition.eq_never_of_joined {d : Dialect} {c : Condition} {cs : List Condition}
    (plain : Condition.AllPlain (c :: cs)) {b : Binding}
    (text : (SqlText.join " AND " ((Condition.printAll d (c :: cs)).run b).1).symbols = symbols "1=0") :
    c :: cs = [.never] := by
  -- the text is read in two ways, as a false equality and as the conjunction that was printed
  let params := ((Condition.printAll d (c :: cs)).run b).2.params
  have never : (SqlText.raw "1=0").expr? params = some Condition.never.expr :=
    Condition.never.expr?_of_resolved d trivial (b := b) .nil
  have read := Condition.expr?_joined d plain b
  rw [SqlText.expr?, text, ← SqlText.symbols_raw, ← SqlText.expr?, never] at read
  have same := Option.some.inj read
  cases cs with
  | cons => cases same
  | nil =>
    cases c with
    | never => rfl
    | subquery => cases same
    | test orNull column t =>
      cases orNull with
      | true => cases same
      | false => cases t <;> cases same

theorem Selection.isEmpty_print (d : Dialect) (predictsEmpty : Bool) (s : Selection) (b : Binding) :
    ((s.print d predictsEmpty).run b).1.conditions.isEmpty = s.conditions.isEmpty := by
  obtain ⟨source, conditions⟩ := s
  cases conditions <;> rfl

theorem Selection.where?_print (d : Dialect) (predictsEmpty : Bool) (s : Selection) (b : Binding) :
    ((s.print d predictsEmpty).run b).1.where? =
      if s.conditions = [] then none
      else some (SqlText.join " AND " ((Condition.printAll d s.conditions).run ((s.source.print d).run b).2).1) := by
  obtain ⟨source, conditions⟩ := s
  cases conditions with
  | nil => rfl
  | cons c cs => rfl

namespace Statement

variable {cfg : Config} {r : RowType}

/-- The delete of no row of a table. -/
def deleteNone (r : RowType) : Statement := .plain ("DELETE FROM " ++ r.table ++ " WHERE 1=0" : String) .start true

theorem deleteNone_eq (r : RowType) :
    deleteNone r = .plain ("DELETE FROM " ++ r.table ++ " WHERE " ++ "1=0" : String) .start true := by
  rw [deleteNone, show " WHERE 1=0" = " WHERE " ++ "1=0" from rfl, ← String.append_assoc]

/-- The delete of all rows of a table. -/
def deleteAll (r : RowType) : Statement := .plain ("DELETE FROM " ++ r.table : String) .start false

/-- The delete of the rows that satisfy the WHERE of a scope. -/
def deleteWhere (r : RowType) (w : SqlText) (s : Scope) : Statement :=
  ⟨SqlText.raw ("DELETE FROM " ++ r.table) ++ " WHERE " ++ w, s.params, s.predictsEmpty, none, .all⟩

/-- The delete of the rows of a root that a scope gives. -/
def deleteSelected (root : JoinNode) (s : Scope) : Statement :=
  ⟨SqlText.raw ("DELETE FROM " ++ root.row.table ++ " WHERE " ++ root.row.id ++ " IN (SELECT "
    ++ Identifier.qualified (some root.name) root.row.id) ++ s.text ++ ")", s.params, s.predictsEmpty, none, .all⟩

/-- A select that holds a scope, and has its text between the columns and the order. -/
structure SelectsFrom (s : Statement) (scope : Scope) : Prop where
  held : s.scope = some scope
  text : ∃ (columns : String) (ordered paged : SqlText), s.text = columns ++ scope.text ++ ordered ++ paged

end Statement

/-! ## One table -/

/-- The scope of a query. -/
def Query.scope {r : RowType} (q : Query r) (cfg : Config) : Scope :=
  (((q.conditions.selection r).print cfg.dialect q.conditions.predictsEmpty).run .start).1

namespace Statement

variable {q : Query r}

theorem queryScope_eq_ok (valid : r.validate = .ok ()) (checked : q.conditions.check r = .ok ()) :
    queryScope cfg r (some q) =
      .ok (((q.conditions.selection r).print cfg.dialect q.conditions.predictsEmpty).run .start) := by
  unfold queryScope
  rw [valid]
  show (q.conditions.check r >>= fun _ => _) = _
  rw [checked]
  rfl

theorem scopeOf_eq_ok (valid : r.validate = .ok ()) (checked : q.conditions.check r = .ok ()) :
    scopeOf cfg r (some q) = .ok (q.scope cfg) := by
  rw [scopeOf, queryScope_eq_ok valid checked]
  rfl

theorem select_selectsFrom {order : OrderBy} {window : Pagination} {s : Statement}
    (done : (select cfg q order window).result = .ok s) : s.SelectsFrom (q.scope cfg) := by
  obtain ⟨ordered, clamped, -, -, -, -, -, rfl⟩ := eq_of_select done
  exact ⟨rfl, _, ordered, _, rfl⟩

/-- A query that restricts nothing deletes nothing, unless everything may be deleted. -/
theorem result_delete_of_vacuous (cfg : Config) (valid : r.validate = .ok ()) (checked : q.conditions.check r = .ok ())
    (vacuous : q.conditions.Vacuous) : (q.scope cfg).where? = none ∧
      (delete cfg q).result = .ok (if cfg.allowDeleteAll then deleteAll r else deleteNone r) := by
  have nothing : q.conditions.compile r none = [] := Conditions.compile_eq_nil_iff.mpr vacuous
  have printed : ((q.conditions.selection r).print cfg.dialect q.conditions.predictsEmpty).run .start =
      (⟨r.table, [], .empty, q.conditions.predictsEmpty⟩, .start) := by
    rw [Conditions.selection, nothing]
    rfl
  refine ⟨by rw [Query.scope, printed]; rfl, ?_⟩
  unfold delete
  rw [queryScope_eq_ok valid checked, printed]
  show (if cfg.allowDeleteAll = true then logged cfg "delete" (deleteAll r)
    else .emit _ >>= fun _ => logged cfg "delete" (deleteNone r)).result = _
  split
  · exact result_logged _ _ _
  · exact result_logged _ _ _

/-- A query that restricts something deletes the rows of its scope. -/
theorem result_delete_of_effective (cfg : Config) (valid : r.validate = .ok ())
    (checked : q.conditions.check r = .ok ()) (effective : ¬q.conditions.Vacuous) :
    ∃ w, (q.scope cfg).where? = some w ∧ (delete cfg q).result = .ok (deleteWhere r w (q.scope cfg)) := by
  have restricts : (q.conditions.selection r).conditions ≠ [] := fun nothing =>
    effective (Conditions.compile_eq_nil_iff.mp nothing)
  obtain ⟨w, there⟩ : ∃ w, (q.scope cfg).where? = some w := by
    rw [Query.scope, Selection.where?_print, if_neg restricts]
    exact ⟨_, rfl⟩
  refine ⟨w, there, ?_⟩
  rw [Query.scope] at there
  simp only [delete, queryScope_eq_ok valid checked]
  refine (Traced.result_bind_of_ok rfl).trans ?_
  simp only [there]
  exact result_logged _ _ _

/-- A WHERE whose text is that of a false equality has one condition, which is never true. -/
theorem compile_eq_never_of_where (valid : r.validate = .ok ()) (checked : q.conditions.check r = .ok ())
    {w : SqlText} (there : (q.scope cfg).where? = some w) (text : w.symbols = symbols "1=0") :
    q.conditions.compile r none = [.never] := by
  have plain : Condition.AllPlain (q.conditions.selection r).conditions :=
    Conditions.plain_compile (RowType.valid_of_validate valid) checked nofun
  show (q.conditions.selection r).conditions = [.never]
  rw [Query.scope, Selection.where?_print] at there
  cases conditions : (q.conditions.selection r).conditions with
  | nil =>
    rw [if_pos conditions] at there
    cases there
  | cons c cs =>
    rw [if_neg (by rw [conditions]; exact List.cons_ne_nil c cs), conditions] at there
    rw [← Option.some.inj there] at text
    exact Condition.eq_never_of_joined (conditions ▸ plain) text

/-- The rows of a scope are deleted by the text that deletes nothing exactly if the only condition is
never true. -/
theorem deleteWhere_eq_deleteNone_iff (valid : r.validate = .ok ()) (checked : q.conditions.check r = .ok ())
    {w : SqlText} (there : (q.scope cfg).where? = some w) :
    deleteWhere r w (q.scope cfg) = deleteNone r ↔ q.conditions.compile r none = [.never] := by
  constructor
  · intro same
    have texts := congrArg (SqlText.symbols ∘ Statement.text) same
    simp only [Function.comp_apply, deleteWhere, deleteNone_eq, Statement.plain, SqlText.symbols_append,
      SqlText.symbols_raw, symbols_append] at texts
    exact compile_eq_never_of_where valid checked there (List.append_cancel_left texts)
  · intro only
    obtain ⟨x, single, empty⟩ := Conditions.compile_eq_never_iff.mp only
    have predicted := Conditions.predictsEmpty_of_effective (single ▸ List.mem_singleton_self x) empty
    have printed : q.scope cfg = ⟨r.table, [SqlText.raw "1=0"], .empty, q.conditions.predictsEmpty⟩ := by
      rw [Query.scope, Conditions.selection, only]
      rfl
    rw [printed] at there ⊢
    cases there
    rw [deleteNone_eq, deleteWhere, predicted]
    rfl

/-- A delete deletes nothing exactly if its query restricts nothing, or asks only for a value of an empty
list. -/
theorem result_delete_eq_deleteNone_iff (valid : r.validate = .ok ()) (checked : q.conditions.check r = .ok ())
    (guarded : cfg.allowDeleteAll = false) : (delete cfg q).result = .ok (deleteNone r) ↔
      q.conditions.Vacuous ∨ ∃ x, q.conditions.effective = [x] ∧ x.predictsEmpty = true := by
  by_cases vacuous : q.conditions.Vacuous
  · obtain ⟨-, done⟩ := result_delete_of_vacuous cfg valid checked vacuous
    rw [guarded] at done
    exact ⟨fun _ => .inl vacuous, fun _ => done⟩
  · obtain ⟨w, there, done⟩ := result_delete_of_effective cfg valid checked vacuous
    rw [done, Except.ok.injEq, deleteWhere_eq_deleteNone_iff valid checked there, Conditions.compile_eq_never_iff,
      or_iff_right vacuous]

end Statement

/-! ## Joined tables -/

namespace JoinGraph

/-- A graph from which no row of the root is left out: no child is required, those that must not have rows
have none, and the restrictions of the root are vacuous. -/
structure Unrestricted (g : JoinGraph) : Prop where
  root : g.root.conditions.Vacuous
  inner : ∀ t ∈ g.tree.children, t.top.kind? ≠ some .inner
  semi : ∀ t ∈ g.tree.children, t.top.kind? ≠ some .semi
  anti : ∀ t ∈ g.tree.children, t.top.kind? = some .anti → t.predictsEmpty = true

theorem hasInnerJoin_eq_false_iff {g : JoinGraph} :
    g.hasInnerJoin = false ↔ ∀ t ∈ g.tree.children, t.top.kind? ≠ some .inner := by
  have ungrouped : g.hasInnerJoin = true ↔ ∃ u ∈ g.tree.joinedBelow none, u.2 = none := by
    simp [hasInnerJoin, List.any_eq_true, JoinTree.mem_tables, JoinTree.placedIn, Placed.isOuter]
  rw [← Bool.not_eq_true, ungrouped]
  show (¬∃ u ∈ JoinTree.joinedOf none g.tree.children, u.2 = none) ↔ _
  rw [JoinTree.exists_ungrouped_iff]
  simp

theorem conditions_selection {g : JoinGraph} (outer : g.hasInnerJoin = false) :
    g.selection.conditions = g.root.ownConditions ++ JoinTree.subqueries g.tree.children := by
  have none_ : g.tree.tables.filter (fun p => !p.isOuter) = [] :=
    List.filter_eq_nil_iff.mpr fun p member => by simpa using List.any_eq_false.mp outer p member
  show (((g.tree.placed none :: g.tree.tables).filter fun p => !p.isOuter).flatMap (·.conditions)) = _
  rw [List.filter_cons, none_, if_pos (by rw [Placed.isOuter, JoinTree.group_placed]; rfl), List.flatMap_singleton,
    JoinTree.conditions_eq]
  rfl

/-- Whether a graph has no condition outside its outer joins and no inner join outside them. -/
def isUnrestricted (g : JoinGraph) : Bool := g.selection.conditions.isEmpty && !g.hasInnerJoin

theorem isUnrestricted_iff {g : JoinGraph} : g.isUnrestricted = true ↔ g.Unrestricted := by
  rw [isUnrestricted, Bool.and_eq_true, List.isEmpty_iff, Bool.not_eq_true']
  symm
  constructor
  · rintro ⟨root, inner, semi, anti⟩
    have outer := hasInnerJoin_eq_false_iff.mpr inner
    refine ⟨?_, outer⟩
    rw [conditions_selection outer, List.append_eq_nil_iff]
    exact ⟨Conditions.compile_eq_nil_iff.mpr root,
      JoinTree.subqueries_eq_nil_iff.mpr fun t member => ⟨semi t member, anti t member⟩⟩
  · rintro ⟨nothing, outer⟩
    rw [conditions_selection outer, List.append_eq_nil_iff] at nothing
    obtain ⟨own, below⟩ := nothing
    have below := JoinTree.subqueries_eq_nil_iff.mp below
    exact ⟨Conditions.compile_eq_nil_iff.mp own, hasInnerJoin_eq_false_iff.mp outer,
      fun t member => (below t member).1, fun t member => (below t member).2⟩

end JoinGraph

namespace Statement

variable {g : JoinGraph}

theorem joinedSelect_selectsFrom {order : OrderBy} {window : Pagination} {s : Statement}
    (done : (joinedSelect cfg g order window).result = .ok s) : s.SelectsFrom (g.scope cfg) := by
  obtain ⟨ordered, clamped, -, -, rfl⟩ := eq_of_joinedSelect done
  exact ⟨rfl, _, ordered, _, rfl⟩

/-- The rows of a graph are deleted, unless the graph is unrestricted and not everything may be deleted. -/
theorem result_joinedDelete (cfg : Config) (g : JoinGraph) : (joinedDelete cfg g).result =
    .ok (if (g.isUnrestricted && !cfg.allowDeleteAll) = true then deleteNone g.root.row
      else deleteSelected g.root (g.scope cfg)) := by
  have unrestricted : ((g.printScope cfg.dialect).1.conditions.isEmpty && !g.hasInnerJoin) = g.isUnrestricted :=
    congrArg (· && !g.hasInnerJoin) (Selection.isEmpty_print cfg.dialect _ _ _)
  unfold joinedDelete
  dsimp only
  rw [unrestricted]
  split
  · exact result_logged _ _ _
  · exact result_logged _ _ _

theorem deleteSelected_ne_deleteNone (root : JoinNode) (s : Scope) : deleteSelected root s ≠ deleteNone root.row := by
  intro same
  -- whatever its scope, the text of the one is longer
  have texts := congrArg (List.length ∘ SqlText.symbols ∘ Statement.text) same
  simp only [Function.comp_apply, deleteSelected, deleteNone, plain, SqlText.symbols_append, SqlText.symbols_raw,
    symbols_append, List.length_append] at texts
  have before : (symbols " WHERE ").length = 7 := rfl
  have after : (symbols " IN (SELECT ").length = 12 := rfl
  have whole : (symbols " WHERE 1=0").length = 10 := rfl
  omega

end Statement

/-- A delete of a query with declared columns has the WHERE, the parameters and the prediction of the scope that a
select has, and the delete of a graph those of the root's rows in its scope. If nothing is restricted, no row is
deleted; only then does it matter that everything may be deleted. -/
theorem deletes_are_restricted (cfg : Config) :
    let guarded := { cfg with allowDeleteAll := false }
    let free := { cfg with allowDeleteAll := true }
    (∀ {r : RowType} (q : Query r), r.validate = .ok () → q.conditions.check r = .ok () →
      ∃ scope, Statement.scopeOf cfg r (some q) = .ok scope ∧
        (∀ order s, (Statement.selectAll cfg q order).result = .ok s → s.SelectsFrom scope) ∧
        (q.conditions.Vacuous → scope.where? = none ∧
          (Statement.delete guarded q).result = .ok (Statement.deleteNone r) ∧
          (Statement.delete free q).result = .ok (Statement.deleteAll r)) ∧
        (¬q.conditions.Vacuous → ∃ w, scope.where? = some w ∧
          (Statement.delete guarded q).result = .ok (Statement.deleteWhere r w scope) ∧
          (Statement.delete free q).result = .ok (Statement.deleteWhere r w scope)) ∧
        ((Statement.delete guarded q).result = .ok (Statement.deleteNone r) ↔
          q.conditions.Vacuous ∨ ∃ x, q.conditions.effective = [x] ∧ x.predictsEmpty = true)) ∧
    ∀ (p : JoinPlan) (g : JoinGraph), p.build.result = .ok g →
      g.tree.children.map (·.top) = g.joined.filter (fun n => n.parent? == some g.root.id) ∧
      (∀ order window s, (Statement.joinedSelect cfg g order window).result = .ok s → s.SelectsFrom (g.scope cfg)) ∧
      (¬g.Unrestricted →
        (Statement.joinedDelete guarded g).result = .ok (Statement.deleteSelected g.root (g.scope cfg))) ∧
      (Statement.joinedDelete free g).result = .ok (Statement.deleteSelected g.root (g.scope cfg)) ∧
      ((Statement.joinedDelete guarded g).result = .ok (Statement.deleteNone g.root.row) ↔ g.Unrestricted) := by
  intro guarded free
  refine ⟨fun {r} q valid checked => ?_, fun p g done => ?_⟩
  · refine ⟨q.scope cfg, Statement.scopeOf_eq_ok valid checked, fun _ _ => Statement.select_selectsFrom,
      fun vacuous => ?_, fun effective => ?_, Statement.result_delete_eq_deleteNone_iff valid checked rfl⟩
    · obtain ⟨absent, nothing⟩ := Statement.result_delete_of_vacuous guarded valid checked vacuous
      exact ⟨absent, nothing, (Statement.result_delete_of_vacuous free valid checked vacuous).2⟩
    · obtain ⟨w, there, restricted⟩ := Statement.result_delete_of_effective guarded valid checked effective
      obtain ⟨w', there', restricted'⟩ := Statement.result_delete_of_effective free valid checked effective
      cases Option.some.inj (there.symm.trans there')
      exact ⟨w, there, restricted, restricted'⟩
  · rw [JoinPlan.result_build] at done
    have only : (Statement.joinedDelete guarded g).result = .ok (if g.isUnrestricted = true then
        Statement.deleteNone g.root.row else Statement.deleteSelected g.root (g.scope cfg)) := by
      rw [Statement.result_joinedDelete, show guarded.allowDeleteAll = false from rfl, Bool.not_false, Bool.and_true]
      rfl
    have all : (Statement.joinedDelete free g).result = .ok (Statement.deleteSelected g.root (g.scope cfg)) := by
      rw [Statement.result_joinedDelete, show free.allowDeleteAll = true from rfl, Bool.not_true, Bool.and_false]
      rfl
    rw [only, ← JoinGraph.isUnrestricted_iff]
    refine ⟨(p.numbered_of_graph done).tops_children, fun _ _ _ => Statement.joinedSelect_selectsFrom,
      fun restricted => by rw [if_neg restricted], all, ?_⟩
    by_cases unrestricted : g.isUnrestricted = true
    · simp [unrestricted]
    · rw [if_neg unrestricted, Except.ok.injEq]
      exact iff_of_false (Statement.deleteSelected_ne_deleteNone g.root _) unrestricted

/-- Lines of a range, and orders without lines of two ranges that exclude each other. -/
theorem deletes_are_restricted_of_lines :
    let q := linesBetween (.greaterOrEqual (.int 1)) (.lessOrEqual (.int 5))
    let p := ordersWithout (.greaterOrEqual (.int 5)) (.lessOrEqual (.int 1))
    let g := ordersGraph (.greaterOrEqual (.int 5)) (.lessOrEqual (.int 1))
    lineType.validate = .ok () ∧ q.conditions.check lineType = .ok () ∧ ¬q.conditions.Vacuous ∧
      (∃ scope w, scope.where? = some w ∧
        (Statement.delete .standard q).result = .ok (Statement.deleteWhere lineType w scope)) ∧
      p.build.result = .ok g ∧ g.Unrestricted ∧
      (Statement.joinedDelete .standard g).result = .ok (Statement.deleteNone orderType) := by
  intro q p g
  have valid : lineType.validate = .ok () := ok_of_isOk rfl
  have checked : q.conditions.check lineType = .ok () := ok_of_isOk rfl
  have effective : ¬q.conditions.Vacuous := by
    rw [← Conditions.effective_eq_nil_iff]
    exact List.cons_ne_nil _ _
  have done : p.build.result = .ok g := by
    rw [JoinPlan.result_build]
    exact graph_ordersWithout _ _
  have unrestricted : g.Unrestricted := JoinGraph.isUnrestricted_iff.mp (by decide +kernel)
  obtain ⟨one, joined⟩ := deletes_are_restricted .standard
  obtain ⟨scope, -, -, -, restricted, -⟩ := one q valid checked
  obtain ⟨w, there, deleted, -⟩ := restricted effective
  obtain ⟨-, -, -, -, nothing⟩ := joined p g done
  exact ⟨valid, checked, effective, ⟨scope, w, there, deleted⟩, done, unrestricted, nothing.mpr unrestricted⟩

/-- The lines whose quantity is one of no values: their delete deletes nothing, though their restriction is not
vacuous, and it stays when everything may be deleted. -/
theorem deletes_nothing_of_no_values :
    ∃ x : Restriction, Restriction.isIn [] = .ok x ∧
      ∃ q : Query lineType, q = Query.all.restrict ⟨"quantity"⟩ x ∧ lineType.validate = .ok () ∧
        q.conditions.check lineType = .ok () ∧ ¬q.conditions.Vacuous ∧
        (Statement.delete .standard q).result = .ok (Statement.deleteNone lineType) ∧
        (Statement.delete { Config.standard with allowDeleteAll := true } q).result =
          .ok (Statement.deleteNone lineType) := by
  refine ⟨_, rfl, _, rfl, ok_of_isOk rfl, ok_of_isOk rfl, ?_, rfl, rfl⟩
  rw [← Conditions.effective_eq_nil_iff]
  exact List.cons_ne_nil _ _

end Sift
