import Sift.Proofs.Join.Names
import Sift.Proofs.Join.Numbering
import Sift.Proofs.Join.Subqueries
import Sift.Statement.Joined

/-!
# The rows of a joined statement

The FROM and WHERE of a built graph, read as SQL, give the joined rows of the graph,
each as often as the graph does. The exception are graphs with a tree that must give
nothing and is predicted to give nothing although a row satisfies its conditions: its
subquery is missing.
-/
namespace Sift

open Sql

/-! ## Names -/

theorem isPlain_tableName (id : Nat) : Identifier.isPlain (tableName id) = true := by
  have digits : (toString id).toList = Nat.toDigits 10 id := Nat.toList_repr
  simp only [tableName, Identifier.isPlain, String.toList_append, digits]
  show (Identifier.isHead 't' && (Nat.toDigits 10 id).all Identifier.isTail) = true
  rw [Bool.and_eq_true, List.all_eq_true]
  refine ⟨rfl, fun c member => ?_⟩
  have digit := Nat.isDigit_of_mem_toDigits (by decide) (by decide) member
  simp [Identifier.isTail, Char.isAlphanum, digit]

/-- Names without quotes. -/
def Names.plain : Names := ⟨ColumnRef.Plain, TableRef.Plain⟩

mutual

theorem Condition.plain_of_uses : ∀ {c : Condition}, c.Uses .plain → c.Plain
  | .never, _ => trivial
  | .test .., plain => plain
  | .subquery .., ⟨source, link, conditions⟩ =>
    ⟨Source.plain_of_uses source, link, Condition.allPlain_of_allUse conditions⟩

theorem Source.plain_of_uses : ∀ {s : Source}, s.Uses .plain → s.Plain
  | .table _, plain => plain
  | .join .., ⟨left, right, link, conditions⟩ =>
    ⟨Source.plain_of_uses left, Source.plain_of_uses right, link, Condition.allPlain_of_allUse conditions⟩

theorem Condition.allPlain_of_allUse : ∀ {cs : List Condition}, Condition.AllUse .plain cs → Condition.AllPlain cs
  | [], _ => trivial
  | _ :: _, ⟨first, rest⟩ => ⟨Condition.plain_of_uses first, Condition.allPlain_of_allUse rest⟩

end

theorem JoinNode.Checked.uses {n : JoinNode} (checked : n.Checked) : n.Uses .plain where
  table := ⟨checked.row.table, n.name, rfl, isPlain_tableName n.id⟩
  restricted f member := by
    refine ⟨checked.row.isPlain (Conditions.hasColumn_of_check checked.conditions member), fun t same => ?_⟩
    cases same
    exact isPlain_tableName n.id
  link e edge := by
    obtain ⟨parent, child⟩ := checked.link e edge
    refine ⟨⟨parent, fun t same => ?_⟩, ⟨child, fun t same => ?_⟩⟩
    · cases same
      exact isPlain_tableName e.parent
    · cases same
      exact isPlain_tableName n.id

namespace JoinTree

variable {t : JoinTree}

theorem plain_selection (checked : ∀ n ∈ t.nodes, n.Checked) : t.selection.Plain := by
  obtain ⟨source, conditions⟩ := uses_selection fun n member => (checked n member).uses
  exact ⟨Source.plain_of_uses source, Condition.allPlain_of_allUse conditions⟩

/-! ## Rows -/

/-- A query gives no combination of rows twice if its tables have different names. -/
theorem nodup_rows_query {db : Database} {look : Lookup} {s : Selection} (distinct : s.source.from_.names.Nodup) :
    (s.query.rows db look).Nodup := by
  obtain ⟨source, conditions⟩ := s
  have rows : (source.from_.rows db look).Nodup := From.nodup_rows distinct
  cases conditions with
  | nil => exact rows
  | cons k ks => exact rows.filter _

/-- The selection of a tree gives its joined rows, each as often as the tree. -/
theorem Proper.perm_rows {db : Database} (proper : t.Proper) (reads : t.ReadsAll db) (look : Lookup) :
    (t.selection.query.rows db look).Perm ((db.rows t.top.row.table).flatMap (t.rowsOf db)) := by
  have query : (t.selection.query.rows db look).Nodup :=
    nodup_rows_query (Placed.nodup_selection_names proper.layout)
  have rows : ((db.rows t.top.row.table).flatMap (t.rowsOf db)).Nodup :=
    nodup_flatMap_rowsOf (db.nodup_rows t.top.row.table) fun r => nodup_rowsOf r proper.nodup_names
  refine (List.perm_ext_iff_of_nodup query rows).mpr fun a => ?_
  have member : a ∈ t.selection.query.rows db look ↔ ∃ r ∈ db.rows t.top.row.table, a ∈ t.rowsOf db r :=
    Selection.mem_rows_query.trans (proper.mem_selection_iff reads)
  rw [member, List.mem_flatMap]

end JoinTree

namespace JoinGraph

/-- The rows that a graph joins without the trees that are left out. -/
def keptRows (db : Database) (g : JoinGraph) : List Assignment :=
  (db.rows g.root.row.table).flatMap (g.tree.kept.rowsOf db)

/-- A row satisfies conditions in a tree that is left out, although they are predicted to be empty: it
has a value that the bounds of its column are conflated with. -/
def Misreads (db : Database) (g : JoinGraph) : Prop :=
  ∃ t ∈ g.tree.subtrees, t.isLeftOut = true ∧ ∃ n ∈ t.nodes, ∃ r ∈ db.rows n.row.table,
    n.conditions.predictsEmpty = true ∧ n.conditions.holds r.record = true ∧ n.conditions.Misreads r.record

/-- What is left out gives nothing if none of its rows is misread. -/
theorem faithful_of_not_misreads {db : Database} {g : JoinGraph} (fine : ¬g.Misreads db) :
    g.tree.Faithful db := by
  intro t member leftOut r there
  refine JoinTree.rowsOf_of_predictsEmpty (Bool.and_eq_true_iff.mp leftOut).2 ?_ r there
  intro n inside s listed predicted
  by_contra some
  have holds := Bool.eq_true_of_not_eq_false some
  exact fine ⟨t, member, leftOut, n, inside, s, listed, predicted, holds,
    Conditions.misreads_of_predictsEmpty predicted holds⟩

/-- The root, which hangs on nothing, is not left out. -/
theorem isLeftOut_tree {g : JoinGraph} (root : g.root.edge = none) : g.tree.isLeftOut = false := by
  have kind : g.tree.top.kind? = none := by
    rw [JoinNode.kind?, show g.tree.top = g.root from rfl, root]
    rfl
  rw [JoinTree.isLeftOut, kind]
  rfl

variable {p : JoinPlan} {g : JoinGraph} (named : p.NamesRows) (done : p.graph = .ok g)
include named done

/-- The FROM and WHERE of a built graph are read as its selection. -/
theorem query?_scope (cfg : Config) :
    (g.scope cfg).text.query? (g.scope cfg).params = some g.selection.query := by
  have numbered := p.numbered_of_graph done
  have checked : ∀ n ∈ g.tree.nodes, n.Checked := fun n member =>
    p.checked_of_graph named done n (numbered.nodes_tree.mem_iff.mp member)
  exact Selection.query?_print cfg.dialect g.predictsEmpty
    (JoinTree.plain_selection checked) .start

omit named in
/-- The selection of a built graph gives the joined rows of what is left. -/
theorem perm_keptRows {db : Database} (suits : ∀ n ∈ g.nodes, n.Suits db) (look : Lookup) :
    (g.selection.query.rows db look).Perm (g.keptRows db) := by
  have numbered := p.numbered_of_graph done
  have reads := JoinTree.readsAll numbered.proper_tree.kept
    (fun n member => suits n (numbered.nodes_tree.mem_iff.mp ((JoinTree.nodes_kept g.tree).subset member)))
    (JoinTree.faithful_kept (isLeftOut_tree (p.edge_root_of_graph done)))
  have rows := numbered.proper_tree.kept.perm_rows reads look
  rw [JoinTree.selection_kept, JoinTree.top_kept] at rows
  exact rows

omit named in
/-- If what is left out gives nothing, then they are the joined rows of the graph. -/
theorem perm_rows {db : Database} (suits : ∀ n ∈ g.nodes, n.Suits db) (faithful : g.tree.Faithful db)
    (look : Lookup) : (g.selection.query.rows db look).Perm (g.rows db) := by
  have numbered := p.numbered_of_graph done
  have reads := JoinTree.readsAll numbered.proper_tree
    (fun n member => suits n (numbered.nodes_tree.mem_iff.mp member)) faithful
  exact numbered.proper_tree.perm_rows reads look

end JoinGraph

/-! ## Missing subqueries -/

/-- A predicate that bounds a column from one side is about the values that satisfy it. -/
theorem Predicate.meets_of_eval {p : Predicate} {v : Value} (nullable : Bool)
    (side : p.lowerBound?.isSome ≠ p.upperBound?.isSome) (true_ : p.eval v = some true) :
    p.Meets nullable v := by
  cases null : v.isNull with
  | true => cases p <;> simp [lowerBound?, upperBound?] at side <;> simp [eval, null] at true_
  | false =>
    rw [Meets, null, if_neg Bool.false_ne_true]
    cases p <;> simp [lowerBound?, upperBound?] at side
    all_goals
      simp only [eval, null, Bool.false_eq_true, if_false, evalPresent, Option.map_eq_some_iff] at true_
      obtain ⟨o, compared, -⟩ := true_
      exact Option.isSome_iff_exists.mpr ⟨o, compared⟩

/-- Orders, which have lines. -/
def orderType : RowType := ⟨"Order", "orders", [⟨"id", "id", false⟩], "id", none, []⟩

/-- The lines of orders. -/
def lineType : RowType :=
  ⟨"OrderLine", "order_lines",
    [⟨"id", "id", false⟩, ⟨"order_id", "order_id", false⟩, ⟨"quantity", "quantity", true⟩], "id", none,
    [⟨"order_id", "orders"⟩]⟩

/-- Lines whose quantity satisfies two predicates. -/
def linesBetween (p q : Predicate) : Query lineType :=
  (Query.all.restrict ⟨"quantity"⟩ (.of p)).restrict ⟨"quantity"⟩ (.of q)

/-- Orders without such a line. -/
def ordersWithout (p q : Predicate) : JoinPlan :=
  (JoinPlan.of (Query.all : Query orderType)).joinReferring .anti (linesBetween p q) ⟨"order_id"⟩

def lineNode (p q : Predicate) : JoinNode :=
  ⟨1, lineType, (linesBetween p q).conditions, some ⟨0, .anti, ⟨"id", "order_id"⟩⟩⟩

def ordersGraph (p q : Predicate) : JoinGraph := ⟨⟨0, orderType, .empty, none⟩, [lineNode p q]⟩

/-- An order with a line of a given quantity. -/
def orderWithLine (v : Value) : Database := fun table =>
  if table = "orders" then [.ofList [("id", .int 1)]]
  else if table = "order_lines" then [.ofList [("order_id", .int 1), ("quantity", v)]]
  else []

theorem fields_linesBetween (p q : Predicate) :
    (linesBetween p q).conditions.fields = [("quantity", [.of p, .of q])] := by
  simp [linesBetween, Query.restrict, Query.all, Conditions.push, Conditions.pushField, Conditions.empty]

theorem graph_ordersWithout (p q : Predicate) : (ordersWithout p q).graph = .ok (ordersGraph p q) := by
  have first : orderType.validate = .ok () := ok_of_isOk (by decide +kernel)
  have second : lineType.validate = .ok () := ok_of_isOk (by decide +kernel)
  have members : ((ordersWithout p q).members.forM fun m => do
      m.row.validate
      m.conditions.check m.row) = .ok () := by
    refine forM_ok_iff.mpr fun m member => ?_
    rcases List.mem_cons.mp member with rfl | member
    · show (orderType.validate >>= fun _ => _) = _
      rw [first]
      rfl
    · cases List.mem_singleton.mp member
      show (lineType.validate >>= fun _ => _) = _
      rw [second]
      rfl
  unfold JoinPlan.graph
  rw [show (ordersWithout p q).joins.forM Join.check = .ok () from rfl]
  show (JoinPlan.checkDistinct [] (ordersWithout p q).members >>= fun _ => _) = _
  rw [show JoinPlan.checkDistinct [] (ordersWithout p q).members = .ok () from rfl]
  show (((ordersWithout p q).members.forM fun m => do
    m.row.validate
    m.conditions.check m.row) >>= fun _ => _) = _
  rw [members]
  rfl

theorem namesRows_ordersWithout (p q : Predicate) : (ordersWithout p q).NamesRows := by
  intro j member source column attached
  cases List.mem_singleton.mp member
  cases attached

theorem suits_orderWithLine {v : Value} {p q : Predicate} (first : p.Meets true v) (second : q.Meets true v) :
    ∀ n ∈ (ordersGraph p q).nodes, n.Suits (orderWithLine v) := by
  intro n member r there
  rcases List.mem_cons.mp member with rfl | member
  · intro f field
    cases field
  · cases List.mem_singleton.mp member
    cases List.mem_singleton.mp there
    intro f field x restricted
    rw [lineNode, fields_linesBetween, List.mem_singleton] at field
    cases field
    rcases List.mem_cons.mp restricted with rfl | restricted
    · exact first
    · cases List.mem_singleton.mp restricted
      exact second

section

variable {v : Value} {p q : Predicate} (misreading : Restriction.Misreading v p q)
include misreading

theorem suits_of_misreading : ∀ n ∈ (ordersGraph p q).nodes, n.Suits (orderWithLine v) :=
  suits_orderWithLine (Predicate.meets_of_eval true misreading.firstSide misreading.first)
    (Predicate.meets_of_eval true misreading.secondSide misreading.second)

theorem holds_linesBetween {r : Row} (listed : r ∈ (orderWithLine v).rows lineType.table) :
    (linesBetween p q).conditions.holds r.record = true := by
  cases List.mem_singleton.mp listed
  have first := Restriction.holds_of_eval misreading.first
  have second := Restriction.holds_of_eval misreading.second
  rw [Conditions.holds, fields_linesBetween]
  simp only [List.all_cons, List.all_nil, Bool.and_true, Bool.and_eq_true]
  exact ⟨first, second⟩

theorem isLeftOut_lines : (JoinTree.node (lineNode p q) []).isLeftOut = true := by
  have predicted : (linesBetween p q).conditions.predictsEmpty = true := by
    rw [Conditions.predictsEmpty, fields_linesBetween]
    simp [misreading.contradicted]
  rw [JoinTree.isLeftOut, JoinTree.predictsEmpty, show (lineNode p q).conditions.predictsEmpty = true from predicted]
  rfl

/-- The line excludes the order. -/
theorem rows_ordersGraph : (ordersGraph p q).rows (orderWithLine v) = [] := by
  let line : Row := ⟨.ofList [("order_id", .int 1), ("quantity", v)], 0⟩
  let link : JoinEdge := ⟨0, .anti, ⟨"id", "order_id"⟩⟩
  have listed : line ∈ (orderWithLine v).rows lineType.table := List.mem_singleton_self _
  refine List.flatMap_eq_nil_iff.mpr fun r member => ?_
  cases List.mem_singleton.mp member
  have linked : (JoinTree.node (lineNode p q) []).partners (orderWithLine v)
      ⟨.ofList [("id", .int 1)], 0⟩ link ≠ [] := by
    have joined : (JoinTree.node (lineNode p q) []).rowsOf (orderWithLine v) line ≠ [] := by
      have holds : (lineNode p q).conditions.holds line.record = true := holds_linesBetween misreading listed
      rw [JoinTree.rowsOf, if_pos holds]
      exact List.cons_ne_nil _ _
    obtain ⟨a, given⟩ := List.exists_mem_of_ne_nil _ joined
    exact List.ne_nil_of_mem (JoinTree.mem_partners.mpr ⟨line, listed, rfl, given⟩)
  have excluded : (JoinTree.node (lineNode p q) []).contributed (orderWithLine v)
      ⟨.ofList [("id", .int 1)], 0⟩ = [] := by
    rw [JoinTree.contributed_of_edge (e := link) rfl]
    exact if_neg (by simpa using linked)
  have tree : (ordersGraph p q).tree = .node (ordersGraph p q).root [.node (lineNode p q) []] := rfl
  rw [tree, JoinTree.rowsOf, JoinTree.combinations_cons, excluded]
  rfl

/-- The line is left out. -/
theorem keptRows_ordersGraph : (ordersGraph p q).keptRows (orderWithLine v) ≠ [] := by
  have kept : (ordersGraph p q).tree.kept = .node (ordersGraph p q).root [] := by
    show JoinTree.node _ (if (JoinTree.node (lineNode p q) []).isLeftOut then [] else _) = _
    rw [isLeftOut_lines misreading]
    rfl
  rw [JoinGraph.keptRows, kept]
  exact List.cons_ne_nil _ _

/-- The statement selects an order that the graph excludes. -/
theorem not_perm_ordersGraph {cfg : Config} {query : Sql.Query} (look : Lookup)
    (read : ((ordersGraph p q).scope cfg).text.query? ((ordersGraph p q).scope cfg).params = some query) :
    ¬(query.rows (orderWithLine v) look).Perm ((ordersGraph p q).rows (orderWithLine v)) := by
  intro same
  have named := namesRows_ordersWithout p q
  have done := graph_ordersWithout p q
  rw [JoinGraph.query?_scope named done] at read
  cases read
  have kept := JoinGraph.perm_keptRows done (suits_of_misreading misreading) look
  rw [rows_ordersGraph misreading] at same
  exact keptRows_ordersGraph misreading (kept.symm.trans same).eq_nil

end

/-- Every conflation is misread by a graph whose statement gives other rows. -/
theorem exists_graph_of_conflated {v a b : Value} (conflated : v.Conflated a b) :
    ∃ (p : JoinPlan) (g : JoinGraph) (db : Database),
      p.NamesRows ∧ p.graph = .ok g ∧ (∀ n ∈ g.nodes, n.Suits db) ∧
      (∃ n ∈ g.nodes, ∃ column xs, (column, xs) ∈ n.conditions.fields ∧
        (Restriction.boundValues xs = [a, b] ∨ Restriction.boundValues xs = [b, a]) ∧
        ∃ r ∈ db.rows n.row.table, r.record.valueOf column = v) ∧
      ∀ (cfg : Config) (query : Sql.Query) (look : Lookup),
        (g.scope cfg).text.query? (g.scope cfg).params = some query →
          ¬(query.rows db look).Perm (g.rows db) := by
  obtain ⟨p, q, values, misreading⟩ := Restriction.exists_misreading conflated
  refine ⟨ordersWithout p q, ordersGraph p q, orderWithLine v, namesRows_ordersWithout p q,
    graph_ordersWithout p q, suits_of_misreading misreading, ?_, fun cfg query look read =>
      not_perm_ordersGraph misreading look read⟩
  refine ⟨lineNode p q, List.mem_cons_of_mem _ List.mem_cons_self, "quantity", [.of p, .of q], ?_, values, ?_⟩
  · exact (fields_linesBetween p q).symm ▸ List.mem_cons_self
  · exact ⟨_, List.mem_singleton_self _, rfl⟩

/-- The FROM and WHERE of a built graph, read as SQL, give the joined rows of what is left of its tree,
each as often. They are those of the whole tree, unless a row in a tree that is left out is misread. -/
theorem scope_gives_rows {p : JoinPlan} {g : JoinGraph} (named : p.NamesRows) (done : p.graph = .ok g)
    (cfg : Config) : g.tree.nodes.Perm g.nodes ∧
      ∃ query, (g.scope cfg).text.query? (g.scope cfg).params = some query ∧
        ∀ (db : Database) (look : Lookup), (∀ n ∈ g.nodes, n.Suits db) →
          (query.rows db look).Perm (g.keptRows db) ∧
            (¬g.Misreads db → (query.rows db look).Perm (g.rows db)) := by
  refine ⟨(p.numbered_of_graph done).nodes_tree, g.selection.query,
    JoinGraph.query?_scope named done cfg, fun db look suits => ?_⟩
  refine ⟨JoinGraph.perm_keptRows done suits look, fun fine => ?_⟩
  exact JoinGraph.perm_rows done suits (JoinGraph.faithful_of_not_misreads fine) look

/-- A line of 5 is not misread. -/
theorem scope_gives_rows_five :
    let p : Predicate := .greaterOrEqual (.int 9007199254740993)
    let q : Predicate := .lessOrEqual (.int 9007199254740992)
    let g := ordersGraph p q
    let db := orderWithLine (.int 5)
    (ordersWithout p q).NamesRows ∧ (ordersWithout p q).graph = .ok g ∧ (∀ n ∈ g.nodes, n.Suits db) ∧
      ¬g.Misreads db ∧ ∃ query, (g.scope .standard).text.query? (g.scope .standard).params = some query ∧
        (query.rows db fun _ => .null).Perm (g.rows db) := by
  intro p q g db
  have named := namesRows_ordersWithout p q
  have done := graph_ordersWithout p q
  have suits : ∀ n ∈ g.nodes, n.Suits db :=
    suits_orderWithLine (by rw [Predicate.Meets, if_neg (by decide)]; exact rfl)
      (by rw [Predicate.Meets, if_neg (by decide)]; exact rfl)
  have fine : ¬g.Misreads db := by
    rintro ⟨t, member, leftOut, n, inside, r, listed, -, holds, -⟩
    rcases List.mem_cons.mp member with rfl | member
    · cases leftOut
    · cases List.mem_singleton.mp member
      cases List.mem_singleton.mp inside
      cases List.mem_singleton.mp listed
      exact absurd holds (by decide +kernel)
  obtain ⟨-, query, read, rows⟩ := scope_gives_rows named done .standard
  exact ⟨named, done, suits, fine, query, read, (rows db (fun _ => .null) suits).2 fine⟩

theorem misreading_double : Restriction.Misreading (.float (.ofInt 9007199254740992))
    (.greaterOrEqual (.int 9007199254740993)) (.lessOrEqual (.int 9007199254740992)) where
  contradicted := by decide +kernel
  first := by decide +kernel
  second := by decide +kernel
  firstSide := by decide
  secondSide := by decide

/-- The graph has no row for an order with a line of 2^53, given as a double, that is above 2^53 + 1 and
below 2^53; its statement asks for all orders. -/
theorem scope_misses_double :
    let p : Predicate := .greaterOrEqual (.int 9007199254740993)
    let q : Predicate := .lessOrEqual (.int 9007199254740992)
    let g := ordersGraph p q
    let db := orderWithLine (.float (.ofInt 9007199254740992))
    (ordersWithout p q).graph = .ok g ∧ (∀ n ∈ g.nodes, n.Suits db) ∧
      (g.scope .standard).sql = "FROM orders t0" ∧ g.rows db = [] ∧
      ∃ query, (g.scope .standard).text.query? (g.scope .standard).params = some query ∧
        ¬(query.rows db fun _ => .null).Perm (g.rows db) := by
  intro p q g db
  have read := JoinGraph.query?_scope (namesRows_ordersWithout p q) (graph_ordersWithout p q) .standard
  refine ⟨graph_ordersWithout p q, suits_of_misreading misreading_double, ?_,
    rows_ordersGraph misreading_double, _, read, ?_⟩
  · decide +kernel
  · exact not_perm_ordersGraph misreading_double _ read

end Sift
