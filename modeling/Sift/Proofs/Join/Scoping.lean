import Sift.Proofs.Sql.Sites
import Sift.Proofs.Join.Subqueries

/-!
# Tables in scope

Every column in the selection of a tree is one of a table that stands before it: joins
are about tables joined so far, the tables of a group about tables of the group, and
conditions about their own table, which is in the source of the scope or of the group.
-/
namespace Sift

namespace Placed

/-- The conditions of a table are in scope wherever the table is. -/
def Scoped (p : Placed) : Prop := ∀ names : List String, p.node.name ∈ names → Condition.AllScoped names p.conditions

variable {around : List String}

theorem scoped_joinInner {s : Source} {p : Placed} {e : JoinEdge} (inScope : s.Scoped around)
    (edge : p.node.edge = some e) (parent : tableName e.parent ∈ s.from_.names) :
    (joinInner s p).Scoped around := by
  rw [joinInner_of_edge edge]
  exact ⟨inScope, trivial, ColumnRef.in_of_name parent _, ColumnRef.in_of_name (List.mem_singleton_self _) _, trivial⟩

theorem scoped_foldl_joinInner {s : Source} {ps : List Placed} (inScope : s.Scoped around)
    (attachable : Attachable s.from_.names ps) : (ps.foldl joinInner s).Scoped around := by
  induction ps using List.reverseRecOn with
  | nil => exact inScope
  | append_singleton ps p ih =>
    obtain ⟨e, edge, parent⟩ := attachable.parent ps p [] rfl
    rw [← names_foldl_joinInner attachable.init] at parent
    rw [List.foldl_append]
    exact scoped_joinInner (ih attachable.init) edge parent

theorem scoped_flatMap {ps : List Placed} (inScope : ∀ p ∈ ps, p.Scoped) {names : List String}
    (there : ∀ p ∈ ps, p.node.name ∈ names) : Condition.AllScoped names (ps.flatMap (·.conditions)) := by
  rw [Condition.allScoped_iff]
  intro k member
  obtain ⟨p, inside, given⟩ := List.mem_flatMap.mp member
  exact Condition.allScoped_iff.mp (inScope p inside names (there p inside)) k given

section

variable {top : Placed} {rest : List Placed} (layout : Layout top rest)
include layout

theorem mem_names_foldl_attach {before after : List Placed} (split : rest = before ++ after) {n : String} :
    n ∈ (before.foldl (attach rest) (.table top.node.tableRef)).from_.names ↔ Reached top rest before n := by
  -- the names do not depend on the rows, and without rows conditions are about nothing
  have attaches : Attaches (fun _ => []) (fun _ => .null) top rest before
      (before.foldl (attach rest) (.table top.node.tableRef)) :=
    attaches_foldl layout (by simp [Closed, Sql.Database.rows]) split
  exact attaches.names n

/-- A table is attached to a source in which its parent is, an outer join with its group. -/
theorem scoped_attach (inScope : ∀ p ∈ rest, p.Scoped) {s : Source} (before : s.Scoped around) {p : Placed}
    (there : p ∈ rest) {e : JoinEdge} (edge : p.node.edge = some e)
    (parent : tableName e.parent ∈ s.from_.names) : (attach rest s p).Scoped around := by
  obtain ⟨-, -, e', edge', -, ⟨inner, -⟩ | ⟨outer, -⟩⟩ := layout.hangs there
  all_goals cases Option.some.inj (edge.symm.trans edge')
  · rw [attach_of_inner edge inner]
    split
    · exact before
    · exact scoped_joinInner before edge parent
  · have left : p.node.kind? = some .left := by rw [JoinNode.kind?, edge, Option.map_some, outer]
    have names {n : String} := mem_names_groupSource layout there left (n := n)
    rw [attach_of_left edge outer]
    refine ⟨before, scoped_foldl_joinInner trivial (layout.attachable_nestedOf there left),
      ColumnRef.in_of_name parent _, ColumnRef.in_of_name ?_ _, scoped_flatMap ?_ ?_⟩
    · exact names.mpr ⟨p, self_mem_groupOf layout there left, rfl⟩
    · exact fun q member => inScope q (Layout.mem_groupOf_iff.mp member).1
    · intro q member
      exact List.mem_append_right _ (List.mem_append_right _ (names.mpr ⟨q, member, rfl⟩))

theorem scoped_foldl_attach (inScope : ∀ p ∈ rest, p.Scoped) {before after : List Placed}
    (split : rest = before ++ after) :
    (before.foldl (attach rest) (.table top.node.tableRef)).Scoped around := by
  induction before using List.reverseRecOn generalizing after with
  | nil => exact trivial
  | append_singleton before p ih =>
    have split' : rest = before ++ p :: after := by rw [split]; simp
    obtain ⟨e, edge, parent⟩ := reached_parent layout split'
    rw [List.foldl_append]
    exact scoped_attach layout inScope (ih split') (by rw [split']; simp) edge
      ((mem_names_foldl_attach layout split').mpr parent)

/-- A selection of tables whose conditions are about them. -/
theorem scoped_selection (first : top.Scoped) (inScope : ∀ p ∈ rest, p.Scoped) :
    (selection top rest).Scoped around where
  source := scoped_foldl_attach layout inScope (List.append_nil rest).symm
  conditions := by
    refine scoped_flatMap (fun p member => ?_) fun p member => ?_
    · rcases List.mem_cons.mp (List.mem_filter.mp member).1 with rfl | inside
      · exact first
      · exact inScope p inside
    · exact List.mem_append_right _ ((mem_selection_names layout).mpr ⟨p, (List.mem_filter.mp member).1, rfl⟩)

end

end Placed

/-- The conditions of a node are about its own columns. -/
theorem JoinNode.scoped_ownConditions {n : JoinNode} {names : List String} (there : n.name ∈ names) :
    Condition.AllScoped names n.ownConditions := by
  rw [Condition.allScoped_iff]
  intro k member
  obtain rfl | ⟨f, -, orNull, t, rfl⟩ := Conditions.compile_cases member
  · exact trivial
  · exact ColumnRef.in_of_name there f.1

namespace JoinTree

theorem Proper.scoped_selection {t : JoinTree} (proper : t.Proper)
    (inScope : ∀ u ∈ t.subtrees, (u.placed none).Scoped) (around : List String) : t.selection.Scoped around := by
  refine Placed.scoped_selection proper.layout (inScope t t.mem_subtrees_self) fun p member => ?_
  obtain ⟨u, joined, rfl⟩ := mem_tables.mp member
  intro names there
  rw [placedIn, conditions_placed u.2 none]
  rw [placedIn, node_placed] at there
  exact inScope u.1 (joined_mem_subtrees joined) names (by rwa [node_placed])

/-- The subqueries of a table are linked to it. -/
theorem scoped_subqueries {id : Nat} {ts : List JoinTree} (hangs : HangOn id ts) (proper : ∀ t ∈ ts, t.Proper)
    (inScope : ∀ t ∈ ts, ∀ u ∈ t.subtrees, (u.placed none).Scoped) {names : List String}
    (there : tableName id ∈ names) : Condition.AllScoped names (subqueries ts) := by
  rw [Condition.allScoped_iff]
  intro k member
  obtain ⟨t, inside, e, edge, which⟩ := mem_subqueries.mp member
  have parent : e.parent = id := by
    obtain ⟨e', edge', parent⟩ := edge_of_parent (parent_of_hangOn hangs inside)
    cases Option.some.inj (edge.symm.trans edge')
    exact parent
  have selection := (proper t inside).scoped_selection (inScope t inside) names
  have own : t.top.name ∈ t.selection.source.from_.names :=
    (Placed.mem_selection_names (proper t inside).layout).mpr ⟨t.placed none, List.mem_cons_self, by rw [node_placed]⟩
  have subquery (negated : Bool) : (t.subquery negated e).Scoped names :=
    ⟨selection.source, ColumnRef.in_of_name (parent ▸ there) _, ColumnRef.in_of_name own _, selection.conditions⟩
  rcases which with ⟨-, rfl⟩ | ⟨-, -, rfl⟩
  · exact subquery false
  · exact subquery true

theorem scoped_of_below {t : JoinTree} (proper : t.Proper)
    (inScope : ∀ c ∈ t.children, ∀ u ∈ c.subtrees, (u.placed none).Scoped) : (t.placed none).Scoped := by
  intro names there
  rw [node_placed] at there
  rw [conditions_eq, Condition.allScoped_iff, List.forall_mem_append, ← Condition.allScoped_iff, ← Condition.allScoped_iff]
  refine ⟨JoinNode.scoped_ownConditions there, scoped_subqueries proper.hangOn (fun c member => ?_) inScope there⟩
  refine proper.of_mem ?_
  rw [subtrees_eq]
  exact List.mem_cons_of_mem _ (mem_subtreesOf member)

mutual

/-- The conditions of all tables are in scope. -/
theorem scopedAll : ∀ {t : JoinTree}, t.Proper → ∀ u ∈ t.subtrees, (u.placed none).Scoped
  | node n children, proper, u, member => by
    have below : ∀ u ∈ subtreesOf children, (u.placed none).Scoped :=
      scopedAllOf fun c member => proper.of_mem (List.mem_cons_of_mem _ member)
    rcases List.mem_cons.mp member with rfl | deeper
    · exact scoped_of_below proper fun c there v deeper =>
        below v (mem_subtreesOf_trans (mem_subtreesOf there) deeper)
    · exact below u deeper

theorem scopedAllOf : ∀ {ts : List JoinTree}, (∀ t ∈ subtreesOf ts, t.Proper) →
    ∀ u ∈ subtreesOf ts, (u.placed none).Scoped
  | [], _, _, member => by cases member
  | t :: ts, proper, u, member => by
    rw [subtreesOf, List.forall_mem_append] at proper
    rcases List.mem_append.mp member with first | rest
    · exact scopedAll (proper.1 t t.mem_subtrees_self) u first
    · exact scopedAllOf proper.2 u rest

end

/-- The selection of a tree is in scope wherever it stands. -/
theorem Proper.selection_scoped {t : JoinTree} (proper : t.Proper) (around : List String) : t.selection.Scoped around :=
  proper.scoped_selection (scopedAll proper) around

end JoinTree
end Sift
