import Sift.Proofs.Join.Layers
import Sift.Proofs.Restriction.Agreement
import Sift.Proofs.Sql.Names

/-!
# Names in the selection of a tree

A selection of joined tables names the tables of its nodes, the columns that they
restrict and the columns that link them.
-/
namespace Sift

variable {names : Names}

/-- What is compiled from conditions names the columns that they restrict. -/
theorem Conditions.uses_compile {c : Conditions} (r : RowType) {name : Option String}
    (restricted : ∀ f ∈ c.fields, names.column ⟨name, f.1⟩) : Condition.AllUse names (c.compile r name) := by
  rw [Condition.allUse_iff]
  intro k member
  obtain rfl | ⟨f, field, orNull, t, rfl⟩ := compile_cases member
  · exact trivial
  · exact restricted f field

/-- The table of a node, the columns that it restricts and those of its edge may be named. -/
structure JoinNode.Uses (names : Names) (n : JoinNode) : Prop where
  table : names.table n.tableRef
  restricted : ∀ f ∈ n.conditions.fields, names.column ⟨some n.name, f.1⟩
  link : ∀ e, n.edge = some e → names.column (n.linkBy e).parent ∧ names.column (n.linkBy e).child

namespace Placed

/-- The names of a table and of its conditions may be named. -/
structure Uses (names : Names) (p : Placed) : Prop where
  node : p.node.Uses names
  conditions : Condition.AllUse names p.conditions

theorem uses_joinInner {s : Source} (uses : s.Uses names) {p : Placed} (node : p.node.Uses names) :
    (joinInner s p).Uses names := by
  rw [joinInner]
  split
  next e edge => exact ⟨uses, node.table, node.link e edge, trivial⟩
  next => exact uses

theorem uses_foldl_joinInner {ps : List Placed} (nodes : ∀ p ∈ ps, p.node.Uses names) {s : Source}
    (uses : s.Uses names) : (ps.foldl joinInner s).Uses names := by
  induction ps generalizing s with
  | nil => exact uses
  | cons p ps ih =>
    rw [List.forall_mem_cons] at nodes
    exact ih nodes.2 (uses_joinInner uses nodes.1)

theorem allUse_flatMap {ps : List Placed} (uses : ∀ p ∈ ps, p.Uses names) :
    Condition.AllUse names (ps.flatMap (·.conditions)) := by
  rw [Condition.allUse_iff]
  intro k member
  obtain ⟨p, there, given⟩ := List.mem_flatMap.mp member
  exact Condition.allUse_iff.mp (uses p there).conditions k given

theorem uses_attach {all : List Placed} (uses : ∀ p ∈ all, p.Uses names) {s : Source} (before : s.Uses names)
    {p : Placed} (node : p.node.Uses names) : (attach all s p).Uses names := by
  rw [attach]
  split
  next e edge =>
    split
    · split
      · exact before
      · exact uses_joinInner before node
    · refine ⟨before, uses_foldl_joinInner (fun q member => ?_) node.table, node.link e edge,
        allUse_flatMap fun q member => uses q (List.mem_filter.mp member).1⟩
      exact (uses q (List.mem_filter.mp (List.mem_filter.mp member).1).1).node
    · exact before
  next => exact before

theorem uses_selection {top : Placed} {rest : List Placed} (first : top.Uses names)
    (below : ∀ p ∈ rest, p.Uses names) : (selection top rest).Uses names := by
  refine ⟨?_, allUse_flatMap fun p member => ?_⟩
  · have all : ∀ (ps : List Placed), (∀ p ∈ ps, p.node.Uses names) → ∀ s : Source, s.Uses names →
        (ps.foldl (attach rest) s).Uses names := by
      intro ps nodes
      induction ps with
      | nil => exact fun s uses => uses
      | cons p ps ih =>
        rw [List.forall_mem_cons] at nodes
        exact fun s before => ih nodes.2 _ (uses_attach below before nodes.1)
    exact all rest (fun p member => (below p member).node) _ first.node.table
  · rcases List.mem_cons.mp (List.mem_filter.mp member).1 with rfl | member
    · exact first
    · exact below p member

end Placed

theorem forall_mergeLayers {α : Type} {P : α → Prop} : ∀ {xs ys : List (List α)},
    (∀ x ∈ xs.flatten, P x) → (∀ y ∈ ys.flatten, P y) → ∀ z ∈ (mergeLayers xs ys).flatten, P z
  | [], _, _, second => second
  | _ :: _, [], first, _ => first
  | x :: xs, y :: ys, first, second => by
    simp only [List.flatten_cons, List.forall_mem_append, mergeLayers] at first second ⊢
    exact ⟨⟨first.1, second.1⟩, forall_mergeLayers first.2 second.2⟩

namespace JoinTree

mutual

theorem uses_placed (group : Option Nat) : ∀ {t : JoinTree}, (∀ n ∈ t.nodes, n.Uses names) →
    (t.placed group).Uses names
  | node n children, uses => by
    obtain ⟨own, below⟩ := List.forall_mem_cons.mp uses
    refine ⟨own, ?_⟩
    rw [placed, Condition.allUse_iff, List.forall_mem_append]
    exact ⟨Condition.allUse_iff.mp (Conditions.uses_compile n.row own.restricted), uses_subqueries below⟩

theorem uses_layersBelow (group : Option Nat) : ∀ {t : JoinTree}, (∀ n ∈ t.nodes, n.Uses names) →
    ∀ p ∈ (t.layersBelow group).flatten, p.Uses names
  | node _ _, uses => uses_layersOf group (List.forall_mem_cons.mp uses).2

theorem uses_layersOf (group : Option Nat) : ∀ {ts : List JoinTree}, (∀ n ∈ nodesOf ts, n.Uses names) →
    ∀ p ∈ (layersOf group ts).flatten, p.Uses names
  | [], _ => nofun
  | t :: ts, uses => by
    rw [nodesOf, List.forall_mem_append] at uses
    rw [layersOf]
    refine forall_mergeLayers ?_ (uses_layersOf group uses.2)
    split
    · rw [List.flatten_cons, List.singleton_append]
      exact List.forall_mem_cons.mpr ⟨uses_placed _ uses.1, uses_layersBelow _ uses.1⟩
    · rw [List.flatten_cons, List.singleton_append]
      exact List.forall_mem_cons.mpr ⟨uses_placed _ uses.1, uses_layersBelow _ uses.1⟩
    · nofun

theorem uses_subqueries : ∀ {ts : List JoinTree}, (∀ n ∈ nodesOf ts, n.Uses names) →
    ∀ k ∈ subqueries ts, k.Uses names
  | [], _ => nofun
  | t :: ts, uses => by
    rw [nodesOf, List.forall_mem_append] at uses
    have selection := Placed.uses_selection (uses_placed none uses.1) (uses_layersBelow none uses.1)
    rw [subqueries, List.forall_mem_append]
    refine ⟨?_, uses_subqueries uses.2⟩
    cases edge : t.top.edge with
    | none => nofun
    | some e =>
      have link := (uses.1 _ t.top_mem_nodes).link e edge
      dsimp only
      split
      · exact List.forall_mem_singleton.mpr ⟨selection.1, link, selection.2⟩
      · split
        · nofun
        · exact List.forall_mem_singleton.mpr ⟨selection.1, link, selection.2⟩
      · nofun

end

/-- The selection of a tree names what its nodes may name. -/
theorem uses_selection {t : JoinTree} (uses : ∀ n ∈ t.nodes, n.Uses names) : t.selection.Uses names :=
  Placed.uses_selection (uses_placed none uses) (uses_layersBelow none uses)

end JoinTree
end Sift
