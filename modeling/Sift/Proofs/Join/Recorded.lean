import Sift.Proofs.Join.Numbering

/-!
# The entries of a graph

The names, the selection and the children of nodes can be written down in one pass over
the nodes and one over their edges. The first pass enters each node after the one it
hangs on, whose entry tells whether it is selected; the second enters each node below
the root among the children of its parent. In a built graph every parent has an entry
when it is read, and the entries are those that the definitions of a graph derive.
-/
namespace Sift

namespace JoinGraph

/-- What is entered for a node. -/
structure Entry where
  name : String
  selected : Bool
  children : List Nat

/-- Whether a node is selected, by the entry of its parent. -/
def readSelected (entries : List Entry) (n : JoinNode) : Option Bool :=
  match n.edge with
  | none => some true
  | some e => if e.kind.isPhysical then entries[e.parent]?.map (·.selected) else some false

/-- Enters a node behind those before it, as yet without children. -/
def enterNode (entries : List Entry) (n : JoinNode) : Option (List Entry) := do
  let selected ← readSelected entries n
  return entries ++ [⟨"t" ++ toString entries.length, selected, []⟩]

/-- Enters a node among the children of its parent. -/
def enterChild (entries : List Entry) (n : JoinNode) : Option (List Entry) :=
  match n.edge with
  | none => some entries
  | some e =>
    if e.parent < entries.length then
      some (entries.modify e.parent fun m => { m with children := m.children ++ [n.id] })
    else none

/-- The entries of all nodes, unless a parent has none when it is read. -/
def entries? (g : JoinGraph) : Option (List Entry) := do
  let entries ← g.nodes.foldlM enterNode []
  g.joined.foldlM enterChild entries

/-- The entry of a node when some nodes are entered among the children of their parents. -/
def entry (g : JoinGraph) (entered : List JoinNode) (n : JoinNode) : Entry :=
  ⟨n.name, g.isSelected n.id, (entered.filter fun m => m.parent? == some n.id).map (·.id)⟩

section

variable {g : JoinGraph} (numbers : g.nodes.map (·.id) = List.range g.nodes.length)
variable (root : g.root.edge = none) (edges : ∀ n ∈ g.joined, ∃ e, n.edge = some e ∧ e.parent < n.id)

include numbers root edges

/-- A node below the root is selected if it is joined physically and its parent is selected. -/
theorem isSelected_eq {n : JoinNode} (member : n ∈ g.nodes) :
    g.isSelected n.id = match n.edge with
      | none => true
      | some e => e.kind.isPhysical && g.isSelected e.parent := by
  have bound := id_lt_length numbers member
  have path := joinsTo_root_iff numbers root edges member
  rw [Bool.eq_iff_iff, isSelected_iff numbers root edges, path]
  cases edge : n.edge with
  | none => simp [bound]
  | some e =>
    have above := parent_lt root edges member edge
    rw [Bool.and_eq_true, isSelected_iff numbers root edges]
    simp [bound, above.trans bound]

/-- The nodes that a select returns are those of which it is decided by number. -/
theorem selected_eq_filter : g.selected = g.nodes.filter fun n => g.isSelected n.id := by
  have ascending := pairwise_nodes numbers
  have distinct : g.nodes.Nodup := ascending.imp fun before same => Nat.ne_of_lt before (congrArg _ same)
  have same : g.selected.Perm (g.nodes.filter fun n => g.isSelected n.id) := by
    refine (List.perm_ext_iff_of_nodup (distinct.sublist g.selected_sublist) (distinct.filter _)).mpr fun n => ?_
    rw [mem_selected_iff numbers root edges, List.mem_filter, isSelected_iff numbers root edges]
    exact and_congr_right fun member => (and_iff_right (id_lt_length numbers member)).symm
  exact same.eq_of_pairwise (fun _ _ _ _ before after => absurd before (Nat.lt_asymm after))
    (ascending.sublist g.selected_sublist) (ascending.filter _)

/-- The entry of a node's parent tells whether the node is selected. -/
theorem readSelected_eq {before after : List JoinNode} {n : JoinNode} (split : g.nodes = before ++ n :: after) :
    readSelected (before.map (g.entry [])) n = some (g.isSelected n.id) := by
  have member : n ∈ g.nodes := split ▸ List.mem_append_right _ List.mem_cons_self
  rw [readSelected, isSelected_eq numbers root edges member]
  cases edge : n.edge with
  | none => rfl
  | some e =>
    have above : e.parent < before.length :=
      id_of_split numbers split ▸ parent_lt root edges member edge
    have parent : before[e.parent].id = e.parent :=
      ((getElem?_nodes_iff numbers).mp (by rw [split, List.getElem?_append_left above,
        List.getElem?_eq_getElem above])).2
    cases physical : e.kind.isPhysical with
    | false => simp [physical]
    | true => simp [physical, above, entry, parent]

/-- A node is entered with its name and whether it is selected. -/
theorem enterNode_eq {before after : List JoinNode} {n : JoinNode} (split : g.nodes = before ++ n :: after) :
    enterNode (before.map (g.entry [])) n = some ((before ++ [n]).map (g.entry [])) := by
  rw [enterNode, readSelected_eq numbers root edges split, List.map_append, List.length_map,
    ← id_of_split numbers split]
  rfl

/-- The first pass enters all nodes. `before` are those entered already. -/
theorem foldlM_enterNode {before rest : List JoinNode} (split : g.nodes = before ++ rest) :
    rest.foldlM enterNode (before.map (g.entry [])) = some (g.nodes.map (g.entry [])) := by
  induction rest generalizing before with
  | nil => simp [split]
  | cons n rest ih =>
    rw [List.foldlM_cons, enterNode_eq numbers root edges split]
    exact ih (by simp [split])

omit root in
/-- A node below the root is entered among the children of its parent and of no other node. -/
theorem enterChild_eq {before after : List JoinNode} {n : JoinNode} (split : g.joined = before ++ n :: after) :
    enterChild (g.nodes.map (g.entry before)) n = some (g.nodes.map (g.entry (before ++ [n]))) := by
  have joined : n ∈ g.joined := split ▸ List.mem_append_right _ List.mem_cons_self
  obtain ⟨e, edge, above⟩ := edges n joined
  have bound : e.parent < g.nodes.length :=
    above.trans (id_lt_length numbers (List.mem_cons_of_mem _ joined))
  have parent : n.parent? = some e.parent := by rw [JoinNode.parent?, edge]; rfl
  simp only [enterChild, edge, List.length_map, if_pos bound, Option.some.injEq]
  refine List.ext_getElem? fun k => ?_
  rw [List.getElem?_modify, List.getElem?_map, List.getElem?_map]
  cases there : g.nodes[k]? with
  | none => rfl
  | some m =>
    have place : m.id = k := ((getElem?_nodes_iff numbers).mp there).2
    by_cases own : e.parent = k
    · simp [own, entry, parent, place]
    · simp [own, entry, parent, place]

omit root in
/-- The second pass enters all children. `before` are those entered already. -/
theorem foldlM_enterChild {before rest : List JoinNode} (split : g.joined = before ++ rest) :
    rest.foldlM enterChild (g.nodes.map (g.entry before)) = some (g.nodes.map (g.entry g.joined)) := by
  induction rest generalizing before with
  | nil => simp [split]
  | cons n rest ih =>
    rw [List.foldlM_cons, enterChild_eq numbers edges split]
    exact ih (by simp [split])

/-- The entries are those that are derived from the edges. -/
theorem entries?_eq :
    g.entries? = some (g.nodes.map fun n => ⟨n.name, g.isSelected n.id, g.children n.id⟩) := by
  have first := foldlM_enterNode numbers root edges (List.nil_append g.nodes).symm
  have second := foldlM_enterChild numbers edges (List.nil_append g.joined).symm
  have children (i : Nat) : g.children i = (g.joined.filter fun m => m.parent? == some i).map (·.id) := by
    simp [children, nodes, JoinNode.parent?, root]
  rw [entries?, ← List.map_nil, first]
  show g.joined.foldlM enterChild _ = _
  simp only [second, children]
  rfl

end

end JoinGraph

namespace JoinPlan

/-- Entering the nodes of a built graph gives the name of each, whether it is selected, and its children. -/
theorem entries?_of_graph {p : JoinPlan} {g : JoinGraph} (done : p.graph = .ok g) :
    g.entries? = some (g.nodes.map fun n => ⟨n.name, g.isSelected n.id, g.children n.id⟩) := by
  obtain ⟨places, presents⟩ := presents_of_graph done
  exact JoinGraph.entries?_eq presents.numbers presents.root.2 presents.edge_lt

end JoinPlan

end Sift
