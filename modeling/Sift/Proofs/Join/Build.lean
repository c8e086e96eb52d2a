import Sift.Proofs.Join.Layers
import Sift.Join.Build

/-!
# Built graphs

The places of a plan are visited once, each after that of its parent. In a graph whose
nodes have different numbers and come after the nodes they hang on, the tree has all of
the nodes, and the children of its top are the nodes that hang on the root.
-/
namespace Sift

namespace JoinPlan

/-! ## Places -/

/-- Places are listed once, and each after that of its parent. -/
def Listed (edges : List JoinEdge) : List Nat → List Nat → Prop
  | _, [] => True
  | seen, i :: is =>
    i ∉ seen ∧ (i = 0 ∨ ∃ e, edges[i - 1]? = some e ∧ e.parent ∈ seen) ∧ Listed edges (seen ++ [i]) is

theorem listed_append {edges : List JoinEdge} : ∀ {seen is js : List Nat},
    Listed edges seen (is ++ js) ↔ Listed edges seen is ∧ Listed edges (seen ++ is) js
  | seen, [], js => by simp [Listed]
  | seen, i :: is, js => by
    rw [List.cons_append, Listed, Listed, listed_append, List.append_assoc, List.singleton_append]
    tauto

/-- Places that are not listed yet and whose parents are. -/
structure Frontier (edges : List JoinEdge) (seen layer : List Nat) : Prop where
  distinct : (seen ++ layer).Nodup
  above : ∀ i ∈ seen ++ layer, i = 0 ∨ ∃ e, edges[i - 1]? = some e ∧ e.parent ∈ seen

theorem Frontier.listed {edges : List JoinEdge} {seen more layer : List Nat}
    (frontier : Frontier edges seen (more ++ layer)) : Listed edges (seen ++ more) layer := by
  induction layer generalizing more with
  | nil => trivial
  | cons i is ih =>
    refine ⟨?_, ?_, ?_⟩
    · intro member
      have distinct := frontier.distinct
      rw [← List.append_assoc] at distinct
      exact (List.nodup_append'.mp distinct).2.2 member List.mem_cons_self
    · rcases frontier.above i (by simp) with zero | ⟨e, edge, parent⟩
      · exact .inl zero
      · exact .inr ⟨e, edge, List.mem_append_left _ parent⟩
    · rw [List.append_assoc]
      refine ih ?_
      rw [List.append_assoc]
      exact frontier

theorem mem_placesBelow {edges : List JoinEdge} {parent i : Nat} :
    i ∈ placesBelow edges parent ↔ 1 ≤ i ∧ ∃ e, edges[i - 1]? = some e ∧ e.parent = parent := by
  simp only [placesBelow, List.mem_filterMap, Prod.exists, List.mem_zipIdx_iff_le_and_getElem?_sub]
  constructor
  · rintro ⟨e, j, ⟨first, edge⟩, same⟩
    split at same
    next parent =>
      cases same
      exact ⟨first, e, edge, parent⟩
    next => cases same
  · rintro ⟨first, e, edge, rfl⟩
    exact ⟨e, i, ⟨first, edge⟩, if_pos rfl⟩

/-- What is kept of a list. -/
theorem map_filterMap_sublist {α β γ : Type} {f : α → Option β} {g : β → γ} {h : α → γ}
    (same : ∀ a b, f a = some b → g b = h a) (l : List α) :
    ((l.filterMap f).map g).Sublist (l.map h) := by
  induction l with
  | nil => exact List.Sublist.refl _
  | cons a l ih =>
    cases kept : f a with
    | none =>
      rw [List.filterMap_cons_none kept]
      exact ih.cons (h a)
    | some b =>
      rw [List.filterMap_cons_some kept, List.map_cons, same a b kept]
      exact ih.cons_cons (h a)

/-- Places below another one are listed in ascending order. -/
theorem pairwise_placesBelow (edges : List JoinEdge) (parent : Nat) :
    (placesBelow edges parent).Pairwise (· < ·) := by
  have kept : ((placesBelow edges parent).map id).Sublist ((edges.zipIdx 1).map Prod.snd) := by
    refine map_filterMap_sublist (fun p i same => ?_) _
    by_cases own : p.1.parent = parent
    · exact Option.some.inj (same.symm.trans (if_pos own))
    · cases same.symm.trans (if_neg own)
  rw [List.map_id, List.zipIdx_map_snd] at kept
  exact List.Pairwise.sublist kept List.pairwise_lt_range'

theorem nodup_placesBelow (edges : List JoinEdge) (parent : Nat) : (placesBelow edges parent).Nodup :=
  (pairwise_placesBelow edges parent).imp Nat.ne_of_lt

/-- The places below a layer are the next layer. -/
theorem Frontier.next {edges : List JoinEdge} {seen layer : List Nat} (frontier : Frontier edges seen layer) :
    Frontier edges (seen ++ layer) (layer.flatMap (placesBelow edges)) := by
  have distinct := List.nodup_append'.mp frontier.distinct
  constructor
  · refine List.nodup_append'.mpr ⟨frontier.distinct, ?_, ?_⟩
    · rw [List.nodup_flatMap]
      refine ⟨fun p _ => nodup_placesBelow edges p, distinct.2.1.imp fun differ i first second => differ ?_⟩
      obtain ⟨-, e, edge, rfl⟩ := mem_placesBelow.mp first
      obtain ⟨-, e', edge', rfl⟩ := mem_placesBelow.mp second
      rw [Option.some.inj (edge.symm.trans edge')]
    · intro i listed next
      obtain ⟨p, member, below⟩ := List.mem_flatMap.mp next
      obtain ⟨first, e, edge, rfl⟩ := mem_placesBelow.mp below
      rcases frontier.above i listed with rfl | ⟨e', edge', parent⟩
      · omega
      · cases Option.some.inj (edge.symm.trans edge')
        exact distinct.2.2 parent member
  · intro i member
    rcases List.mem_append.mp member with listed | next
    · rcases frontier.above i listed with zero | ⟨e, edge, parent⟩
      · exact .inl zero
      · exact .inr ⟨e, edge, List.mem_append_left _ parent⟩
    · obtain ⟨p, here, below⟩ := List.mem_flatMap.mp next
      obtain ⟨-, e, edge, rfl⟩ := mem_placesBelow.mp below
      exact .inr ⟨e, edge, List.mem_append_right _ here⟩

theorem Frontier.listed_layers {edges : List JoinEdge} (n : Nat) {seen layer : List Nat}
    (frontier : Frontier edges seen layer) : Listed edges seen (layers edges n layer) := by
  induction n generalizing seen layer with
  | zero => trivial
  | succ n ih =>
    rw [layers, listed_append]
    have listed : Listed edges (seen ++ []) layer := frontier.listed
    rw [List.append_nil] at listed
    exact ⟨listed, ih frontier.next⟩

/-- All places are listed once, and each after that of its parent. -/
theorem listed_order (edges : List JoinEdge) (n : Nat) : Listed edges [] (layers edges n [0]) :=
  Frontier.listed_layers n ⟨by simp, by simp⟩

theorem Listed.nodup {edges : List JoinEdge} : ∀ {seen is : List Nat}, seen.Nodup → Listed edges seen is →
    (seen ++ is).Nodup
  | seen, [], distinct, _ => by simpa using distinct
  | seen, i :: is, distinct, ⟨fresh, _, rest⟩ => by
    have more : (seen ++ [i]).Nodup := List.nodup_append'.mpr ⟨distinct, List.nodup_singleton i, by simpa using fresh⟩
    simpa using rest.nodup more

end JoinPlan

/-! ## Trees -/

namespace JoinTree

theorem nodesOf_eq (ts : List JoinTree) : nodesOf ts = ts.flatMap nodes := by
  induction ts with
  | nil => rfl
  | cons t ts ih => rw [nodesOf, ih, List.flatMap_cons]

theorem hangOn_iff {id : Nat} {ts : List JoinTree} :
    HangOn id ts ↔ ∀ t ∈ ts, t.top.parent? = some id ∧ t.Hangs := by
  induction ts with
  | nil => simp [HangOn]
  | cons t ts ih => rw [HangOn, ih, List.forall_mem_cons, and_assoc]

theorem hangOn_filter {id : Nat} {ts : List JoinTree} (hangs : ∀ t ∈ ts, t.Hangs) :
    HangOn id (ts.filter (hasParent id)) := by
  refine hangOn_iff.mpr fun t member => ?_
  obtain ⟨there, parent⟩ := List.mem_filter.mp member
  exact ⟨beq_iff_eq.mp parent, hangs t there⟩

theorem hangs_grow {ns : List JoinNode} : ∀ t ∈ grow ns, t.Hangs := by
  induction ns with
  | nil => simp [grow]
  | cons n ns ih =>
    intro t member
    rcases List.mem_cons.mp member with rfl | later
    · exact hangOn_filter ih
    · exact ih t (List.mem_filter.mp later).1

/-- Trees that are grown from nodes have these nodes. -/
theorem nodesOf_grow (ns : List JoinNode) : (nodesOf (grow ns)).Perm ns := by
  induction ns with
  | nil => exact List.Perm.refl _
  | cons n ns ih =>
    have parts := (List.filter_append_perm (hasParent n.id) (grow ns)).flatMap_right nodes
    rw [List.flatMap_append, ← nodesOf_eq, ← nodesOf_eq, ← nodesOf_eq] at parts
    exact (parts.trans ih).cons n

/-- Trees that are grown from nodes, each after its parent, hang on nodes that are not among them. -/
theorem parent_of_grow {ns : List JoinNode} {above : List Nat}
    (parents : ∀ before n after, ns = before ++ n :: after →
      ∃ id ∈ above ++ before.map (·.id), n.parent? = some id) :
    ∀ t ∈ grow ns, ∃ id ∈ above, t.top.parent? = some id := by
  induction ns generalizing above with
  | nil => simp [grow]
  | cons n ns ih =>
    intro t member
    rcases List.mem_cons.mp member with rfl | later
    · obtain ⟨id, there, parent⟩ := parents [] n ns rfl
      exact ⟨id, by simpa using there, parent⟩
    · obtain ⟨there, other⟩ := List.mem_filter.mp later
      obtain ⟨id, inside, parent⟩ := @ih (above ++ [n.id]) (fun before m after split => by
        simpa using parents (n :: before) m after (by rw [split, List.cons_append])) t there
      rcases List.mem_append.mp inside with known | own
      · exact ⟨id, known, parent⟩
      · cases List.mem_singleton.mp own
        simp [hasParent, parent] at other

/-- The grown trees that hang on a node outside are those of the nodes that hang on it. -/
theorem tops_grow {ns : List JoinNode} {id : Nat} (outside : ∀ n ∈ ns, n.id ≠ id) :
    ((grow ns).filter (hasParent id)).map (·.top) = ns.filter fun n => n.parent? == some id := by
  induction ns with
  | nil => rfl
  | cons n ns ih =>
    obtain ⟨other, outside⟩ := List.forall_mem_cons.mp outside
    have untaken (t : JoinTree) : (hasParent id t && !hasParent n.id t) = hasParent id t := by
      by_cases below : t.hasParent id = true
      · have parent : t.top.parent? = some id := by simpa [hasParent] using below
        simp [hasParent, parent, Ne.symm other]
      · simp [below]
    rw [grow, List.filter_cons, List.filter_filter, List.filter_congr fun t _ => untaken t, List.filter_cons,
      ← ih outside, apply_ite (List.map _)]
    rfl

end JoinTree

namespace JoinGraph

/-- The nodes of a graph have different numbers, and each comes after the node it hangs on. -/
structure Numbered (g : JoinGraph) : Prop where
  distinct : (g.nodes.map (·.id)).Nodup
  parent : ∀ before n after, g.joined = before ++ n :: after →
    ∃ q ∈ g.root :: before, n.parent? = some q.id

/-- The tree of a graph has all of its nodes. -/
theorem Numbered.nodes_tree {g : JoinGraph} (numbered : g.Numbered) : g.tree.nodes.Perm g.nodes := by
  have parents : ∀ t ∈ JoinTree.grow g.joined, ∃ id ∈ [g.root.id], t.top.parent? = some id := by
    refine JoinTree.parent_of_grow fun before n after split => ?_
    obtain ⟨q, member, parent⟩ := numbered.parent before n after split
    refine ⟨q.id, ?_, parent⟩
    rcases List.mem_cons.mp member with rfl | earlier
    · exact List.mem_cons_self
    · exact List.mem_cons_of_mem _ (List.mem_map_of_mem earlier)
  have whole : (JoinTree.grow g.joined).filter (JoinTree.hasParent g.root.id) = JoinTree.grow g.joined := by
    refine List.filter_eq_self.mpr fun t member => ?_
    obtain ⟨id, own, parent⟩ := parents t member
    rw [JoinTree.hasParent, parent, List.mem_singleton.mp own]
    exact beq_self_eq_true _
  rw [tree, whole]
  exact (JoinTree.nodesOf_grow g.joined).cons g.root

theorem Numbered.proper_tree {g : JoinGraph} (numbered : g.Numbered) : g.tree.Proper where
  hangs := JoinTree.hangOn_filter JoinTree.hangs_grow
  distinct := (numbered.nodes_tree.map _).nodup_iff.mpr numbered.distinct

theorem Numbered.eq_of_id {g : JoinGraph} (numbered : g.Numbered) {n m : JoinNode} (first : n ∈ g.nodes)
    (second : m ∈ g.nodes) (same : n.id = m.id) : n = m :=
  List.inj_on_of_nodup_map numbered.distinct first second same

/-- The children of the tree of a numbered graph are the nodes that hang on the root. -/
theorem Numbered.tops_children {g : JoinGraph} (numbered : g.Numbered) :
    g.tree.children.map (·.top) = g.joined.filter fun n => n.parent? == some g.root.id :=
  JoinTree.tops_grow fun n member same => by
    have distinct := numbered.distinct
    rw [nodes, List.map_cons, List.nodup_cons] at distinct
    exact distinct.1 (same ▸ List.mem_map_of_mem member)

end JoinGraph

namespace JoinPlan

/-- The place of a listed node comes after that of its parent. -/
theorem Listed.parent {edges : List JoinEdge} {seen before after : List Nat} {i : Nat}
    (listed : Listed edges seen (before ++ i :: after)) (other : i ≠ 0) :
    ∃ e, edges[i - 1]? = some e ∧ e.parent ∈ seen ++ before := by
  obtain ⟨-, -, above, -⟩ := listed_append.mp listed
  exact above.resolve_left other

end JoinPlan
end Sift
