import Sift.Proofs.Join.Numbering
import Mathlib.Logic.Equiv.Basic

/-!
# The order of joins

Joins may be declared in any order: parents are found by their row types and tables, and
the walk over the edges depends on the order of the joins only where they share a parent.
-/
namespace Sift

/-! ## Permutations as maps of places -/

/-- The permutation of the places after the first one. -/
def shift (σ : Equiv.Perm Nat) : Equiv.Perm Nat where
  toFun
    | 0 => 0
    | i + 1 => σ i + 1
  invFun
    | 0 => 0
    | i + 1 => σ.symm i + 1
  left_inv i := by cases i <;> simp
  right_inv i := by cases i <;> simp

/-- A permuted list has the elements of the list at permuted places. -/
theorem exists_getElem?_eq {α : Type} {xs ys : List α} (perm : ys.Perm xs) :
    ∃ σ : Equiv.Perm Nat, ∀ i, ys[i]? = xs[σ i]? := by
  induction perm with
  | nil => exact ⟨.refl Nat, fun i => rfl⟩
  | cons x _ ih =>
    obtain ⟨σ, moved⟩ := ih
    refine ⟨shift σ, fun i => ?_⟩
    cases i with
    | zero => rfl
    | succ i => exact moved i
  | swap x y rest =>
    refine ⟨Equiv.swap 0 1, fun i => ?_⟩
    match i with
    | 0 => rfl
    | 1 => rfl
    | i + 2 => rw [Equiv.swap_apply_of_ne_of_ne (by omega) (by omega)]; rfl
  | trans _ _ ih ih' =>
    obtain ⟨σ, moved⟩ := ih
    obtain ⟨τ, moved'⟩ := ih'
    exact ⟨σ.trans τ, fun i => (moved i).trans (moved' (σ i))⟩

namespace JoinPlan

/-- A plan whose members are those of another one at permuted places. The root stays first. -/
structure Reordered (p q : JoinPlan) (σ : Equiv.Perm Nat) : Prop where
  root : q.root = p.root
  perm : q.joins.Perm p.joins
  zero : σ 0 = 0
  joins : ∀ i, 1 ≤ i → q.joins[i - 1]? = p.joins[σ i - 1]?

theorem exists_reordered {p q : JoinPlan} (root : q.root = p.root) (perm : q.joins.Perm p.joins) :
    ∃ σ, Reordered p q σ := by
  obtain ⟨σ, moved⟩ := exists_getElem?_eq perm
  refine ⟨shift σ, root, perm, rfl, fun i below => ?_⟩
  obtain ⟨k, rfl⟩ : ∃ k, i = k + 1 := ⟨i - 1, by omega⟩
  exact moved k

namespace Reordered

variable {p q : JoinPlan} {σ : Equiv.Perm Nat} (moved : Reordered p q σ)
include moved

/-! ## Parents -/

theorem one_le_iff {i : Nat} : 1 ≤ σ i ↔ 1 ≤ i := by
  have zero : σ i = 0 ↔ i = 0 := by
    rw [← moved.zero, σ.injective.eq_iff, moved.zero]
  omega

theorem members (i : Nat) : q.members[i]? = p.members[σ i]? := by
  cases i with
  | zero => rw [moved.zero]; exact congrArg some moved.root
  | succ k =>
    obtain ⟨l, place⟩ : ∃ l, σ (k + 1) = l + 1 := ⟨σ (k + 1) - 1, by have := moved.one_le_iff (i := k + 1); omega⟩
    have join := moved.joins (k + 1) (by omega)
    rw [place, Nat.add_sub_cancel, Nat.add_sub_cancel] at join
    simp [JoinPlan.members, place, join]

theorem members_perm : q.members.Perm p.members := by
  rw [JoinPlan.members, moved.root]
  exact (moved.perm.map _).cons _

theorem hangsOn_iff {j : Join} {i parent : Nat} :
    j.HangsOn q.members i parent ↔ j.HangsOn p.members (σ i) (σ parent) := by
  rw [Join.HangsOn, Join.HangsOn]
  cases j.attachment with
  | referredBy source column => simp only [moved.members, ne_eq, σ.injective.eq_iff]
  | refersBy column =>
    refine exists_congr fun f => and_congr_right fun _ => Iff.trans ?_ σ.surjective.forall.symm
    simp only [moved.members, ne_eq, σ.injective.eq_iff]

theorem hasParent_iff {i parent : Nat} : q.HasParent i parent ↔ p.HasParent (σ i) (σ parent) := by
  rw [HasParent, HasParent, moved.one_le_iff]
  refine and_congr_right fun below => ?_
  simp only [moved.joins i below, moved.hangsOn_iff]

theorem wellFormed (well : p.WellFormed) : q.WellFormed := by
  have length := moved.members_perm.length_eq
  have inside {i : Nat} (bound : i < q.members.length) : σ i < p.members.length := by
    have there := List.getElem?_eq_getElem bound
    rw [moved.members] at there
    exact (List.getElem?_eq_some_iff.mp there).1
  refine ⟨fun j there => well.refers j (moved.perm.mem_iff.mp there), ?_,
    fun m there => well.valid m (moved.members_perm.mem_iff.mp there),
    fun m there => well.declared m (moved.members_perm.mem_iff.mp there), fun i below bound => ?_, fun i bound => ?_⟩
  · exact (moved.members_perm.map _).nodup_iff.mpr well.distinct
  · obtain ⟨parent, hangs⟩ := well.attached (σ i) (moved.one_le_iff.mpr below) (inside bound)
    exact ⟨σ.symm parent, moved.hasParent_iff.mpr (by rwa [Equiv.apply_symm_apply])⟩
  · have lifted : ∀ a b, p.HasParent a b → q.HasParent (σ.symm a) (σ.symm b) := fun a b hangs =>
      moved.hasParent_iff.mpr (by simpa only [Equiv.apply_symm_apply] using hangs)
    have path : Relation.ReflTransGen q.HasParent (σ.symm (σ i)) (σ.symm 0) :=
      Relation.ReflTransGen.lift σ.symm lifted _ _ (well.rooted (σ i) (inside bound))
    have zero : σ.symm 0 = 0 := σ.symm_apply_eq.mpr moved.zero.symm
    rwa [Equiv.symm_apply_apply, zero] at path

/-! ## Edges -/

variable {edges edges' : List JoinEdge}

theorem below_iff (well : p.WellFormed) (done : edgesFrom p.members 1 p.joins = .ok edges)
    (done' : edgesFrom q.members 1 q.joins = .ok edges') {i parent : Nat} :
    i ∈ placesBelow edges' parent ↔ σ i ∈ placesBelow edges (σ parent) := by
  have well' := moved.wellFormed well
  exact (JoinPlan.below_iff well'.refers well'.distinct done').trans (moved.hasParent_iff.trans
    (JoinPlan.below_iff well.refers well.distinct done).symm)

/-- An edge leads to the moved place of the parent. -/
theorem edge (well : p.WellFormed) (done : edgesFrom p.members 1 p.joins = .ok edges)
    (done' : edgesFrom q.members 1 q.joins = .ok edges') {i : Nat} (below : 1 ≤ i) {e : JoinEdge}
    (own : edges'[i - 1]? = some e) : edges[σ i - 1]? = some { e with parent := σ e.parent } := by
  obtain ⟨j, join, parent, m, found, there, rfl⟩ := (edge_iff done' below).mp own
  have refers := well.refers j (moved.perm.mem_iff.mp (List.mem_of_getElem? join))
  have hangs := (Join.parentAmong_eq_ok_iff (moved.wellFormed well).distinct refers).mp found
  have found' := (Join.parentAmong_eq_ok_iff well.distinct refers).mpr (moved.hangsOn_iff.mp hangs)
  rw [moved.joins i below] at join
  rw [moved.members] at there
  exact (edge_iff done (moved.one_le_iff.mpr below)).mpr ⟨j, join, σ parent, m, found', there, rfl⟩

theorem length_edges (done : edgesFrom p.members 1 p.joins = .ok edges)
    (done' : edgesFrom q.members 1 q.joins = .ok edges') : edges'.length = edges.length := by
  have first := JoinPlan.length_edges done
  have second := JoinPlan.length_edges done'
  have same := moved.members_perm.length_eq
  omega

/-! ## Visited places -/

theorem mem_walkOrder_iff (well : p.WellFormed) (done : edgesFrom p.members 1 p.joins = .ok edges)
    (done' : edgesFrom q.members 1 q.joins = .ok edges') {i : Nat} :
    i ∈ walkOrder edges' ↔ σ i ∈ walkOrder edges := by
  have below {i parent : Nat} : i ∈ placesBelow edges' parent ↔ σ i ∈ placesBelow edges (σ parent) :=
    moved.below_iff well done done'
  rw [JoinPlan.mem_walkOrder_iff, JoinPlan.mem_walkOrder_iff]
  constructor
  · intro path
    have lifted : Relation.ReflTransGen (Below edges) (σ i) (σ 0) :=
      Relation.ReflTransGen.lift σ (fun _ _ hangs => below.mp hangs) _ _ path
    rwa [moved.zero] at lifted
  · intro path
    have zero : σ.symm 0 = 0 := σ.symm_apply_eq.mpr moved.zero.symm
    have back : ∀ a b, Below edges a b → Below edges' (σ.symm a) (σ.symm b) := fun a b hangs => by
      refine below.mpr ?_
      rwa [Equiv.apply_symm_apply, Equiv.apply_symm_apply]
    have lifted : Relation.ReflTransGen (Below edges') (σ.symm (σ i)) (σ.symm 0) :=
      Relation.ReflTransGen.lift σ.symm back _ _ path
    rwa [Equiv.symm_apply_apply, zero] at lifted

/-- The places of the other plan are visited, each once. -/
theorem walkOrder_perm (well : p.WellFormed) (done : edgesFrom p.members 1 p.joins = .ok edges)
    (done' : edgesFrom q.members 1 q.joins = .ok edges') : ((walkOrder edges').map σ).Perm (walkOrder edges) := by
  refine (List.perm_ext_iff_of_nodup ((nodup_walkOrder edges').map σ.injective) (nodup_walkOrder edges)).mpr fun i => ?_
  rw [List.mem_map]
  constructor
  · rintro ⟨k, visited, rfl⟩
    exact (moved.mem_walkOrder_iff well done done').mp visited
  · intro visited
    refine ⟨σ.symm i, (moved.mem_walkOrder_iff well done done').mpr ?_, σ.apply_symm_apply i⟩
    rwa [Equiv.apply_symm_apply]

end Reordered
end JoinPlan

/-! ## Roles of nodes -/

/-- What a node is in its graph, apart from its number. -/
structure JoinRole where
  row : RowType
  conditions : Conditions
  /-- The row type of the parent, and how the node hangs on it. -/
  edge : Option (RowType × JoinKind × JoinLink)
  selected : Bool

def JoinGraph.role (g : JoinGraph) (n : JoinNode) : JoinRole :=
  ⟨n.row, n.conditions, n.edge.bind fun e => g.nodes[e.parent]?.map fun m => (m.row, e.kind, e.link),
    g.isSelected n.id⟩

namespace JoinPlan

section

variable {p : JoinPlan} {edges : List JoinEdge} {g : JoinGraph}

theorem Walked.getElem?_idxOf (walked : p.Walked edges g) {i : Nat} (visited : i ∈ walkOrder edges) :
    g.nodes[(walkOrder edges).idxOf i]? = some (placeNode p edges i) := by
  rw [walked.nodes, List.getElem?_map, JoinPlan.getElem?_idxOf visited]
  rfl

theorem mem_walkOrder_of_below {i parent : Nat} (visited : parent ∈ walkOrder edges)
    (below : i ∈ placesBelow edges parent) : i ∈ walkOrder edges := by
  rw [walkOrder_eq]
  exact List.mem_cons_of_mem _ (List.mem_flatMap.mpr ⟨parent, visited, below⟩)

variable (done : p.graph = .ok g)
include done

theorem isSelected_iff_joinsTo {i : Nat} :
    g.isSelected i = true ↔ i < g.nodes.length ∧ Relation.ReflTransGen g.JoinsTo i 0 := by
  obtain ⟨places, presents⟩ := presents_of_graph done
  exact JoinGraph.isSelected_iff presents.numbers presents.root.2 presents.edge_lt

theorem isSelected_root : g.isSelected 0 = true :=
  (isSelected_iff_joinsTo done).mpr ⟨Nat.succ_pos _, .refl⟩

/-- A node is selected if it is joined physically to a selected one. -/
theorem isSelected_below (walked : p.Walked edges g) {i parent : Nat} (visited : parent ∈ walkOrder edges)
    (below : i ∈ placesBelow edges parent) {e : JoinEdge} (edge : edges[i - 1]? = some e) :
    g.isSelected ((walkOrder edges).idxOf i) =
      (e.kind.isPhysical && g.isSelected ((walkOrder edges).idxOf parent)) := by
  obtain ⟨places, presents⟩ := presents_of_graph done
  have node := walked.getElem?_idxOf (mem_walkOrder_of_below visited below)
  have above := walked.getElem?_idxOf visited
  obtain ⟨e', edge', rfl, own⟩ := edge_placeNode (p := p) below
  cases edge.symm.trans edge'
  have step := JoinGraph.joinsTo_root_iff presents.numbers presents.root.2 presents.edge_lt
    (List.mem_of_getElem? node)
  rw [own, id_placeNode] at step
  rw [Bool.eq_iff_iff, Bool.and_eq_true, isSelected_iff_joinsTo done, isSelected_iff_joinsTo done, step]
  have bound := (List.getElem?_eq_some_iff.mp node).1
  have bound' := (List.getElem?_eq_some_iff.mp above).1
  constructor
  · rintro ⟨-, physical, path⟩
    exact ⟨physical, bound', path⟩
  · rintro ⟨physical, -, path⟩
    exact ⟨bound, physical, path⟩

end

namespace Reordered

variable {p q : JoinPlan} {σ : Equiv.Perm Nat} (moved : Reordered p q σ) {edges edges' : List JoinEdge}
  {g h : JoinGraph}
include moved

theorem getD_members (i : Nat) : q.members.getD i q.root = p.members.getD (σ i) p.root := by
  rw [List.getD_eq_getElem?_getD, List.getD_eq_getElem?_getD, moved.members, moved.root]

variable (edges edges') in
theorem row_placeNode (i : Nat) : (placeNode q edges' i).row = (placeNode p edges (σ i)).row :=
  congrArg JoinMember.row (moved.getD_members i)

variable (edges edges') in
theorem conditions_placeNode (i : Nat) :
    (placeNode q edges' i).conditions = (placeNode p edges (σ i)).conditions :=
  congrArg JoinMember.conditions (moved.getD_members i)

variable (done : p.graph = .ok g) (walked : p.Walked edges g) (walked' : q.Walked edges' h)
include done walked walked'

/-- The nodes of corresponding places hang in the same way on rows of the same type. -/
theorem edge_role_placeNode {i : Nat} (visited : i ∈ walkOrder edges') :
    ((placeNode q edges' i).edge.bind fun e => h.nodes[e.parent]?.map fun m => (m.row, e.kind, e.link)) =
      (placeNode p edges (σ i)).edge.bind fun e => g.nodes[e.parent]?.map fun m => (m.row, e.kind, e.link) := by
  have well := exists_graph_iff.mp ⟨g, done⟩
  rw [walkOrder_eq] at visited
  rcases List.mem_cons.mp visited with rfl | next
  · rw [moved.zero]
    rfl
  · obtain ⟨parent, above, below⟩ := List.mem_flatMap.mp next
    have above' := (moved.mem_walkOrder_iff well walked.found walked'.found).mp above
    have below' := (moved.below_iff well walked.found walked'.found).mp below
    obtain ⟨e, edge, rfl, own⟩ := edge_placeNode (p := q) below
    obtain ⟨e', edge', same, own'⟩ := edge_placeNode (p := p) below'
    have moves := moved.edge well walked.found walked'.found (mem_placesBelow.mp below).1 edge
    cases moves.symm.trans edge'
    rw [own, own', Option.bind_some, Option.bind_some, walked'.getElem?_idxOf above, walked.getElem?_idxOf above',
      Option.map_some, Option.map_some, moved.row_placeNode edges]

variable (done' : q.graph = .ok h)
include done'

theorem isSelected_idxOf {i : Nat} (visited : i ∈ walkOrder edges') :
    h.isSelected ((walkOrder edges').idxOf i) = g.isSelected ((walkOrder edges).idxOf (σ i)) := by
  have well := exists_graph_iff.mp ⟨g, done⟩
  have path := JoinPlan.mem_walkOrder_iff.mp visited
  induction path using Relation.ReflTransGen.head_induction_on with
  | refl =>
    rw [moved.zero, walkOrder_eq edges, walkOrder_eq edges', List.idxOf_cons_self, List.idxOf_cons_self,
      isSelected_root done, isSelected_root done']
  | head below path ih =>
    have above := JoinPlan.mem_walkOrder_iff.mpr path
    obtain ⟨first, e, edge, -⟩ := mem_placesBelow.mp below
    rw [isSelected_below done' walked' above below edge, ih above,
      isSelected_below done walked ((moved.mem_walkOrder_iff well walked.found walked'.found).mp above)
        ((moved.below_iff well walked.found walked'.found).mp below)
        (moved.edge well walked.found walked'.found first edge)]

/-- The nodes of corresponding places have the same role. -/
theorem role_placeNode {i : Nat} (visited : i ∈ walkOrder edges') :
    h.role (placeNode q edges' i) = g.role (placeNode p edges (σ i)) := by
  rw [JoinGraph.role, JoinGraph.role, id_placeNode, id_placeNode, moved.row_placeNode edges,
    moved.conditions_placeNode edges, moved.isSelected_idxOf done walked walked' done' visited,
    moved.edge_role_placeNode done walked walked' visited]

/-- The graph of a reordered plan has nodes of the same roles. -/
theorem roles_perm : (h.nodes.map h.role).Perm (g.nodes.map g.role) := by
  have well := exists_graph_iff.mp ⟨g, done⟩
  have roles : h.nodes.map h.role = ((walkOrder edges').map σ).map fun i => g.role (placeNode p edges i) := by
    rw [walked'.nodes, List.map_map, List.map_map]
    exact List.map_congr_left fun i visited => moved.role_placeNode done walked walked' done' visited
  have roles' : g.nodes.map g.role = (walkOrder edges).map fun i => g.role (placeNode p edges i) := by
    rw [walked.nodes, List.map_map]
    rfl
  rw [roles, roles']
  exact (moved.walkOrder_perm well walked.found walked'.found).map _

end Reordered

/-! ## Joins that share a parent -/

/-- Two joins of a plan hang on the same member. -/
def Siblings (p : JoinPlan) (j k : Join) : Prop :=
  ∃ parent i l, p.HasParent i parent ∧ p.joins[i - 1]? = some j ∧ p.HasParent l parent ∧ p.joins[l - 1]? = some k

section

variable {α : Type} {xs : List α} {x y : α} {i k : Nat}

theorem sublist_of_lt (first : xs[i]? = some x) (second : xs[k]? = some y) (before : i < k) :
    [x, y].Sublist xs := by
  have all : xs.Pairwise fun a b => [a, b].Sublist xs := List.pairwise_iff_forall_sublist.mpr fun kept => kept
  obtain ⟨bound, rfl⟩ := List.getElem?_eq_some_iff.mp first
  obtain ⟨bound', rfl⟩ := List.getElem?_eq_some_iff.mp second
  exact List.pairwise_iff_getElem.mp all i k bound bound' before

theorem lt_of_sublist {f : α → String} (distinct : (xs.map f).Nodup) (kept : [x, y].Sublist xs)
    (first : xs[i]? = some x) (second : xs[k]? = some y) : i < k := by
  have place {i : Nat} {x : α} (there : xs[i]? = some x) : (xs.map f).idxOf (f x) = i := by
    obtain ⟨bound, rfl⟩ := List.getElem?_eq_some_iff.mp there
    have same := distinct.idxOf_getElem i (by simpa using bound)
    rwa [List.getElem_map] at same
  have ordered := List.pairwise_map.mp (pairwise_idxOf distinct)
  have before := List.pairwise_iff_forall_sublist.mp ordered kept
  rwa [place first, place second] at before

theorem idxOf_map (σ : Equiv.Perm Nat) (order : List Nat) (i : Nat) : (order.map σ).idxOf (σ i) = order.idxOf i := by
  induction order with
  | nil => rfl
  | cons k rest ih =>
    have same : (σ k == σ i) = (k == i) := by
      rw [Bool.eq_iff_iff, beq_iff_eq, beq_iff_eq, σ.injective.eq_iff]
    rw [List.map_cons, List.idxOf_cons, List.idxOf_cons, same, ih]

end

namespace Reordered

variable {p q : JoinPlan} {σ : Equiv.Perm Nat} (moved : Reordered p q σ) (well : p.WellFormed)
  (kept : ∀ j k, p.Siblings j k → [j, k].Sublist p.joins → [j, k].Sublist q.joins)
  {edges edges' : List JoinEdge}
include moved well kept

section

variable (found : edgesFrom p.members 1 p.joins = .ok edges) (found' : edgesFrom q.members 1 q.joins = .ok edges')
include found found'

/-- The places below a place are moved in their order if joins that share a parent keep theirs. -/
theorem map_placesBelow (parent : Nat) : (placesBelow edges' parent).map σ = placesBelow edges (σ parent) := by
  have well' := moved.wellFormed well
  have distinct : (q.joins.map (·.member.row.name)).Nodup := by
    have all := well'.distinct
    rw [JoinPlan.members, List.map_cons, List.map_map] at all
    exact (List.nodup_cons.mp all).2
  have below {i : Nat} : i ∈ placesBelow edges' parent ↔ σ i ∈ placesBelow edges (σ parent) :=
    moved.below_iff well found found'
  have ascending : ((placesBelow edges' parent).map σ).Pairwise (· < ·) := by
    rw [List.pairwise_map]
    refine (pairwise_placesBelow edges' parent).imp_of_mem fun {i k} first second before => ?_
    by_contra behind
    have apart : σ i ≠ σ k := fun same => Nat.ne_of_lt before (σ.injective same)
    have hangs := (JoinPlan.below_iff well.refers well.distinct found).mp (below.mp first)
    have hangs' := (JoinPlan.below_iff well.refers well.distinct found).mp (below.mp second)
    obtain ⟨one, j, join, -⟩ := id hangs
    obtain ⟨one', l, join', -⟩ := id hangs'
    -- the second join would stand before the first one in the plan, and so in the other plan
    have swapped := kept l j ⟨σ parent, σ k, σ i, hangs', join', hangs, join⟩
      (sublist_of_lt join' join (by omega))
    rw [← moved.joins i (moved.one_le_iff.mp one)] at join
    rw [← moved.joins k (moved.one_le_iff.mp one')] at join'
    have := lt_of_sublist distinct swapped join' join
    omega
  have same : ((placesBelow edges' parent).map σ).Perm (placesBelow edges (σ parent)) := by
    refine (List.perm_ext_iff_of_nodup (ascending.imp Nat.ne_of_lt) (nodup_placesBelow edges _)).mpr fun i => ?_
    rw [List.mem_map]
    constructor
    · rintro ⟨k, hangs, rfl⟩
      exact below.mp hangs
    · intro hangs
      refine ⟨σ.symm i, below.mpr ?_, σ.apply_symm_apply i⟩
      rwa [Equiv.apply_symm_apply]
  exact same.eq_of_pairwise (fun a b _ _ first second => absurd first (Nat.lt_asymm second)) ascending
    (pairwise_placesBelow edges _)

theorem map_layers (n : Nat) (layer : List Nat) :
    (layers edges' n layer).map σ = layers edges n (layer.map σ) := by
  induction n generalizing layer with
  | zero => rfl
  | succ n ih =>
    rw [layers, layers, List.map_append, ih, List.map_flatMap, List.flatMap_map]
    simp only [moved.map_placesBelow well kept found found']

/-- The walk visits the places in their moved order. -/
theorem map_walkOrder : (walkOrder edges').map σ = walkOrder edges := by
  rw [walkOrder, moved.map_layers well kept found found', moved.length_edges found found', List.map_singleton,
    moved.zero]
  rfl

end

variable {g h : JoinGraph} (walked : p.Walked edges g) (walked' : q.Walked edges' h)
include walked walked'

/-- Places that are numbered in the same order have the same nodes. -/
theorem placeNode_eq {i : Nat} (visited : i ∈ walkOrder edges') : placeNode q edges' i = placeNode p edges (σ i) := by
  have order := moved.map_walkOrder well kept walked.found walked'.found
  have number (k : Nat) : (walkOrder edges').idxOf k = (walkOrder edges).idxOf (σ k) := by
    rw [← order, idxOf_map]
  have edge : (placeNode q edges' i).edge = (placeNode p edges (σ i)).edge := by
    rw [walkOrder_eq] at visited
    rcases List.mem_cons.mp visited with rfl | next
    · rw [moved.zero]
      rfl
    · obtain ⟨parent, -, below⟩ := List.mem_flatMap.mp next
      obtain ⟨e, there, rfl, own⟩ := edge_placeNode (p := q) below
      obtain ⟨e', there', same, own'⟩ :=
        edge_placeNode (p := p) ((moved.below_iff well walked.found walked'.found).mp below)
      cases (moved.edge well walked.found walked'.found (mem_placesBelow.mp below).1 there).symm.trans there'
      rw [own, own', number]
  show JoinNode.mk (placeNode q edges' i).id (placeNode q edges' i).row (placeNode q edges' i).conditions
    (placeNode q edges' i).edge = placeNode p edges (σ i)
  rw [edge, moved.row_placeNode edges, moved.conditions_placeNode edges, id_placeNode, number]
  rfl

theorem graph_eq : h = g := by
  have nodes : h.nodes = g.nodes := by
    rw [walked.nodes, walked'.nodes, ← moved.map_walkOrder well kept walked.found walked'.found, List.map_map]
    exact List.map_congr_left fun i visited => moved.placeNode_eq well kept walked walked' visited
  obtain ⟨root, joined⟩ := List.cons.inj nodes
  show JoinGraph.mk h.root h.joined = JoinGraph.mk g.root g.joined
  rw [root, joined]

end Reordered

/-- Joins may be declared in any order: the plan is built again, and for each node there is one of the same row
type, conditions, parent, kind, link and selection. If joins that share a parent keep their order, the graph is
the same. -/
theorem build_of_perm {p q : JoinPlan} {g : JoinGraph} (root : q.root = p.root) (perm : q.joins.Perm p.joins)
    (done : p.build.result = .ok g) :
    ∃ h, q.build.result = .ok h ∧ (h.nodes.map h.role).Perm (g.nodes.map g.role) ∧
      ((∀ j k, p.Siblings j k → [j, k].Sublist p.joins → [j, k].Sublist q.joins) →
        h = g ∧ q.build = p.build) := by
  rw [result_build] at done
  rw [result_build]
  have well := exists_graph_iff.mp ⟨g, done⟩
  obtain ⟨σ, moved⟩ := exists_reordered root perm
  obtain ⟨h, done'⟩ := exists_graph_iff.mpr (moved.wellFormed well)
  obtain ⟨edges, walked⟩ := walked_of_graph done
  obtain ⟨edges', walked'⟩ := walked_of_graph done'
  refine ⟨h, done', moved.roles_perm done walked walked' done', fun kept => ?_⟩
  obtain rfl := moved.graph_eq well kept walked walked'
  exact ⟨rfl, by rw [build, build, done, done']⟩

/-- Lines of orders with their shipments. It does not matter whether the shipment of the order is joined before or
after the order. -/
theorem build_of_perm_of_shipment :
    let shipment : RowType := ⟨"Shipment", "shipments", [⟨"id", "id", false⟩], "id", none, []⟩
    let order : RowType :=
      ⟨"Order", "orders", [⟨"id", "id", false⟩, ⟨"shipment_id", "shipment_id", true⟩], "id", none,
        [⟨"shipment_id", "shipments"⟩]⟩
    let line : RowType :=
      ⟨"OrderLine", "order_lines", [⟨"id", "id", false⟩, ⟨"order_id", "order_id", false⟩], "id", none,
        [⟨"order_id", "orders"⟩]⟩
    let shipmentOf : Join := ⟨.left, .of (Query.all : Query shipment), .referredBy order "shipment_id"⟩
    let orderOf : Join := ⟨.inner, .of (Query.all : Query order), .referredBy line "order_id"⟩
    let p : JoinPlan := ⟨.of (Query.all : Query line), [shipmentOf, orderOf]⟩
    let q : JoinPlan := ⟨.of (Query.all : Query line), [orderOf, shipmentOf]⟩
    ∃ g, p.build.result = .ok g ∧ q.build = p.build := by
  intro shipment order line shipmentOf orderOf p q
  obtain ⟨g, done⟩ : ∃ g, p.build.result = .ok g :=
    ⟨_, build_eq_ok rfl rfl (by decide +kernel) rfl (by decide) rfl⟩
  obtain ⟨h, -, -, same⟩ := build_of_perm (p := p) (q := q) rfl (.swap shipmentOf orderOf []) done
  refine ⟨g, done, (same fun j k siblings pair => ?_).2⟩
  -- the two joins hang on different members
  have both : [j, k] = [shipmentOf, orderOf] := pair.eq_of_length rfl
  obtain ⟨rfl, rfl⟩ : j = shipmentOf ∧ k = orderOf := by simpa using both
  obtain ⟨parent, i, l, ⟨-, a, first, hangs⟩, join, ⟨-, b, second, hangs'⟩, join'⟩ := siblings
  cases first.symm.trans join
  cases second.symm.trans join'
  obtain ⟨-, m, there, named⟩ := hangs
  obtain ⟨-, m', there', named'⟩ := hangs'
  cases there.symm.trans there'
  exact absurd (named.symm.trans named') (by decide)

end JoinPlan
end Sift
