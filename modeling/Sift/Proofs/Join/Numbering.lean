import Sift.Proofs.RowType
import Sift.Proofs.Join.WellFormed

/-!
# The nodes of a built graph

A built graph has one node for each member of its plan. Nodes are numbered breadth first:
the root first, each node after its parent, the children of an earlier node before those
of a later one, and children of one node in the order of their joins.
-/
namespace Sift

/-- The edge that a join gives to its member: the column that refers, and the identifier of the row that
it refers to. -/
structure Join.Gives (j : Join) (row parent : RowType) (e : JoinEdge) : Prop where
  kind : e.kind = j.kind
  referred : ∀ source column, j.attachment = .referredBy source column → e.link = ⟨column, row.id⟩
  refers : ∀ column, j.attachment = .refersBy column → e.link = ⟨parent.id, column⟩

namespace JoinPlan

/-- The edge of a node goes to the node of the member that its join hangs on. `places` are the places of
the members by the numbers of their nodes. -/
def IsAttached (p : JoinPlan) (places : List Nat) (g : JoinGraph) (n : JoinNode) (e : JoinEdge) : Prop :=
  ∃ i parent j q, places[n.id]? = some i ∧ places[e.parent]? = some parent ∧ p.HasParent i parent ∧
    p.joins[i - 1]? = some j ∧ g.nodes[e.parent]? = some q ∧ j.Gives n.row q.row e

/-- A graph that presents a plan. -/
structure Presents (p : JoinPlan) (places : List Nat) (g : JoinGraph) : Prop where
  once : places.Perm (List.range p.members.length)
  members : List.Forall₂ (fun n i => p.members[i]? = some ⟨n.row, n.conditions⟩) g.nodes places
  numbers : g.nodes.map (·.id) = List.range g.nodes.length
  names : g.nodes.map (·.name) = (List.range g.nodes.length).map fun i => "t" ++ toString i
  root : places.head? = some 0 ∧ g.root.edge = none
  edges : ∀ n ∈ g.joined, ∃ e, n.edge = some e ∧ e.parent < n.id ∧ p.IsAttached places g n e
  breadth : g.joined.Pairwise fun n m => ∀ e f, n.edge = some e → m.edge = some f →
    e.parent < f.parent ∨ e.parent = f.parent ∧ ∀ i k, places[n.id]? = some i → places[m.id]? = some k → i < k

section

variable {p : JoinPlan} {edges : List JoinEdge}

/-- The node of the member at a place. -/
def placeNode (p : JoinPlan) (edges : List JoinEdge) (i : Nat) : JoinNode :=
  nodeAt (walkOrder edges) edges i (p.members.getD i p.root)

theorem nodes_numberedBy (inside : ∀ i ∈ walkOrder edges, i < p.members.length) :
    (p.numberedBy (walkOrder edges) edges).nodes = (walkOrder edges).map (placeNode p edges) := by
  have joined : ∀ order : List Nat, (∀ i ∈ order, i < p.members.length) →
      (order.filterMap fun i => p.members[i]?.map (nodeAt (walkOrder edges) edges i)) =
        order.map (placeNode p edges) := by
    intro order inside
    rw [← List.filterMap_eq_map]
    refine List.filterMap_congr fun i member => ?_
    simp [placeNode, List.getElem?_eq_getElem (inside i member)]
  have split := walkOrder_eq edges
  rw [JoinGraph.nodes, numberedBy, joined _ fun i member => inside i (List.mem_of_mem_drop member)]
  conv => rhs; rw [split]
  conv => lhs; rw [split]
  rfl

theorem joined_numberedBy (inside : ∀ i ∈ walkOrder edges, i < p.members.length) :
    (p.numberedBy (walkOrder edges) edges).joined =
      ((walkOrder edges).flatMap (placesBelow edges)).map (placeNode p edges) := by
  have nodes := nodes_numberedBy inside
  rw [walkOrder_eq edges, List.map_cons, JoinGraph.nodes, ← walkOrder_eq edges] at nodes
  exact (List.cons.inj nodes).2

theorem id_placeNode (i : Nat) : (placeNode p edges i).id = (walkOrder edges).idxOf i := rfl

theorem getElem?_idxOf {order : List Nat} {i : Nat} (member : i ∈ order) : order[order.idxOf i]? = some i := by
  have bound := List.idxOf_lt_length_of_mem member
  rw [List.getElem?_eq_getElem bound, List.getElem_idxOf]

/-- The edge of a place is numbered like the nodes. -/
theorem edge_placeNode {i parent : Nat} (below : i ∈ placesBelow edges parent) :
    ∃ e, edges[i - 1]? = some e ∧ e.parent = parent ∧
      (placeNode p edges i).edge = some { e with parent := (walkOrder edges).idxOf parent } := by
  obtain ⟨first, e, edge, rfl⟩ := mem_placesBelow.mp below
  have other : i ≠ 0 := by omega
  exact ⟨e, edge, rfl, by simp [placeNode, nodeAt, other, edge]⟩

theorem gives_link {j : Join} {row : RowType} {e : JoinEdge} {parent : Nat}
    (same : e = ⟨parent, j.kind, j.link row⟩) (number : Nat) :
    j.Gives j.member.row row { e with parent := number } := by
  subst same
  constructor
  · rfl
  · intro source column attached
    simp [Join.link, attached]
  · intro column attached
    simp [Join.link, attached]

theorem getElem?_members_succ {j : Join} {i : Nat} (below : 1 ≤ i) (join : p.joins[i - 1]? = some j) :
    p.members[i]? = some j.member := by
  obtain ⟨k, rfl⟩ : ∃ k, i = k + 1 := ⟨i - 1, by omega⟩
  rw [Nat.add_sub_cancel] at join
  simp [members, join]

/-- The node of a place is attached to that of the place that its join hangs on. -/
theorem isAttached_placeNode (well : p.WellFormed) (done : edgesFrom p.members 1 p.joins = .ok edges)
    {g : JoinGraph} (nodes : g.nodes = (walkOrder edges).map (placeNode p edges)) {i parent : Nat}
    (visited : parent ∈ walkOrder edges) (below : i ∈ placesBelow edges parent) :
    ∃ e, (placeNode p edges i).edge = some e ∧ e.parent < (placeNode p edges i).id ∧
      p.IsAttached (walkOrder edges) g (placeNode p edges i) e := by
  have here : i ∈ walkOrder edges := by
    rw [walkOrder_eq]
    exact List.mem_cons_of_mem _ (List.mem_flatMap.mpr ⟨parent, visited, below⟩)
  have hangs := (below_iff well.refers well.distinct done).mp below
  obtain ⟨e, edge, rfl, own⟩ := edge_placeNode (p := p) below
  obtain ⟨j, join, place, m, -, there, given⟩ := (edge_iff done hangs.1).mp edge
  have row : (placeNode p edges i).row = j.member.row := by
    simp [placeNode, nodeAt, getElem?_members_succ hangs.1 join]
  have above : (placeNode p edges e.parent).row = m.row := by
    simp [placeNode, nodeAt, given, there]
  refine ⟨_, own, idxOf_parent_lt below here, i, e.parent, j, placeNode p edges e.parent, getElem?_idxOf here,
    getElem?_idxOf visited, hangs, join, ?_, ?_⟩
  · rw [nodes, List.getElem?_map, getElem?_idxOf visited]
    rfl
  · rw [row, above]
    exact gives_link given _

end

/-- A built graph numbers the places of its plan in the order of the walk. -/
structure Walked (p : JoinPlan) (edges : List JoinEdge) (g : JoinGraph) : Prop where
  found : edgesFrom p.members 1 p.joins = .ok edges
  whole : ∀ i < p.members.length, i ∈ walkOrder edges
  inside : ∀ i ∈ walkOrder edges, i < p.members.length
  same : g = p.numberedBy (walkOrder edges) edges

theorem walked_of_graph {p : JoinPlan} {g : JoinGraph} (done : p.graph = .ok g) : ∃ edges, p.Walked edges g := by
  obtain ⟨-, -, -, edges, found, whole, same⟩ := graph_eq_ok_iff.mp done
  rw [← length_edges found] at whole same
  refine ⟨edges, found, fun i bound => whole i (by rwa [length_edges found]), fun i member => ?_, same⟩
  rw [← length_edges found]
  exact List.mem_range.mp (walkOrder_subset edges member)

theorem Walked.nodes {p : JoinPlan} {edges : List JoinEdge} {g : JoinGraph} (walked : p.Walked edges g) :
    g.nodes = (walkOrder edges).map (placeNode p edges) := walked.same ▸ nodes_numberedBy walked.inside

/-- The nodes of a built graph are numbered as they are listed. -/
theorem Walked.numbers {p : JoinPlan} {edges : List JoinEdge} {g : JoinGraph} (walked : p.Walked edges g) :
    g.nodes.map (·.id) = List.range g.nodes.length := by
  rw [walked.nodes, List.map_map, List.length_map]
  refine List.ext_getElem (by simp) fun k first second => ?_
  rw [List.getElem_map, List.getElem_range]
  exact (nodup_walkOrder edges).idxOf_getElem k (by simpa using first)

theorem Walked.joined {p : JoinPlan} {edges : List JoinEdge} {g : JoinGraph} (walked : p.Walked edges g) :
    g.joined = ((walkOrder edges).flatMap (placesBelow edges)).map (placeNode p edges) :=
  walked.same ▸ joined_numberedBy walked.inside

/-- The edges of the nodes of places come in the order of the numbers of their parents, and below one parent in
the order of the places. -/
theorem precedes_placeNode {p : JoinPlan} {edges : List JoinEdge} {i k : Nat}
    (first : i ∈ (walkOrder edges).flatMap (placesBelow edges))
    (second : k ∈ (walkOrder edges).flatMap (placesBelow edges)) (precedes : Precedes edges i k)
    {e f : JoinEdge} (edge : (placeNode p edges i).edge = some e) (edge' : (placeNode p edges k).edge = some f) :
    e.parent < f.parent ∨ e.parent = f.parent ∧ ∀ a b, (walkOrder edges)[(placeNode p edges i).id]? = some a →
      (walkOrder edges)[(placeNode p edges k).id]? = some b → a < b := by
  have visited {i : Nat} (next : i ∈ (walkOrder edges).flatMap (placesBelow edges)) : i ∈ walkOrder edges := by
    rw [walkOrder_eq]
    exact List.mem_cons_of_mem _ next
  obtain ⟨parent, -, below⟩ := List.mem_flatMap.mp first
  obtain ⟨parent', -, below'⟩ := List.mem_flatMap.mp second
  obtain ⟨o, -, -, own⟩ := edge_placeNode (p := p) below
  obtain ⟨o', -, -, own'⟩ := edge_placeNode (p := p) below'
  cases own.symm.trans edge
  cases own'.symm.trans edge'
  refine (precedes parent parent' below below').imp_right ?_
  rintro ⟨rfl, before⟩
  refine ⟨rfl, fun a b place place' => ?_⟩
  rw [id_placeNode, getElem?_idxOf (visited first)] at place
  rw [id_placeNode, getElem?_idxOf (visited second)] at place'
  cases place
  cases place'
  exact before

/-- A built graph presents its plan. -/
theorem presents_of_graph {p : JoinPlan} {g : JoinGraph} (done : p.graph = .ok g) :
    ∃ places, p.Presents places g := by
  have well := exists_graph_iff.mp ⟨g, done⟩
  obtain ⟨edges, walked⟩ := walked_of_graph done
  refine ⟨walkOrder edges, ?_, ?_, walked.numbers, ?_, ⟨?_, walked.same ▸ rfl⟩, ?_, ?_⟩
  · refine (List.perm_ext_iff_of_nodup (nodup_walkOrder edges) List.nodup_range).mpr fun i => ?_
    rw [List.mem_range]
    exact ⟨walked.inside i, walked.whole i⟩
  · rw [walked.nodes, List.forall₂_map_left_iff, List.forall₂_same]
    intro i member
    simp [placeNode, nodeAt, List.getElem?_eq_getElem (walked.inside i member)]
  · rw [← walked.numbers, List.map_map]
    rfl
  · rw [walkOrder_eq]
    rfl
  · intro n member
    rw [walked.joined] at member
    obtain ⟨i, next, rfl⟩ := List.mem_map.mp member
    obtain ⟨parent, visited, below⟩ := List.mem_flatMap.mp next
    exact isAttached_placeNode well walked.found walked.nodes visited below
  · rw [walked.joined, List.pairwise_map]
    exact (pairwise_precedes edges).imp_of_mem fun first second precedes e f edge edge' =>
      precedes_placeNode first second precedes edge edge'

theorem result_build (p : JoinPlan) : p.build.result = p.graph := by
  show (Traced.lift p.graph >>= _).result = _
  rw [Traced.result_bind, Traced.result_lift]
  cases p.graph <;> rfl

/-- A plan whose checks evaluate is built. -/
theorem build_eq_ok {p : JoinPlan} {edges : List JoinEdge} {g : JoinGraph} (joins : p.joins.forM Join.check = .ok ())
    (distinct : checkDistinct [] p.members = .ok ())
    (valid : ∀ m ∈ p.members, m.row.validate.isOk = true ∧ (m.conditions.check m.row).isOk = true)
    (found : edgesFrom p.members 1 p.joins = .ok edges)
    (reached : ∀ i < p.members.length, i ∈ layers edges p.members.length [0])
    (numbered : g = p.numberedBy (layers edges p.members.length [0]) edges) : p.build.result = .ok g := by
  rw [result_build]
  exact graph_eq_ok_iff.mpr ⟨forM_ok_iff.mp joins, distinct,
    fun m member => ⟨ok_of_isOk (valid m member).1, ok_of_isOk (valid m member).2⟩, edges, found, reached, numbered⟩

end JoinPlan

/-! ## Children and selected nodes -/

namespace JoinGraph

/-- A node is joined physically to another one. -/
def JoinsTo (g : JoinGraph) (i parent : Nat) : Prop :=
  ∃ n e, g.nodes[i]? = some n ∧ n.edge = some e ∧ e.kind.isPhysical = true ∧ e.parent = parent

/-- Whether a node is selected, given the numbers of the selected ones before it. -/
def selects (seen : List Nat) (n : JoinNode) : Bool :=
  match n.edge with
  | none => true
  | some e => e.kind.isPhysical && seen.contains e.parent

theorem selectFrom_cons (seen : List Nat) (n : JoinNode) (rest : List JoinNode) :
    selectFrom seen (n :: rest) =
      if selects seen n then n :: selectFrom (n.id :: seen) rest else selectFrom seen rest := rfl

theorem selectFrom_sublist (seen : List Nat) (ns : List JoinNode) : (selectFrom seen ns).Sublist ns := by
  induction ns generalizing seen with
  | nil => exact .refl _
  | cons n ns ih =>
    rw [selectFrom_cons]
    split
    · exact (ih _).cons_cons n
    · exact (ih _).cons n

/-- The selected nodes are nodes of the graph, in the same order. -/
theorem selected_sublist (g : JoinGraph) : g.selected.Sublist g.nodes := selectFrom_sublist [] g.nodes

variable {g : JoinGraph} (numbers : g.nodes.map (·.id) = List.range g.nodes.length)

include numbers

theorem getElem?_nodes_iff {i : Nat} {n : JoinNode} : g.nodes[i]? = some n ↔ n ∈ g.nodes ∧ n.id = i := by
  have id {k : Nat} (bound : k < g.nodes.length) : g.nodes[k].id = k := by
    have same := congrArg (·[k]?) numbers
    simpa [bound] using same
  constructor
  · intro there
    obtain ⟨bound, rfl⟩ := List.getElem?_eq_some_iff.mp there
    exact ⟨List.getElem_mem bound, id bound⟩
  · rintro ⟨member, rfl⟩
    obtain ⟨k, bound, rfl⟩ := List.getElem_of_mem member
    rw [id bound]
    exact List.getElem?_eq_getElem bound

theorem pairwise_nodes : g.nodes.Pairwise fun n m => n.id < m.id := by
  rw [← List.pairwise_map, numbers]
  exact List.pairwise_lt_range

theorem id_of_split {before after : List JoinNode} {n : JoinNode} (split : g.nodes = before ++ n :: after) :
    n.id = before.length :=
  ((getElem?_nodes_iff numbers).mp (by simp [split])).2

theorem id_lt_length {n : JoinNode} (member : n ∈ g.nodes) : n.id < g.nodes.length :=
  (List.getElem?_eq_some_iff.mp ((getElem?_nodes_iff numbers).mpr ⟨member, rfl⟩)).1

/-- The children of a node are listed in ascending order. -/
theorem pairwise_children (i : Nat) : (g.children i).Pairwise (· < ·) := by
  have kept : (g.children i).Sublist (g.nodes.map (·.id)) := List.filter_sublist.map _
  exact List.Pairwise.sublist (numbers ▸ kept) List.pairwise_lt_range

theorem mem_children_iff {i k : Nat} : k ∈ g.children i ↔ ∃ n, g.nodes[k]? = some n ∧ n.parent? = some i := by
  simp only [children, List.mem_map, List.mem_filter, beq_iff_eq, getElem?_nodes_iff numbers]
  constructor
  · rintro ⟨n, ⟨member, parent⟩, id⟩
    exact ⟨n, ⟨member, id⟩, parent⟩
  · rintro ⟨n, ⟨member, id⟩, parent⟩
    exact ⟨n, ⟨member, parent⟩, id⟩

variable (root : g.root.edge = none) (edges : ∀ n ∈ g.joined, ∃ e, n.edge = some e ∧ e.parent < n.id)

include root edges

omit numbers in
theorem parent_lt {n : JoinNode} (member : n ∈ g.nodes) {e : JoinEdge} (edge : n.edge = some e) :
    e.parent < n.id := by
  rcases List.mem_cons.mp member with rfl | joined
  · cases root.symm.trans edge
  · obtain ⟨f, own, above⟩ := edges n joined
    cases own.symm.trans edge
    exact above

theorem joinsTo_root_iff {n : JoinNode} (member : n ∈ g.nodes) :
    Relation.ReflTransGen g.JoinsTo n.id 0 ↔ match n.edge with
      | none => True
      | some e => e.kind.isPhysical = true ∧ Relation.ReflTransGen g.JoinsTo e.parent 0 := by
  have there := (getElem?_nodes_iff numbers).mpr ⟨member, rfl⟩
  rcases List.mem_cons.mp member with rfl | joined
  · have zero : g.root.id = 0 := ((getElem?_nodes_iff numbers (i := 0)).mp rfl).2
    rw [root, zero]
    exact iff_of_true .refl trivial
  · obtain ⟨e, edge, above⟩ := edges n joined
    rw [edge]
    constructor
    · intro path
      rcases path.cases_head with zero | ⟨k, ⟨m, f, here, own, physical, parent⟩, path⟩
      · omega
      · cases there.symm.trans here
        cases edge.symm.trans own
        exact ⟨physical, parent ▸ path⟩
    · rintro ⟨physical, path⟩
      exact .head ⟨n, e, there, edge, physical, rfl⟩ path

/-- Whether a node is selected is decided from those before it. -/
theorem selects_iff {n : JoinNode} (member : n ∈ g.nodes) {seen : List Nat}
    (known : ∀ i, i ∈ seen ↔ i < n.id ∧ Relation.ReflTransGen g.JoinsTo i 0) :
    selects seen n = true ↔ Relation.ReflTransGen g.JoinsTo n.id 0 := by
  rw [joinsTo_root_iff numbers root edges member, selects]
  cases edge : n.edge with
  | none => simp
  | some e => simp [known, parent_lt root edges member edge]

/-- Among the nodes after others, those that are joined physically up to the root are selected. -/
theorem mem_selectFrom_iff {before rest : List JoinNode} (seen : List Nat) (split : g.nodes = before ++ rest)
    (known : ∀ i, i ∈ seen ↔ i < before.length ∧ Relation.ReflTransGen g.JoinsTo i 0) {n : JoinNode} :
    n ∈ selectFrom seen rest ↔ n ∈ rest ∧ Relation.ReflTransGen g.JoinsTo n.id 0 := by
  induction rest generalizing before seen with
  | nil => simp [selectFrom]
  | cons m rest ih =>
    have member : m ∈ g.nodes := split ▸ List.mem_append_right _ List.mem_cons_self
    have id : m.id = before.length := id_of_split numbers split
    have more : g.nodes = (before ++ [m]) ++ rest := by simp [split]
    have decided := selects_iff numbers root edges member (id ▸ known)
    rw [selectFrom_cons, List.mem_cons]
    by_cases chosen : Relation.ReflTransGen g.JoinsTo m.id 0
    · have next := ih (m.id :: seen) more fun i => by
        rw [List.mem_cons, known, List.length_append, List.length_singleton]
        constructor
        · rintro (rfl | ⟨bound, path⟩)
          · exact ⟨by omega, chosen⟩
          · exact ⟨by omega, path⟩
        · rintro ⟨bound, path⟩
          by_cases own : i = m.id
          · exact .inl own
          · exact .inr ⟨by omega, path⟩
      rw [if_pos (decided.mpr chosen), List.mem_cons, next]
      constructor
      · rintro (rfl | ⟨later, path⟩)
        · exact ⟨.inl rfl, chosen⟩
        · exact ⟨.inr later, path⟩
      · rintro ⟨rfl | later, path⟩
        · exact .inl rfl
        · exact .inr ⟨later, path⟩
    · have next := ih seen more fun i => by
        rw [known, List.length_append, List.length_singleton]
        refine ⟨fun ⟨bound, path⟩ => ⟨by omega, path⟩, fun ⟨bound, path⟩ => ⟨?_, path⟩⟩
        by_contra last
        exact chosen ((show i = m.id by omega) ▸ path)
      rw [if_neg (fun h => chosen (decided.mp h)), next]
      refine ⟨fun ⟨later, path⟩ => ⟨.inr later, path⟩, fun ⟨place, path⟩ => ⟨place.resolve_left ?_, path⟩⟩
      rintro rfl
      exact chosen path

theorem mem_selected_iff {n : JoinNode} :
    n ∈ g.selected ↔ n ∈ g.nodes ∧ Relation.ReflTransGen g.JoinsTo n.id 0 :=
  mem_selectFrom_iff numbers root edges [] (List.nil_append g.nodes).symm fun i => by simp

/-- The root is selected, and so are the nodes that are joined physically to a selected one. -/
theorem isSelected_iff {i : Nat} :
    g.isSelected i = true ↔ i < g.nodes.length ∧ Relation.ReflTransGen g.JoinsTo i 0 := by
  rw [isSelected, List.any_eq_true]
  constructor
  · rintro ⟨n, member, same⟩
    obtain ⟨there, path⟩ := (mem_selected_iff numbers root edges).mp member
    have bound := id_lt_length numbers there
    rw [beq_iff_eq.mp same] at bound path
    exact ⟨bound, path⟩
  · rintro ⟨bound, path⟩
    obtain ⟨there, id⟩ := (getElem?_nodes_iff numbers).mp (List.getElem?_eq_getElem bound)
    exact ⟨_, (mem_selected_iff numbers root edges).mpr ⟨there, by rwa [id]⟩, beq_iff_eq.mpr id⟩

end JoinGraph

namespace JoinPlan

/-- Every node below the root hangs on an earlier one. -/
theorem Presents.edge_lt {p : JoinPlan} {places : List Nat} {g : JoinGraph} (presents : p.Presents places g) :
    ∀ n ∈ g.joined, ∃ e, n.edge = some e ∧ e.parent < n.id := fun n member => by
  obtain ⟨e, edge, above, -⟩ := presents.edges n member
  exact ⟨e, edge, above⟩

/-- The nodes of a graph that presents a plan have different numbers and come after those they hang on. -/
theorem Presents.numbered {p : JoinPlan} {places : List Nat} {g : JoinGraph} (presents : p.Presents places g) :
    g.Numbered where
  distinct := presents.numbers ▸ List.nodup_range
  parent before n after split := by
    have numbers {i : Nat} {n : JoinNode} := JoinGraph.getElem?_nodes_iff presents.numbers (i := i) (n := n)
    obtain ⟨e, edge, above, -⟩ := presents.edges n (split ▸ List.mem_append_right _ List.mem_cons_self)
    have whole : g.nodes = (g.root :: before) ++ n :: after := by
      rw [JoinGraph.nodes, split]
      rfl
    have id : n.id = before.length + 1 := (numbers.mp (by simp [whole])).2
    have bound : e.parent < (g.root :: before).length := by
      rw [List.length_cons]
      omega
    have there : g.nodes[e.parent]? = some (g.root :: before)[e.parent] := by
      rw [whole, List.getElem?_append_left bound, List.getElem?_eq_getElem bound]
    refine ⟨_, List.getElem_mem bound, ?_⟩
    rw [JoinNode.parent?, edge, (numbers.mp there).2]
    rfl

theorem numbered_of_graph {p : JoinPlan} {g : JoinGraph} (done : p.graph = .ok g) : g.Numbered := by
  obtain ⟨places, presents⟩ := presents_of_graph done
  exact presents.numbered

/-- The root of a built graph hangs on nothing. -/
theorem edge_root_of_graph {p : JoinPlan} {g : JoinGraph} (done : p.graph = .ok g) : g.root.edge = none := by
  obtain ⟨places, presents⟩ := presents_of_graph done
  exact presents.root.2

end JoinPlan

/-! ## Declared columns -/

/-- The names of a node need no quotes. -/
structure JoinNode.Checked (n : JoinNode) : Prop where
  row : n.row.Valid
  conditions : n.conditions.check n.row = .ok ()
  link : ∀ e, n.edge = some e → Identifier.isPlain e.link.parent = true ∧ Identifier.isPlain e.link.child = true

namespace JoinPlan

/-- Row types of one name are the same: the source of a join is the row type of the member with its
name. -/
def NamesRows (p : JoinPlan) : Prop :=
  ∀ j ∈ p.joins, ∀ source column, j.attachment = .referredBy source column →
    ∀ m ∈ p.members, m.row.name = source.name → m.row = source

/-- The columns of a node are declared: those that it restricts, and those that link it to its parent. -/
structure Declares (g : JoinGraph) (n : JoinNode) : Prop where
  row : n.row.Valid
  conditions : ∀ f ∈ n.conditions.fields, n.row.hasColumn f.1 = true
  link : ∀ e, n.edge = some e → n.row.hasColumn e.link.child = true ∧
    ∃ q, g.nodes[e.parent]? = some q ∧ q.row.hasColumn e.link.parent = true

theorem Presents.member {p : JoinPlan} {places : List Nat} {g : JoinGraph} (presents : p.Presents places g)
    {n : JoinNode} {k i : Nat} (there : g.nodes[k]? = some n) (place : places[k]? = some i) :
    p.members[i]? = some ⟨n.row, n.conditions⟩ := by
  obtain ⟨bound, rfl⟩ := List.getElem?_eq_some_iff.mp there
  obtain ⟨bound', rfl⟩ := List.getElem?_eq_some_iff.mp place
  exact presents.members.get bound bound'

theorem Presents.mem_members {p : JoinPlan} {places : List Nat} {g : JoinGraph} (presents : p.Presents places g)
    {n : JoinNode} (member : n ∈ g.nodes) : ⟨n.row, n.conditions⟩ ∈ p.members := by
  obtain ⟨k, bound, rfl⟩ := List.getElem_of_mem member
  have there : places[k]? = some _ := List.getElem?_eq_getElem (presents.members.length_eq ▸ bound)
  exact List.mem_of_getElem? (presents.member (List.getElem?_eq_getElem bound) there)

/-- The linked columns of a join are declared by the rows of its two members. -/
theorem Join.Gives.declares {j : Join} {members : List JoinMember} {child parent : Nat} {row : RowType}
    {m : JoinMember} {e : JoinEdge} (gives : j.Gives row m.row e) (refers : j.Refers)
    (own : j.member.row = row) (hangs : j.HangsOn members child parent) (there : members[parent]? = some m)
    (valid : row.Valid) (above : m.row.Valid)
    (named : ∀ source column, j.attachment = .referredBy source column → m.row.name = source.name → m.row = source) :
    row.hasColumn e.link.child = true ∧ m.row.hasColumn e.link.parent = true := by
  subst own
  rw [Join.Refers] at refers
  cases attached : j.attachment with
  | referredBy source column =>
    rw [Join.HangsOn] at hangs
    simp only [attached] at refers hangs
    obtain ⟨f, declared, -⟩ := refers
    obtain ⟨-, m', there', name⟩ := hangs
    rw [there] at there'
    cases there'
    have same := named source column attached name
    rw [gives.referred source column attached]
    exact ⟨valid.id, same ▸ (same ▸ above : source.Valid).hasColumn_of_reference declared⟩
  | refersBy column =>
    simp only [attached] at refers
    obtain ⟨f, declared⟩ := refers
    rw [gives.refers column attached]
    exact ⟨valid.hasColumn_of_reference declared, above.id⟩

/-- The columns of all nodes of a built graph are declared. -/
theorem declares_of_graph {p : JoinPlan} {g : JoinGraph} (named : p.NamesRows) (done : p.graph = .ok g) :
    ∀ n ∈ g.nodes, Declares g n := by
  have well := exists_graph_iff.mp ⟨g, done⟩
  obtain ⟨places, presents⟩ := presents_of_graph done
  have valid {m : JoinMember} (member : m ∈ p.members) : m.row.Valid := RowType.valid_of_validate (well.valid m member)
  intro n member
  have inside := presents.mem_members member
  refine ⟨valid inside, well.declared _ inside, fun e edge => ?_⟩
  rcases List.mem_cons.mp member with rfl | joined
  · cases presents.root.2.symm.trans edge
  · obtain ⟨e', edge', -, i, parent, j, q, place, above, hangs, join, there, gives⟩ := presents.edges n joined
    cases edge.symm.trans edge'
    have own := presents.member ((JoinGraph.getElem?_nodes_iff presents.numbers).mpr ⟨member, rfl⟩) place
    have other := presents.member there above
    obtain ⟨below, j', join', hangs⟩ := hangs
    cases join.symm.trans join'
    rw [getElem?_members_succ below join] at own
    have child : j.member.row = n.row := congrArg JoinMember.row (Option.some.inj own)
    obtain ⟨first, second⟩ := Join.Gives.declares (m := ⟨q.row, q.conditions⟩) gives
      (well.refers j (List.mem_of_getElem? join)) child hangs other (valid inside)
      (valid (List.mem_of_getElem? other)) fun source column attached name =>
        named j (List.mem_of_getElem? join) source column attached _ (List.mem_of_getElem? other) name
    exact ⟨first, q, there, second⟩

/-- The names of all nodes of a built graph need no quotes. -/
theorem checked_of_graph {p : JoinPlan} {g : JoinGraph} (named : p.NamesRows) (done : p.graph = .ok g) :
    ∀ n ∈ g.nodes, n.Checked := by
  intro n member
  have declares := declares_of_graph named done n member
  refine ⟨declares.row, check_conditions_iff.mpr declares.conditions, fun e edge => ?_⟩
  obtain ⟨child, q, there, parent⟩ := declares.link e edge
  exact ⟨(declares_of_graph named done q (List.mem_of_getElem? there)).row.isPlain parent, declares.row.isPlain child⟩

end JoinPlan

/-! ## Built graphs -/

/-- Exactly the well-formed plans are built. Walking their edges ends, and a built graph presents its plan:
it knows its children and which of its nodes are selected. -/
theorem JoinPlan.build_iff_wellFormed (p : JoinPlan) :
    ((∃ g, p.build.result = .ok g) ↔ p.WellFormed) ∧
      (∀ edges, edgesFrom p.members 1 p.joins = .ok edges → Walk edges [0] (layers edges p.members.length [0])) ∧
      ∀ g, p.build.result = .ok g →
        (∃ places, p.Presents places g) ∧
        (∀ i, (g.children i).Pairwise (· < ·)) ∧
        (∀ i k, k ∈ g.children i ↔ ∃ n, g.nodes[k]? = some n ∧ n.parent? = some i) ∧
        ∀ i, g.isSelected i = true ↔ i < g.nodes.length ∧ Relation.ReflTransGen g.JoinsTo i 0 := by
  rw [result_build]
  refine ⟨exists_graph_iff, fun edges found => ?_, fun g done => ?_⟩
  · rw [← length_edges found]
    exact walk_walkOrder edges
  · obtain ⟨places, presents⟩ := presents_of_graph done
    have edges : ∀ n ∈ g.joined, ∃ e, n.edge = some e ∧ e.parent < n.id := fun n member => by
      obtain ⟨e, edge, above, -⟩ := presents.edges n member
      exact ⟨e, edge, above⟩
    exact ⟨⟨places, presents⟩, JoinGraph.pairwise_children presents.numbers,
      fun i k => JoinGraph.mem_children_iff presents.numbers,
      fun i => JoinGraph.isSelected_iff presents.numbers presents.root.2 edges⟩

/-- Lines of orders, the shipment of the order being joined before the order itself. -/
theorem JoinPlan.build_iff_wellFormed_of_shipment :
    let shipment : RowType := ⟨"Shipment", "shipments", [⟨"id", "id", false⟩], "id", none, []⟩
    let order : RowType :=
      ⟨"Order", "orders", [⟨"id", "id", false⟩, ⟨"shipment_id", "shipment_id", true⟩], "id", none,
        [⟨"shipment_id", "shipments"⟩]⟩
    let line : RowType :=
      ⟨"OrderLine", "order_lines", [⟨"id", "id", false⟩, ⟨"order_id", "order_id", false⟩], "id", none,
        [⟨"order_id", "orders"⟩]⟩
    let p := ((JoinPlan.of (Query.all : Query line)).join .left (⟨"shipment_id"⟩ : Field order)
      (Query.all : Query shipment)).join .inner (⟨"order_id"⟩ : Field line) (Query.all : Query order)
    let g : JoinGraph :=
      ⟨⟨0, line, .empty, none⟩, [⟨1, order, .empty, some ⟨0, .inner, ⟨"order_id", "id"⟩⟩⟩,
        ⟨2, shipment, .empty, some ⟨1, .left, ⟨"shipment_id", "id"⟩⟩⟩]⟩
    p.build.result = .ok g ∧ p.WellFormed ∧ (∃ places, p.Presents places g) ∧ 2 ∈ g.children 1 ∧
      Relation.ReflTransGen g.JoinsTo 2 0 := by
  intro shipment order line p g
  have valid : ∀ m ∈ p.members, m.row.validate = .ok () ∧ m.conditions.check m.row = .ok () := by
    have all : ∀ m ∈ p.members, m.row.validate.isOk = true ∧ (m.conditions.check m.row).isOk = true := by
      decide +kernel
    exact fun m member => ⟨ok_of_isOk (all m member).1, ok_of_isOk (all m member).2⟩
  have done : p.build.result = .ok g := by
    rw [result_build]
    exact graph_eq_ok_iff.mpr ⟨forM_ok_iff.mp rfl, rfl, valid, _, rfl, by decide, rfl⟩
  obtain ⟨wellFormed, -, built⟩ := p.build_iff_wellFormed
  obtain ⟨presents, -, children, selected⟩ := built g done
  exact ⟨done, wellFormed.mp ⟨g, done⟩, presents, (children 1 2).mpr ⟨_, rfl, rfl⟩,
    ((selected 2).mp (by decide)).2⟩

end Sift
