import Sift.Proofs.Join.WellFormed
import Sift.Proofs.Restriction.Form
import Sift.Statement.Joined

/-!
# Forms of join graphs

The form of a plan or a graph is what is left of it without the values of its
conditions. Plans of one form become graphs of one form. Graphs of one form select
from tables joined in one way, unless a subtree that must not have rows is left out of
one selection and not of the other.
-/
namespace Sift

def JoinMember.form (m : JoinMember) : JoinMember := { m with conditions := m.conditions.form }

def Join.form (j : Join) : Join := { j with member := j.member.form }

/-- A plan without the values of its queries. -/
def JoinPlan.form (p : JoinPlan) : JoinPlan := ⟨p.root.form, p.joins.map Join.form⟩

def JoinNode.form (n : JoinNode) : JoinNode := { n with conditions := n.conditions.form }

theorem JoinNode.form_eq_iff {n m : JoinNode} : n.form = m.form ↔
    n.id = m.id ∧ n.row = m.row ∧ n.conditions.form = m.conditions.form ∧ n.edge = m.edge := by
  rw [form, form, JoinNode.mk.injEq]

/-- A graph without the values of its queries. -/
def JoinGraph.form (g : JoinGraph) : JoinGraph := ⟨g.root.form, g.joined.map JoinNode.form⟩

/-! ## Plans -/

theorem Join.parentAmong_form (j : Join) (members : List JoinMember) (child : Nat) :
    j.form.parentAmong (members.map JoinMember.form) child = j.parentAmong members child := by
  have named (name : String) :
      ((members.map JoinMember.form).findIdx? fun m => m.row.name == name) =
        members.findIdx? fun m => m.row.name == name := List.findIdx?_map
  have table (i : Nat) :
      (members.map JoinMember.form)[i]?.map (·.row.table) = members[i]?.map (·.row.table) := by
    rw [List.getElem?_map, Option.map_map]
    rfl
  simp only [parentAmong, table, named, List.length_map]
  rfl

namespace JoinPlan

theorem members_form (p : JoinPlan) : p.form.members = p.members.map JoinMember.form := by
  simp only [members, form, List.map_cons, List.map_map]
  rfl

theorem edgesFrom_form (members : List JoinMember) (place : Nat) (joins : List Join) :
    edgesFrom (members.map JoinMember.form) place (joins.map Join.form) = edgesFrom members place joins := by
  induction joins generalizing place with
  | nil => rfl
  | cons j joins ih =>
    rw [List.map_cons, edgesFrom, edgesFrom, ih, j.parentAmong_form]
    refine bind_congr fun parent => bind_congr fun edges => ?_
    rw [List.getElem?_map]
    cases members[parent]? <;> rfl

theorem form_numberedBy (p : JoinPlan) (order : List Nat) (edges : List JoinEdge) :
    (p.numberedBy order edges).form = p.form.numberedBy order edges := by
  have nodes : ((order.drop 1).filterMap fun i => p.members[i]?.map (nodeAt order edges i)).map JoinNode.form =
      (order.drop 1).filterMap fun i => p.form.members[i]?.map (nodeAt order edges i) := by
    rw [List.map_filterMap]
    refine List.filterMap_congr fun i _ => ?_
    rw [members_form, List.getElem?_map, Option.map_map, Option.map_map]
    rfl
  rw [numberedBy, JoinGraph.form, nodes]
  rfl

/-- Plans of one form become graphs of one form. -/
theorem form_graph {p q : JoinPlan} (same : p.form = q.form) {g h : JoinGraph} (done : p.graph = .ok g)
    (done' : q.graph = .ok h) : g.form = h.form := by
  obtain ⟨-, -, -, edges, found, -, rfl⟩ := graph_eq_ok_iff.mp done
  obtain ⟨-, -, -, edges', found', -, rfl⟩ := graph_eq_ok_iff.mp done'
  have whole (p : JoinPlan) : edgesFrom p.members 1 p.joins = edgesFrom p.form.members 1 p.form.joins := by
    rw [members_form]
    exact (edgesFrom_form p.members 1 p.joins).symm
  have edges : edges = edges' := by
    rw [whole, same, ← whole, found'] at found
    exact (Except.ok.inj found).symm
  have length : p.members.length = q.members.length := by
    simpa [members_form] using congrArg (·.members.length) same
  rw [form_numberedBy, form_numberedBy, same, edges, length]

end JoinPlan

/-! ## Placed tables -/

namespace Placed

def form (p : Placed) : Placed := ⟨p.node.form, p.group, p.conditions.map Condition.form⟩

theorem form_joinInner (s : Source) (p : Placed) : (joinInner s p).form = joinInner s.form p.form := by
  rw [joinInner, joinInner, show p.form.node.edge = p.node.edge from rfl]
  cases p.node.edge <;> rfl

theorem form_foldl_joinInner (s : Source) (ps : List Placed) :
    (ps.foldl joinInner s).form = (ps.map form).foldl joinInner s.form := by
  induction ps generalizing s with
  | nil => rfl
  | cons p ps ih => rw [List.foldl_cons, ih, form_joinInner, List.map_cons, List.foldl_cons]

theorem map_conditions (ps : List Placed) :
    (ps.flatMap (·.conditions)).map Condition.form = (ps.map form).flatMap (·.conditions) := by
  rw [List.map_flatMap, List.flatMap_map]
  rfl

theorem form_attach (all : List Placed) (s : Source) (p : Placed) :
    (attach all s p).form = attach (all.map form) s.form p.form := by
  rw [attach, attach, show p.form.node.edge = p.node.edge from rfl]
  cases p.node.edge with
  | none => rfl
  | some e =>
    dsimp only
    cases e.kind with
    | inner =>
      rw [apply_ite Source.form, form_joinInner]
      rfl
    | left =>
      rw [Source.form, form_foldl_joinInner, Condition.formAll_eq, map_conditions, List.filter_map, List.filter_map]
      rfl
    | semi => rfl
    | anti => rfl

theorem form_selection (top : Placed) (rest : List Placed) :
    (selection top rest).form = selection top.form (rest.map form) := by
  have source (all : List Placed) (s : Source) :
      (rest.foldl (attach all) s).form = (rest.map form).foldl (attach (all.map form)) s.form := by
    induction rest generalizing s with
    | nil => rfl
    | cons p ps ih => rw [List.foldl_cons, ih, form_attach, List.map_cons, List.foldl_cons]
  rw [selection, Selection.form, source, map_conditions, selection, ← List.map_cons, List.filter_map]
  rfl

end Placed

theorem map_mergeLayers {α β : Type} (f : α → β) : ∀ xs ys : List (List α),
    (mergeLayers xs ys).map (List.map f) = mergeLayers (xs.map (List.map f)) (ys.map (List.map f))
  | [], ys => rfl
  | x :: xs, [] => rfl
  | x :: xs, y :: ys => by
    rw [mergeLayers, List.map_cons, map_mergeLayers f xs ys, List.map_append]
    rfl

/-! ## Trees -/

namespace JoinTree

mutual

/-- A tree without the values of its queries. -/
def form : JoinTree → JoinTree
  | node n children => node n.form (formAll children)
termination_by structural t => t

def formAll : List JoinTree → List JoinTree
  | [] => []
  | t :: ts => t.form :: formAll ts
termination_by structural ts => ts

end

theorem formAll_eq (ts : List JoinTree) : formAll ts = ts.map form := by
  induction ts with
  | nil => rfl
  | cons t ts ih => rw [formAll, ih, List.map_cons]

theorem top_form (t : JoinTree) : t.form.top = t.top.form := by
  cases t
  rfl

theorem hasParent_form (id : Nat) (t : JoinTree) : t.form.hasParent id = t.hasParent id := by
  rw [hasParent, top_form]
  rfl

theorem form_grow (ns : List JoinNode) : (grow ns).map form = grow (ns.map JoinNode.form) := by
  have filter (id : Nat) (ts : List JoinTree) (keep : Bool → Bool) :
      (ts.filter fun t => keep (t.hasParent id)).map form = (ts.map form).filter fun t => keep (t.hasParent id) := by
    rw [List.filter_map]
    simp only [Function.comp_def, hasParent_form]
  induction ns with
  | nil => rfl
  | cons n ns ih =>
    rw [grow, List.map_cons, List.map_cons, grow, ← ih]
    exact congrArg₂ List.cons (by rw [form, formAll_eq]; exact congrArg _ (filter n.id _ id)) (filter n.id _ not)

mutual

/-- Two trees of one form. Of the subtrees that must not have rows, the same ones are predicted to have
none. -/
def Alike : JoinTree → JoinTree → Prop
  | node n ts, node n' ts' => n.form = n'.form ∧ AllAlike ts ts'
termination_by structural t => t

def AllAlike : List JoinTree → List JoinTree → Prop
  | [], [] => True
  | t :: ts, t' :: ts' =>
    t.Alike t' ∧ (t.top.kind? = some .anti → t.predictsEmpty = t'.predictsEmpty) ∧ AllAlike ts ts'
  | _, _ => False
termination_by structural ts => ts

end

theorem Alike.top {t u : JoinTree} (alike : t.Alike u) : t.top.form = u.top.form := by
  obtain ⟨n, ts⟩ := t
  obtain ⟨n', ts'⟩ := u
  exact alike.1

/-- Trees agree on the subtrees of a number that must not have rows. -/
def AgreeOn (ts us : List JoinTree) : Prop :=
  ∀ t ∈ ts, ∀ u ∈ us, t.top.id = u.top.id → t.top.kind? = some .anti → t.predictsEmpty = u.predictsEmpty

mutual

theorem alike_of_form : ∀ {t u : JoinTree}, t.form = u.form → AgreeOn t.subtrees u.subtrees → t.Alike u
  | node n ts, node n' us, same, agree => by
    rw [form, form, node.injEq] at same
    refine ⟨same.1, allAlike_of_form same.2 fun t member u member' => ?_⟩
    exact agree t (List.mem_cons_of_mem _ member) u (List.mem_cons_of_mem _ member')

theorem allAlike_of_form : ∀ {ts us : List JoinTree}, formAll ts = formAll us →
    AgreeOn (subtreesOf ts) (subtreesOf us) → AllAlike ts us
  | [], [], _, _ => trivial
  | t :: ts, u :: us, same, agree => by
    obtain ⟨first, rest⟩ := List.cons.inj same
    have top : t.top.form = u.top.form := by rw [← top_form, first, top_form]
    refine ⟨alike_of_form first fun v member w member' => ?_, ?_, allAlike_of_form rest fun v member w member' => ?_⟩
    · exact agree v (List.mem_append_left _ member) w (List.mem_append_left _ member')
    · refine agree t (mem_subtreesOf List.mem_cons_self) u (mem_subtreesOf List.mem_cons_self) ?_
      exact (JoinNode.form_eq_iff.mp top).1
    · exact agree v (List.mem_append_right _ member) w (List.mem_append_right _ member')
  | [], _ :: _, same, _ => by cases same
  | _ :: _, [], same, _ => by cases same

end

/-! ## Selections of trees -/

theorem form_selection_of {t u : JoinTree} (top : (t.placed none).form = (u.placed none).form)
    (below : (t.layersBelow none).map (List.map Placed.form) = (u.layersBelow none).map (List.map Placed.form)) :
    t.selection.form = u.selection.form := by
  rw [selection, selection, Placed.form_selection, Placed.form_selection, top, tables, tables, List.map_flatten,
    below, List.map_flatten]

mutual

theorem form_placed (group : Option Nat) : ∀ {t u : JoinTree}, t.Alike u →
    (t.placed group).form = (u.placed group).form
  | node n ts, node n' us, ⟨same, alike⟩ => by
    obtain ⟨id, row, conditions, -⟩ := JoinNode.form_eq_iff.mp same
    have own : n.ownConditions.map Condition.form = n'.ownConditions.map Condition.form := by
      rw [JoinNode.ownConditions, JoinNode.ownConditions, row, JoinNode.name, id]
      exact Conditions.form_compile_of_form conditions n'.row (some n'.name)
    rw [placed, placed, Placed.form, Placed.form, same, List.map_append, List.map_append, own,
      form_subqueries alike]
termination_by structural t => t

theorem form_layersBelow (group : Option Nat) : ∀ {t u : JoinTree}, t.Alike u →
    (t.layersBelow group).map (List.map Placed.form) = (u.layersBelow group).map (List.map Placed.form)
  | node _ _, node _ _, ⟨_, alike⟩ => form_layersOf group alike
termination_by structural t => t

theorem form_layersOf (group : Option Nat) : ∀ {ts us : List JoinTree}, AllAlike ts us →
    (layersOf group ts).map (List.map Placed.form) = (layersOf group us).map (List.map Placed.form)
  | [], [], _ => rfl
  | t :: ts, u :: us, ⟨first, _, rest⟩ => by
    obtain ⟨id, -, -, edge⟩ := JoinNode.form_eq_iff.mp first.top
    rw [layersOf, layersOf, map_mergeLayers, map_mergeLayers, form_layersOf group rest, JoinNode.kind?,
      JoinNode.kind?, edge, id]
    congr 1
    split
    · exact congrArg₂ (fun p layers => [p] :: layers) (form_placed _ first) (form_layersBelow _ first)
    · exact congrArg₂ (fun p layers => [p] :: layers) (form_placed _ first) (form_layersBelow _ first)
    · rfl
termination_by structural t => t

theorem form_subqueries : ∀ {ts us : List JoinTree}, AllAlike ts us →
    (subqueries ts).map Condition.form = (subqueries us).map Condition.form
  | [], [], _ => rfl
  | t :: ts, u :: us, ⟨first, agree, rest⟩ => by
    obtain ⟨id, -, -, edge⟩ := JoinNode.form_eq_iff.mp first.top
    obtain ⟨source, conditions⟩ :=
      Selection.mk.inj (form_selection_of (form_placed none first) (form_layersBelow none first))
    rw [subqueries, subqueries, List.map_append, List.map_append, form_subqueries rest, edge]
    congr 1
    cases up : u.top.edge with
    | none => rfl
    | some e =>
      have subquery (negated : Bool) :
          (Condition.subquery negated t.selection.source (t.top.linkBy e) t.selection.conditions).form =
            (Condition.subquery negated u.selection.source (u.top.linkBy e) u.selection.conditions).form := by
        rw [Condition.form, Condition.form, Condition.formAll_eq, Condition.formAll_eq, source, conditions,
          JoinNode.linkBy, JoinNode.linkBy, JoinNode.name, JoinNode.name, id]
      dsimp only
      cases kind : e.kind with
      | inner => rfl
      | left => rfl
      | semi => exact congrArg (fun c => [c]) (subquery false)
      | anti =>
        rw [agree (by rw [JoinNode.kind?, edge, up, Option.map_some, kind])]
        cases u.predictsEmpty with
        | true => rfl
        | false => exact congrArg (fun c => [c]) (subquery true)
termination_by structural t => t

end

theorem form_selection {t u : JoinTree} (alike : t.Alike u) : t.selection.form = u.selection.form :=
  form_selection_of (form_placed none alike) (form_layersBelow none alike)

theorem form_tables {t u : JoinTree} (alike : t.Alike u) :
    t.tables.map Placed.form = u.tables.map Placed.form := by
  rw [tables, tables, List.map_flatten, form_layersBelow none alike, List.map_flatten]

end JoinTree

/-! ## Graphs -/

namespace JoinGraph

theorem form_tree (g : JoinGraph) : g.tree.form = g.form.tree := by
  have children (ts : List JoinTree) :
      (ts.filter (JoinTree.hasParent g.root.id)).map JoinTree.form =
        (ts.map JoinTree.form).filter (JoinTree.hasParent g.root.id) := by
    rw [List.filter_map]
    congr 2
    funext t
    exact (JoinTree.hasParent_form g.root.id t).symm
  rw [tree, JoinTree.form, JoinTree.formAll_eq, children, JoinTree.form_grow]
  rfl

/-- Graphs agree on the nodes that must not have rows: which of them are predicted to have none. -/
def AgreesWith (g h : JoinGraph) : Prop := JoinTree.AgreeOn g.tree.subtrees h.tree.subtrees

theorem alike_tree {g h : JoinGraph} (same : g.form = h.form) (agree : g.AgreesWith h) : g.tree.Alike h.tree :=
  JoinTree.alike_of_form (by rw [form_tree, form_tree, same]) agree

theorem hasInnerJoin_form {g h : JoinGraph} (alike : g.tree.Alike h.tree) : g.hasInnerJoin = h.hasInnerJoin := by
  have whole (g : JoinGraph) : g.hasInnerJoin = (g.tree.tables.map Placed.form).any fun p => !p.isOuter := by
    rw [hasInnerJoin, List.any_map]
    rfl
  rw [whole, whole, JoinTree.form_tables alike]

theorem selected_form (g : JoinGraph) : g.form.selected = g.selected.map JoinNode.form := by
  have from_ (seen : List Nat) (ns : List JoinNode) :
      selectFrom seen (ns.map JoinNode.form) = (selectFrom seen ns).map JoinNode.form := by
    induction ns generalizing seen with
    | nil => rfl
    | cons n ns ih =>
      rw [List.map_cons, selectFrom, selectFrom, ih, ih, apply_ite (List.map JoinNode.form)]
      rfl
  exact from_ [] g.nodes

theorem columnList_form (g : JoinGraph) : g.form.columnList = g.columnList := by
  rw [columnList, columnList, selected_form, List.flatMap_map]
  rfl

theorem orderName_form (g : JoinGraph) : g.form.orderName = g.orderName := by
  funext i
  have same : (fun n : JoinNode => n.row.table == i.table) ∘ JoinNode.form = fun n => n.row.table == i.table := rfl
  rw [orderName, orderName, selected_form, List.find?_map, same]
  cases g.selected.find? fun n => n.row.table == i.table <;> rfl

end JoinGraph
end Sift
