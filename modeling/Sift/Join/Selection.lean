import Sift.Join.Graph
import Sift.Restriction.Condition

/-!
# Join graphs as selections

Nodes that are joined physically become tables of the source, in the order of their
numbers; the others become subqueries. Conditions of a node that an outer join may
leave without a row belong to that join: they decide which row is attached, never
whether the parent's row is returned. Inner joins below an outer one are nested in
it, so that a missing partner drops the attached group and not the parent's row.
-/
namespace Sift

/-- A table of a source. `group` is the number of the outer join that it belongs to, and the
conditions are those of its node with the subqueries below. -/
structure Placed where
  node : JoinNode
  group : Option Nat
  conditions : List Condition

namespace JoinNode

def tableRef (n : JoinNode) : TableRef := ⟨n.row.table, some n.name⟩

/-- The equality of an edge of the node. -/
def linkBy (n : JoinNode) (e : JoinEdge) : Link :=
  ⟨⟨some (tableName e.parent), e.link.parent⟩, ⟨some n.name, e.link.child⟩⟩

/-- The conditions on the columns of the node. -/
def ownConditions (n : JoinNode) : List Condition := n.conditions.compile n.row (some n.name)

end JoinNode

namespace Placed

def isOuter (p : Placed) : Bool := p.group.isSome

/-- Joins a table whose partners are required. -/
def joinInner (s : Source) (p : Placed) : Source :=
  match p.node.edge with
  | some e => .join false s (.table p.node.tableRef) (p.node.linkBy e) []
  | none => s

/-- Joins a table that has its place in the source: an inner join of no outer group, or an outer
join with the inner joins and the conditions of its group. `all` are the tables of the source. -/
def attach (all : List Placed) (s : Source) (p : Placed) : Source :=
  match p.node.edge with
  | some e =>
    match e.kind with
    | .inner => if p.isOuter then s else joinInner s p
    | .left =>
      let group := all.filter fun m => m.group == some p.node.id
      let nested := group.filter fun m => m.node.kind? == some .inner
      .join true s (nested.foldl joinInner (.table p.node.tableRef)) (p.node.linkBy e)
        (group.flatMap (·.conditions))
    | _ => s
  | none => s

/-- The selection of a table and the tables joined to it. -/
def selection (top : Placed) (rest : List Placed) : Selection :=
  ⟨rest.foldl (attach rest) (.table top.node.tableRef),
    ((top :: rest).filter fun p => !p.isOuter).flatMap (·.conditions)⟩

end Placed

/-- Lists of layers, layer by layer. -/
def mergeLayers {α : Type} : List (List α) → List (List α) → List (List α)
  | [], ys => ys
  | xs, [] => xs
  | x :: xs, y :: ys => (x ++ y) :: mergeLayers xs ys

namespace JoinTree

mutual

/-- The top of a tree as a table of a source. -/
def placed (group : Option Nat) : JoinTree → Placed
  | node n children => ⟨n, group, n.ownConditions ++ subqueries children⟩
termination_by structural t => t

/-- The tables joined below the top of a tree, by their distance from it. -/
def layersBelow (group : Option Nat) : JoinTree → List (List Placed)
  | node _ children => layersOf group children
termination_by structural t => t

/-- The tables of the trees that are joined physically. An outer join starts a group. -/
def layersOf (group : Option Nat) : List JoinTree → List (List Placed)
  | [] => []
  | t :: ts =>
    let own :=
      match t.top.kind? with
      | some .inner => [t.placed group] :: t.layersBelow group
      | some .left => [t.placed (some t.top.id)] :: t.layersBelow (some t.top.id)
      | _ => []
    mergeLayers own (layersOf group ts)
termination_by structural ts => ts

/-- The subqueries of the trees that are not joined physically. One that holds for every row is
left out. -/
def subqueries : List JoinTree → List Condition
  | [] => []
  | t :: ts =>
    let s := Placed.selection (t.placed none) (t.layersBelow none).flatten
    let own :=
      match t.top.edge with
      | some e =>
        let c := fun negated =>
          [Condition.subquery negated s.source (t.top.linkBy e) s.conditions]
        match e.kind with
        | .semi => c false
        | .anti => if t.predictsEmpty then [] else c true
        | _ => []
      | none => []
    own ++ subqueries ts
termination_by structural ts => ts

end

/-- The tables below the top of a tree, in the order of their numbers. -/
def tables (t : JoinTree) : List Placed := (t.layersBelow none).flatten

def selection (t : JoinTree) : Selection := Placed.selection (t.placed none) t.tables

end JoinTree

namespace JoinGraph

/-- The rows that a graph joins. -/
def selection (g : JoinGraph) : Selection := g.tree.selection

/-- Whether a row of the root needs a partner in the source. -/
def hasInnerJoin (g : JoinGraph) : Bool := g.tree.tables.any fun p => !p.isOuter

end JoinGraph
end Sift
