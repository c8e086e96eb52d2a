import Sift.Join
import Sift.Query.Range

/-!
# Join graphs

A graph is a tree of row types, numbered breadth first from the root. The number
of a node gives its table a name in the statement.
-/
namespace Sift

/-- The columns whose equality links a node to its parent. -/
structure JoinLink where
  parent : String
  child : String
deriving DecidableEq

/-- How a node hangs on its parent, which is known by its number. -/
structure JoinEdge where
  parent : Nat
  kind : JoinKind
  link : JoinLink
deriving DecidableEq

structure JoinNode where
  id : Nat
  row : RowType
  conditions : Conditions
  /-- The edge to the parent; the root has none. -/
  edge : Option JoinEdge

/-- The name that the table of a numbered node has in the statement. -/
def tableName (id : Nat) : String := "t" ++ toString id

namespace JoinNode

def name (n : JoinNode) : String := tableName n.id

def kind? (n : JoinNode) : Option JoinKind := n.edge.map (·.kind)

def parent? (n : JoinNode) : Option Nat := n.edge.map (·.parent)

end JoinNode

/-- A root and the nodes below it in the order of their numbers. -/
structure JoinGraph where
  root : JoinNode
  joined : List JoinNode

namespace JoinGraph

def nodes (g : JoinGraph) : List JoinNode := g.root :: g.joined

/-- The node of a row type. -/
def nodeOf? (g : JoinGraph) (r : RowType) : Option JoinNode :=
  g.nodes.find? fun n => n.row.name == r.name

/-- The numbers of the children of a node. -/
def children (g : JoinGraph) (id : Nat) : List Nat :=
  (g.nodes.filter fun n => n.parent? == some id).map (·.id)

/-- The nodes whose columns a select returns, given the numbers of those before them: the root,
and below a selected node those that are joined physically. -/
def selectFrom : List Nat → List JoinNode → List JoinNode
  | _, [] => []
  | seen, n :: rest =>
    let selected :=
      match n.edge with
      | none => true
      | some e => e.kind.isPhysical && seen.contains e.parent
    if selected then n :: selectFrom (n.id :: seen) rest else selectFrom seen rest

def selected (g : JoinGraph) : List JoinNode := selectFrom [] g.nodes

def isSelected (g : JoinGraph) (id : Nat) : Bool := g.selected.any fun n => n.id == id

end JoinGraph

/-- A node with the trees below it. -/
inductive JoinTree where
  | node (n : JoinNode) (children : List JoinTree)

namespace JoinTree

def top : JoinTree → JoinNode
  | node n _ => n

def hasParent (id : Nat) (t : JoinTree) : Bool := t.top.parent? == some id

/-- The trees of a list of nodes in which children come after their parents. A node takes the
trees after it whose parent it is. -/
def grow : List JoinNode → List JoinTree
  | [] => []
  | n :: rest =>
    let later := grow rest
    node n (later.filter (hasParent n.id)) :: later.filter fun t => !hasParent n.id t

mutual

/-- Whether no row can come out of a tree: no row satisfies the conditions of its top, or a child
that is required gives none. -/
def predictsEmpty : JoinTree → Bool
  | node n children => n.conditions.predictsEmpty || anyRequiredEmpty children
termination_by structural t => t

/-- Whether a required tree of a list gives no row. -/
def anyRequiredEmpty : List JoinTree → Bool
  | [] => false
  | t :: ts =>
    ((t.top.kind?.map (·.isRequired)).getD false && predictsEmpty t) || anyRequiredEmpty ts
termination_by structural ts => ts

end

end JoinTree

namespace JoinGraph

/-- The graph as a tree. -/
def tree (g : JoinGraph) : JoinTree :=
  .node g.root ((JoinTree.grow g.joined).filter (JoinTree.hasParent g.root.id))

/-- Whether no row can come out of the graph. -/
def predictsEmpty (g : JoinGraph) : Bool := g.tree.predictsEmpty

end JoinGraph
end Sift
