import Sift.Event
import Sift.Join.Graph

/-!
# Building join graphs

A plan becomes a graph if its references are declared, its row types are valid and
differ from each other, every member finds one parent, and every member is reached
from the root.
-/
namespace Sift

namespace Join

/-- Refuses an attachment through a column that declares no reference, or one to another table. -/
def check (j : Join) : Except Error Unit :=
  match j.attachment with
  | .referredBy source column =>
    let wanted := j.member.row.table
    match source.reference? column with
    | some f =>
      if f.target = wanted then .ok ()
      else .error (.graph (.otherTarget source.table column f.target wanted))
    | none => .error (.graph (.noReference source.table column))
  | .refersBy column =>
    match j.member.row.reference? column with
    | some _ => .ok ()
    | none => .error (.graph (.noReference j.member.row.table column))

/-- The place of the parent among the members, `child` being the place of the joined member. -/
def parentAmong (members : List JoinMember) (child : Nat) (j : Join) : Except Error Nat := do
  let row := j.member.row
  let parent ←
    match j.attachment with
    | .referredBy source column =>
      match members.findIdx? fun m => m.row.name == source.name with
      | some i => pure i
      | none => throw (.graph (.sourceMissing source.name column))
    | .refersBy column =>
      let target := ((row.reference? column).map (·.target)).getD ""
      let candidates := (List.range members.length).filter fun i =>
        i != child && (members[i]?.map (·.row.table)) == some target
      match candidates with
      | [i] => pure i
      | [] => throw (.graph (.targetMissing row.name column target))
      | _ => throw (.graph (.targetAmbiguous row.name column target))
  if parent = child then throw (.graph (.selfJoin row.name))
  return parent

/-- The linked columns of a parent and the joined member. -/
def link (j : Join) (parent : RowType) : JoinLink :=
  match j.attachment with
  | .referredBy _ column => ⟨column, j.member.row.id⟩
  | .refersBy column => ⟨parent.id, column⟩

end Join

namespace JoinPlan

/-- Refuses a row type that occurs among those before it. -/
def checkDistinct : List JoinMember → List JoinMember → Except Error Unit
  | _, [] => .ok ()
  | seen, m :: rest =>
    match seen.find? fun s => s.row.name == m.row.name with
    | some s => .error (.graph (.joinedTwice s.row.name s.row.table))
    | none => checkDistinct (seen ++ [m]) rest

/-- The edges of joins, whose members stand among all members from a place on. Parents are known
by their places. -/
def edgesFrom (members : List JoinMember) : Nat → List Join → Except Error (List JoinEdge)
  | _, [] => .ok []
  | place, j :: rest => do
    let parent ← j.parentAmong members place
    let edges ← edgesFrom members (place + 1) rest
    match members[parent]? with
    | some m => return ⟨parent, j.kind, j.link m.row⟩ :: edges
    | none => return edges

/-- The places of the members below a place. The first edge is that of place 1. -/
def placesBelow (edges : List JoinEdge) (parent : Nat) : List Nat :=
  (edges.zipIdx 1).filterMap fun (e, i) => if e.parent = parent then some i else none

/-- The places at a number of successive distances from the root, layer by layer. -/
def layers (edges : List JoinEdge) : Nat → List Nat → List Nat
  | 0, _ => []
  | n + 1, layer => layer ++ layers edges n (layer.flatMap (placesBelow edges))

/-- The node at a place, where `order` lists the places by number. -/
def nodeAt (order : List Nat) (edges : List JoinEdge) (place : Nat) (m : JoinMember) : JoinNode :=
  let number (p : Nat) := order.idxOf p
  let edge := if place = 0 then none else edges[place - 1]?
  ⟨number place, m.row, m.conditions, edge.map fun e => { e with parent := number e.parent }⟩

/-- The graph of a plan. -/
def graph (p : JoinPlan) : Except Error JoinGraph := do
  p.joins.forM Join.check
  let members := p.members
  checkDistinct [] members
  members.forM fun m => do
    m.row.validate
    m.conditions.check m.row
  let edges ← edgesFrom members 1 p.joins
  let order := layers edges members.length [0]
  let missed := (List.range members.length).filter fun i => !order.contains i
  if !missed.isEmpty then
    let names := missed.filterMap fun i => members[i]?.map (·.row.name)
    throw (.graph (.unreachable p.root.row.name names))
  let nodes := (order.drop 1).filterMap fun i => members[i]?.map (nodeAt order edges i)
  return ⟨nodeAt order edges 0 p.root, nodes⟩

/-- The graph of a plan, reporting the name of each table. -/
def build (p : JoinPlan) : Traced JoinGraph := do
  let g ← p.graph
  .emit (g.nodes.map fun n => .tableNamed n.name n.row.table n.row.name)
  return g

end JoinPlan
end Sift
