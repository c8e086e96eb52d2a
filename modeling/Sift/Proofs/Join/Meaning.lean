import Sift.Proofs.Sql.Rows
import Sift.Join.Graph

/-!
# The joined rows of a graph

A row of a node's table gives joined rows if it satisfies the conditions of the node:
the combinations of what its children contribute, where a child contributes the joined
rows of the linked rows of its own table. An outer join without any contributes nothing
to the combination instead; a child that is only a condition contributes nothing, or
leaves no combination at all.
-/
namespace Sift

open Sql

/-- Whether the linked columns of two rows are equal; null equals nothing. -/
def JoinLink.holds (l : JoinLink) (parent child : Record) : Bool :=
  let p := parent.valueOf l.parent
  let c := child.valueOf l.child
  !p.isNull && !c.isNull && p.equals c

/-- No rows at all. -/
def Sql.Assignment.nothing : Assignment := fun _ => none

/-- What a child contributes, given the joined rows of the linked rows of its table. -/
def JoinKind.contributions : JoinKind → List Assignment → List Assignment
  | .inner, partners => partners
  | .left, partners => if partners.isEmpty then [.nothing] else partners
  | .semi, partners => if partners.isEmpty then [] else [.nothing]
  | .anti, partners => if partners.isEmpty then [.nothing] else []

namespace JoinTree

mutual

/-- The joined rows that a row of the top's table gives. -/
def rowsOf (db : Database) : JoinTree → Row → List Assignment
  | node n children, r =>
    if n.conditions.holds r.record then
      (combinations db r children).map (Assignment.single n.name r).merge
    else []
termination_by structural t => t

/-- The combinations of what trees contribute to a row of their parent. -/
def combinations (db : Database) (r : Row) : List JoinTree → List Assignment
  | [] => [.nothing]
  | t :: ts =>
    let own : List Assignment :=
      match t.top.edge with
      | some e =>
        let linked := (db.rows t.top.row.table).filter fun s => e.link.holds r.record s.record
        e.kind.contributions (linked.flatMap (rowsOf db t))
      | none => [.nothing]
    own.flatMap fun a => (combinations db r ts).map a.merge
termination_by structural ts => ts

end

/-- The joined rows of the rows that an edge links to a row of the parent. -/
def partners (db : Database) (r : Row) (t : JoinTree) (e : JoinEdge) : List Assignment :=
  ((db.rows t.top.row.table).filter fun s => e.link.holds r.record s.record).flatMap (t.rowsOf db)

/-- What a tree contributes to a row of its parent. -/
def contributed (db : Database) (r : Row) (t : JoinTree) : List Assignment :=
  match t.top.edge with
  | some e => e.kind.contributions (t.partners db r e)
  | none => [.nothing]

theorem combinations_cons (db : Database) (r : Row) (t : JoinTree) (ts : List JoinTree) :
    combinations db r (t :: ts) =
      (t.contributed db r).flatMap fun a => (combinations db r ts).map a.merge := rfl

def children : JoinTree → List JoinTree
  | node _ children => children

/-- Whether the top is joined physically to its parent. -/
def isPhysical (t : JoinTree) : Bool := (t.top.kind?.map (·.isPhysical)).getD false

mutual

/-- All nodes of a tree. -/
def nodes : JoinTree → List JoinNode
  | node n children => n :: nodesOf children
termination_by structural t => t

def nodesOf : List JoinTree → List JoinNode
  | [] => []
  | t :: ts => t.nodes ++ nodesOf ts
termination_by structural ts => ts

end

mutual

/-- The names of the tables that are joined physically to the top, and of the top. -/
def names : JoinTree → List String
  | node n children => n.name :: namesOf children
termination_by structural t => t

def namesOf : List JoinTree → List String
  | [] => []
  | t :: ts => (if t.isPhysical then t.names else []) ++ namesOf ts
termination_by structural ts => ts

end

mutual

/-- Every node below the top has an edge to the node above it. -/
def Hangs : JoinTree → Prop
  | node n children => HangOn n.id children
termination_by structural t => t

def HangOn (id : Nat) : List JoinTree → Prop
  | [] => True
  | t :: ts => t.top.parent? = some id ∧ t.Hangs ∧ HangOn id ts
termination_by structural ts => ts

end

/-- The names of the tables that a child adds to those of its parent. -/
def added (t : JoinTree) : List String := if t.isPhysical then t.names else []

theorem mem_partners {db : Database} {r : Row} {t : JoinTree} {e : JoinEdge} {a : Assignment} :
    a ∈ t.partners db r e ↔ ∃ s ∈ db.rows t.top.row.table,
      e.link.holds r.record s.record = true ∧ a ∈ t.rowsOf db s := by
  simp only [partners, List.mem_flatMap, List.mem_filter, and_assoc]

theorem contributed_of_edge {db : Database} {r : Row} {t : JoinTree} {e : JoinEdge}
    (edge : t.top.edge = some e) : t.contributed db r = e.kind.contributions (t.partners db r e) := by
  rw [contributed, edge]

theorem isPhysical_of_edge {t : JoinTree} {e : JoinEdge} (edge : t.top.edge = some e) :
    t.isPhysical = e.kind.isPhysical := by
  simp [isPhysical, JoinNode.kind?, edge]

/-! ## Tables -/

/-- A child contributes nothing or joined rows, and these only if it is joined physically. -/
theorem contributed_cases {db : Database} {r : Row} {t : JoinTree} {a : Assignment}
    (member : a ∈ t.contributed db r) :
    a = .nothing ∨ ∃ e, t.top.edge = some e ∧ t.isPhysical = true ∧ a ∈ t.partners db r e := by
  cases edge : t.top.edge with
  | none =>
    rw [contributed, edge] at member
    exact .inl (List.mem_singleton.mp member)
  | some e =>
    rw [contributed_of_edge edge] at member
    rw [isPhysical_of_edge edge]
    cases kind : e.kind with
    | inner =>
      rw [kind] at member
      exact .inr ⟨e, rfl, rfl, member⟩
    | left =>
      rw [kind, JoinKind.contributions] at member
      split at member
      · exact .inl (List.mem_singleton.mp member)
      · exact .inr ⟨e, rfl, rfl, member⟩
    | semi =>
      rw [kind, JoinKind.contributions] at member
      split at member
      · cases member
      · exact .inl (List.mem_singleton.mp member)
    | anti =>
      rw [kind, JoinKind.contributions] at member
      split at member
      · exact .inl (List.mem_singleton.mp member)
      · cases member

theorem within_nothing (names : List String) : Assignment.nothing.Within names := fun _ _ => rfl

mutual

/-- A joined row has a row for the top, and others only for tables that are joined to it. -/
theorem within_of_rowsOf {db : Database} : ∀ {t : JoinTree} {r : Row} {a : Assignment},
    a ∈ t.rowsOf db r → a.Within t.names ∧ a t.top.name = some r
  | node n children, r, a, member => by
    rw [rowsOf] at member
    split at member
    · obtain ⟨b, combined, rfl⟩ := List.mem_map.mp member
      refine ⟨?_, ?_⟩
      · exact Assignment.within_merge (Assignment.within_single n.name r) (within_of_combinations combined)
      · rw [Assignment.merge]
        exact congrArg (Option.or · _) (Assignment.single_self n.name r)
    · cases member

theorem within_of_combinations {db : Database} : ∀ {ts : List JoinTree} {r : Row} {a : Assignment},
    a ∈ combinations db r ts → a.Within (namesOf ts)
  | [], r, a, member => by
    rw [List.mem_singleton.mp member]
    exact within_nothing []
  | t :: ts, r, a, member => by
    rw [combinations_cons, List.mem_flatMap] at member
    obtain ⟨b, contributed, member⟩ := member
    obtain ⟨c, combined, rfl⟩ := List.mem_map.mp member
    refine Assignment.within_merge ?_ (within_of_combinations combined)
    obtain rfl | ⟨e, -, physical, partner⟩ := contributed_cases contributed
    · exact within_nothing _
    · obtain ⟨s, -, -, joined⟩ := mem_partners.mp partner
      rw [if_pos physical]
      exact (within_of_rowsOf joined).1

end

theorem within_of_contributed {db : Database} {t : JoinTree} {r : Row} {a : Assignment}
    (member : a ∈ t.contributed db r) : a.Within t.added := by
  obtain rfl | ⟨e, -, physical, partner⟩ := contributed_cases member
  · exact within_nothing _
  · obtain ⟨s, -, -, joined⟩ := mem_partners.mp partner
    rw [added, if_pos physical]
    exact (within_of_rowsOf joined).1

/-! ## No joined row is given twice -/

/-- The rows of a table give different joined rows. -/
theorem nodup_flatMap_rowsOf {db : Database} {t : JoinTree} {rs : List Row} (distinct : rs.Nodup)
    (each : ∀ r, (t.rowsOf db r).Nodup) : (rs.flatMap (t.rowsOf db)).Nodup := by
  rw [List.nodup_flatMap]
  refine ⟨fun r _ => each r, distinct.imp fun differ a first second => differ ?_⟩
  exact Option.some.inj ((within_of_rowsOf first).2.symm.trans (within_of_rowsOf second).2)

theorem nodup_contributed {db : Database} {t : JoinTree} (r : Row)
    (each : t.isPhysical = true → ∀ s, (t.rowsOf db s).Nodup) : (t.contributed db r).Nodup := by
  cases edge : t.top.edge with
  | none =>
    rw [contributed, edge]
    exact List.nodup_singleton _
  | some e =>
    rw [isPhysical_of_edge edge] at each
    rw [contributed_of_edge edge]
    have partners (physical : e.kind.isPhysical = true) : (t.partners db r e).Nodup :=
      nodup_flatMap_rowsOf ((db.nodup_rows _).filter _) (each physical)
    cases kind : e.kind with
    | inner => exact partners (by rw [kind]; rfl)
    | left =>
      rw [JoinKind.contributions]
      split
      · exact List.nodup_singleton _
      · exact partners (by rw [kind]; rfl)
    | semi =>
      rw [JoinKind.contributions]
      split
      · exact List.nodup_nil
      · exact List.nodup_singleton _
    | anti =>
      rw [JoinKind.contributions]
      split
      · exact List.nodup_singleton _
      · exact List.nodup_nil

mutual

theorem nodup_rowsOf {db : Database} : ∀ {t : JoinTree} (r : Row), t.names.Nodup → (t.rowsOf db r).Nodup
  | node n children, r, distinct => by
    obtain ⟨other, distinct⟩ := List.nodup_cons.mp distinct
    rw [rowsOf]
    split
    · refine (nodup_combinations r distinct).map_on fun a given b given' same => ?_
      have apart : [n.name].Disjoint (namesOf children) := by simpa using other
      have single := Assignment.within_single n.name r
      exact (Assignment.merge_inj apart single single (within_of_combinations given)
        (within_of_combinations given') same).2
    · exact List.nodup_nil

theorem nodup_combinations {db : Database} : ∀ {ts : List JoinTree} (r : Row),
    (namesOf ts).Nodup → (combinations db r ts).Nodup
  | [], r, _ => List.nodup_singleton _
  | t :: ts, r, distinct => by
    obtain ⟨first, rest, apart⟩ := List.nodup_append'.mp distinct
    have each (physical : t.isPhysical = true) (s : Row) : (t.rowsOf db s).Nodup := by
      rw [if_pos physical] at first
      exact nodup_rowsOf s first
    rw [combinations_cons, List.nodup_flatMap]
    constructor
    · intro a given
      refine (nodup_combinations r rest).map_on fun b fits c fits' same => ?_
      exact (Assignment.merge_inj apart (within_of_contributed given) (within_of_contributed given)
        (within_of_combinations fits) (within_of_combinations fits') same).2
    · refine (nodup_contributed r each).pairwise_of_forall_ne fun a given b given' differ => ?_
      intro m first second
      obtain ⟨c, fits, rfl⟩ := List.mem_map.mp first
      obtain ⟨d, fits', same⟩ := List.mem_map.mp second
      exact differ (Assignment.merge_inj apart (within_of_contributed given)
        (within_of_contributed given') (within_of_combinations fits) (within_of_combinations fits')
        same.symm).1

end

end JoinTree

/-- The rows that a graph joins. -/
def JoinGraph.rows (db : Database) (g : JoinGraph) : List Assignment :=
  (db.rows g.root.row.table).flatMap (g.tree.rowsOf db)

end Sift
