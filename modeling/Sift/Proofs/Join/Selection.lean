import Sift.Proofs.Join.Layers
import Sift.Proofs.Restriction.Agreement

/-!
# The rows of a tree's selection

If the conditions of every table are read as what its tree asks of a row, then the
selection of a tree gives its joined rows. They are: own conditions agree with what they
compile to, and a subquery is true exactly if the selection of its tree gives a linked
row. A subquery that is left out has to be true of every row.
-/
namespace Sift

open Sql

namespace JoinTree

variable {db : Database}

/-- The conditions of a table are true of a row exactly when its tree accepts the row. -/
def Reads (db : Database) (t : JoinTree) : Prop :=
  ∀ r ∈ db.rows t.top.row.table, ∀ look : Lookup,
    (∀ column, look ⟨some t.top.name, column⟩ = r.record.valueOf column) →
      ((∀ k ∈ (t.placed none).conditions, k.expr.truth db look = some true) ↔ t.Accepts db r)

section

variable {t : JoinTree} (reads : t.Reads db) (g : Option Nat)
include reads

theorem accepts_placed_iff {r : Row} (member : r ∈ db.rows t.top.row.table) :
    (t.placed g).Accepts db r ↔ t.Accepts db r := by
  constructor
  · intro accepts
    have look := accepts (fun c => r.record.valueOf c.column) fun _ => rfl
    rw [conditions_placed g none] at look
    exact (reads r member _ fun _ => rfl).mp look
  · intro accepts look columns
    rw [node_placed] at columns
    rw [conditions_placed g none]
    exact (reads r member look columns).mpr accepts

theorem closed_placed : (t.placed g).Closed db := by
  intro r member look columns conditions
  rw [node_placed] at member columns
  rw [conditions_placed g none] at conditions
  exact (accepts_placed_iff reads g member).mpr ((reads r member look columns).mp conditions)

theorem present_placed_iff {a : Assignment} : (t.placed g).Present db a ↔ t.Present db a := by
  rw [Placed.Present, Placed.Attached, Present, node_placed]
  constructor
  · rintro ⟨⟨e, q, r, edge, above, row, member, linked⟩, accepts⟩
    exact ⟨e, q, r, edge, above, row, member, linked, (accepts_placed_iff reads g member).mp (accepts r row)⟩
  · rintro ⟨e, q, r, edge, above, row, member, linked, accepts⟩
    refine ⟨⟨e, q, r, edge, above, row, member, linked⟩, fun s own => ?_⟩
    cases Option.some.inj (row.symm.trans own)
    exact (accepts_placed_iff reads g member).mpr accepts

end

/-- All trees in a tree are read. -/
def ReadsAll (db : Database) (t : JoinTree) : Prop := ∀ u ∈ t.subtrees, u.Reads db

theorem mem_subtrees_self (t : JoinTree) : t ∈ t.subtrees := by
  rw [subtrees_eq]
  exact List.mem_cons_self

theorem joined_mem_subtrees {t : JoinTree} {g : Option Nat} {u : JoinTree × Option Nat}
    (member : u ∈ t.joinedBelow g) : u.1 ∈ t.subtrees := by
  rw [subtrees_eq]
  exact List.mem_cons_of_mem _ (mem_subtrees_of_joined member)

namespace Proper

variable {t : JoinTree} (proper : t.Proper)
include proper

theorem distinctBelow : Distinct t.children := by
  have distinct := proper.distinct
  rw [nodes_eq, List.map_cons] at distinct
  exact (List.nodup_cons.mp distinct).2

theorem outside : Outside (some t.top.id) t.children := by
  have distinct := proper.distinct
  rw [nodes_eq, List.map_cons] at distinct
  intro n member same
  exact (List.nodup_cons.mp distinct).1 (Option.some.inj same ▸ List.mem_map_of_mem member)

theorem group_of_left {u : JoinTree} {h : Option Nat} (member : (u, h) ∈ t.joinedBelow none)
    (left : u.top.kind? = some .left) : h = some u.top.id := by
  have there : u.placed h ∈ t.tables := mem_tables.mpr ⟨_, member, rfl⟩
  simpa using proper.layout.group_of_left there (by rw [node_placed]; exact left)

section

variable {u : JoinTree} (member : (u, some u.top.id) ∈ t.joinedBelow none) (left : u.top.kind? = some .left)
include member left

/-- The group of an outer join. -/
theorem mem_groupOf_iff {q : Placed} : q ∈ Placed.groupOf t.tables (u.placed (some u.top.id)) ↔
    ∃ v, (v = u ∨ v ∈ u.inners) ∧ v.placed (some u.top.id) = q := by
  rw [Placed.Layout.mem_groupOf_iff, mem_tables, node_placed]
  have outside := (proper.of_mem (joined_mem_subtrees member)).outside
  constructor
  · rintro ⟨⟨⟨v, h⟩, there, rfl⟩, group⟩
    rw [placedIn, group_placed] at group
    cases group
    exact ⟨v, mem_inners_of_joined proper.distinctBelow (outside_none _) member left there, rfl⟩
  · rintro ⟨v, rfl | inner, rfl⟩
    · exact ⟨⟨_, member, rfl⟩, group_placed _ _⟩
    · refine ⟨⟨(v, some u.top.id), ?_, rfl⟩, group_placed _ _⟩
      exact joinedBelow_subset member _ ((mem_inners_iff outside).mp inner)

theorem forall_groupOf_iff {P : Placed → Prop} :
    (∀ q ∈ Placed.groupOf t.tables (u.placed (some u.top.id)), P q) ↔
      P (u.placed (some u.top.id)) ∧ ∀ v ∈ u.inners, P (v.placed (some u.top.id)) := by
  constructor
  · intro all
    have group {v : JoinTree} (inside : v = u ∨ v ∈ u.inners) :=
      all _ ((proper.mem_groupOf_iff member left).mpr ⟨v, inside, rfl⟩)
    exact ⟨group (.inl rfl), fun v inner => group (.inr inner)⟩
  · rintro ⟨own, inner⟩ q group
    obtain ⟨v, rfl | inside, rfl⟩ := (proper.mem_groupOf_iff member left).mp group
    · exact own
    · exact inner v inside

theorem grouped_iff (reads : t.ReadsAll db) {a : Assignment} :
    Placed.Grouped db t.tables a (u.placed (some u.top.id)) ↔ u.Grouped db a := by
  have below := joined_mem_subtrees member
  have outside := (proper.of_mem below).outside
  rw [Placed.Grouped, proper.forall_groupOf_iff member left, present_placed_iff (reads u below), Grouped,
    complete_iff]
  refine and_congr_right fun _ => forall₂_congr fun v inner => present_placed_iff ?_ _
  exact reads v (joined_mem_subtrees (joinedBelow_subset member _ ((mem_inners_iff outside).mp inner)))

theorem decided_iff (reads : t.ReadsAll db) {a : Assignment} :
    Placed.Decided db t.tables a (u.placed (some u.top.id)) ↔ u.Decided db a := by
  rw [Placed.Decided, Decided, proper.grouped_iff member left reads, proper.forall_groupOf_iff member left,
    innerNames_eq, List.forall_mem_cons, List.forall_mem_map]
  simp only [node_placed]
  refine or_congr_right (and_congr_right fun _ => forall₂_congr fun b _ => not_congr ?_)
  exact proper.grouped_iff member left reads

end

/-- What a selection asks of its tables, as a tree asks it. -/
theorem selected_iff (reads : t.ReadsAll db) {a : Assignment} :
    Placed.Selected db (t.placed none) t.tables a ↔
      (∃ r ∈ db.rows t.top.row.table, a t.top.name = some r ∧ t.Accepts db r) ∧ t.Complete db a ∧
        t.Settled db a := by
  have row : (∃ r ∈ db.rows t.top.row.table, a t.top.name = some r ∧ (t.placed none).Accepts db r) ↔
      ∃ r ∈ db.rows t.top.row.table, a t.top.name = some r ∧ t.Accepts db r :=
    exists_congr fun r => and_congr_right fun member => and_congr_right fun _ =>
      accepts_placed_iff (reads t t.mem_subtrees_self) none member
  have complete : (∀ p ∈ t.tables, p.group = none → p.Present db a) ↔ t.Complete db a := by
    rw [complete_iff]
    constructor
    · intro all u inner
      have joined := (mem_inners_iff (outside_none _)).mp inner
      have present := all _ (mem_tables.mpr ⟨_, joined, rfl⟩) (group_placed _ _)
      exact (present_placed_iff (reads u (joined_mem_subtrees joined)) none).mp present
    · intro all p member group
      obtain ⟨⟨u, h⟩, joined, rfl⟩ := mem_tables.mp member
      rw [placedIn, group_placed] at group
      cases group
      refine (present_placed_iff (reads u (joined_mem_subtrees joined)) none).mpr (all u ?_)
      exact (mem_inners_iff (outside_none _)).mpr joined
  have settled : (∀ p ∈ t.tables, p.node.kind? = some .left → Placed.Decided db t.tables a p) ↔
      t.Settled db a := by
    rw [settled_iff (g := none)]
    constructor
    · rintro all ⟨u, h⟩ joined left
      cases proper.group_of_left joined left
      have decided := all _ (mem_tables.mpr ⟨_, joined, rfl⟩) (by rw [placedIn, node_placed]; exact left)
      exact (proper.decided_iff joined left reads).mp decided
    · intro all p member left
      obtain ⟨⟨u, h⟩, joined, rfl⟩ := mem_tables.mp member
      rw [placedIn, node_placed] at left
      cases proper.group_of_left joined left
      exact (proper.decided_iff joined left reads).mpr (all _ joined left)
  constructor
  · rintro ⟨top, present, decided⟩
    rw [node_placed] at top
    exact ⟨row.mp top, complete.mp present, settled.mp decided⟩
  · rintro ⟨top, present, decided⟩
    refine ⟨?_, complete.mpr present, settled.mpr decided⟩
    rw [node_placed]
    exact row.mpr top

theorem mem_source_names {n : String} : n ∈ t.selection.source.from_.names ↔ n ∈ t.names := by
  rw [selection, Placed.mem_selection_names proper.layout, names_eq none]
  simp [mem_tables, placedIn, eq_comm]

/-- The selection of a tree gives its joined rows. -/
theorem mem_selection_iff (reads : t.ReadsAll db) {look : Lookup} {a : Assignment} :
    (a ∈ t.selection.source.from_.rows db look ∧ ∀ k ∈ t.selection.conditions,
      k.expr.truth db (a.lookup t.selection.source.from_.names look) = some true) ↔
    ∃ r ∈ db.rows t.top.row.table, a ∈ t.rowsOf db r := by
  have closed : ∀ q ∈ t.placed none :: t.tables, q.Closed db := by
    intro q member
    rcases List.mem_cons.mp member with rfl | below
    · exact closed_placed (reads t t.mem_subtrees_self) none
    · obtain ⟨u, joined, rfl⟩ := mem_tables.mp below
      exact closed_placed (reads u.1 (joined_mem_subtrees joined)) u.2
  have within : a.Within t.selection.source.from_.names ↔ a.Within t.names := by
    simp only [Assignment.Within, proper.mem_source_names]
  rw [selection, Placed.mem_selection_iff proper.layout closed, proper.selected_iff reads]
  rw [selection] at within
  rw [within]
  constructor
  · rintro ⟨within, ⟨r, member, row, accepts⟩, complete, settled⟩
    exact ⟨r, member, (mem_rowsOf_iff proper.hangs proper.nodup_names).mpr
      ⟨within, row, accepts, complete, settled⟩⟩
  · rintro ⟨r, member, joined⟩
    obtain ⟨within, row, accepts, complete, settled⟩ :=
      (mem_rowsOf_iff proper.hangs proper.nodup_names).mp joined
    exact ⟨within, ⟨r, member, row, accepts⟩, complete, settled⟩

end Proper

end JoinTree
end Sift
