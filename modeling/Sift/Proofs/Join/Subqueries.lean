import Sift.Proofs.Join.Selection
import Sift.Proofs.Query.Prediction

/-!
# Subqueries

A subquery is true of a row exactly if some joined row of its tree is linked to it.
A tree that must give nothing and is predicted to give nothing has no subquery, which
is right if the prediction is: if no row that its conditions exclude satisfies them.
-/
namespace Sift

open Sql

/-- The rows of a node's table hold null and values only where its conditions have a meaning. -/
def JoinNode.Suits (db : Database) (n : JoinNode) : Prop :=
  ∀ r ∈ db.rows n.row.table, n.conditions.Meets n.row r.record

namespace JoinTree

variable {db : Database}

/-- The condition that asks for a linked joined row. -/
def subquery (negated : Bool) (t : JoinTree) (e : JoinEdge) : Condition :=
  .subquery negated t.selection.source (t.top.linkBy e) t.selection.conditions

/-- The tree must give no linked row, and is predicted to give none. -/
def isLeftOut (t : JoinTree) : Bool := t.top.kind? == some .anti && t.predictsEmpty

/-- The trees without a subquery give no joined row. -/
def Faithful (db : Database) (t : JoinTree) : Prop :=
  ∀ u ∈ t.subtrees, u.isLeftOut = true → ∀ r ∈ db.rows u.top.row.table, u.rowsOf db r = []

theorem mem_subqueries {ts : List JoinTree} {k : Condition} : k ∈ subqueries ts ↔
    ∃ t ∈ ts, ∃ e, t.top.edge = some e ∧ (e.kind = .semi ∧ k = t.subquery false e ∨
      e.kind = .anti ∧ t.predictsEmpty = false ∧ k = t.subquery true e) := by
  induction ts with
  | nil => simp [subqueries]
  | cons t ts ih =>
    simp only [subqueries, List.mem_append, ih, List.mem_cons, exists_eq_or_imp]
    refine or_congr_left ?_
    cases edge : t.top.edge with
    | none => simp
    | some e =>
      cases kind : e.kind with
      | inner => simp [kind]
      | left => simp [kind]
      | semi => simp [kind, subquery, selection, tables]
      | anti =>
        by_cases empty : t.predictsEmpty = true
        · simp [kind, empty]
        · simp [kind, empty, subquery, selection, tables]

theorem subqueries_eq_nil_iff {ts : List JoinTree} : subqueries ts = [] ↔
    ∀ t ∈ ts, t.top.kind? ≠ some .semi ∧ (t.top.kind? = some .anti → t.predictsEmpty = true) := by
  rw [List.eq_nil_iff_forall_not_mem]
  constructor
  · intro absent t member
    constructor
    · intro semi
      obtain ⟨e, edge, kind⟩ := Option.map_eq_some_iff.mp semi
      exact absent _ (mem_subqueries.mpr ⟨t, member, e, edge, .inl ⟨kind, rfl⟩⟩)
    · intro anti
      obtain ⟨e, edge, kind⟩ := Option.map_eq_some_iff.mp anti
      by_contra some
      have some := Bool.eq_false_of_not_eq_true some
      exact absent _ (mem_subqueries.mpr ⟨t, member, e, edge, .inr ⟨kind, some, rfl⟩⟩)
  · intro all k member
    obtain ⟨t, there, e, edge, which⟩ := mem_subqueries.mp member
    have kind := kind?_of_edge edge
    obtain ⟨semi, anti⟩ := all t there
    rcases which with ⟨required, -⟩ | ⟨excluded, some, -⟩
    · exact semi (by rw [kind, required])
    · rw [anti (by rw [kind, excluded])] at some
      cases some

theorem parent_of_hangOn {id : Nat} {ts : List JoinTree} {t : JoinTree} (hangs : HangOn id ts)
    (member : t ∈ ts) : t.top.parent? = some id := by
  induction ts with
  | nil => cases member
  | cons u us ih =>
    rcases List.mem_cons.mp member with rfl | rest
    · exact hangs.1
    · exact ih hangs.2.2 rest

theorem exists_node_of_name {t : JoinTree} {n : String} (member : n ∈ t.names) :
    ∃ m ∈ t.nodes, m.name = n := by
  rw [names_eq none, List.mem_cons, List.mem_map] at member
  rw [nodes_eq]
  rcases member with rfl | ⟨u, joined, rfl⟩
  · exact ⟨t.top, List.mem_cons_self, rfl⟩
  · exact ⟨u.1.top, List.mem_cons_of_mem _ (top_mem_of_joined joined), rfl⟩

/-- A subquery asks for linked joined rows. -/
theorem truth_subquery_iff {t : JoinTree} {e : JoinEdge} {r : Row} {look : Lookup} (proper : t.Proper)
    (reads : t.ReadsAll db) (fresh : tableName e.parent ∉ t.names)
    (columns : ∀ column, look ⟨some (tableName e.parent), column⟩ = r.record.valueOf column)
    (negated : Bool) : (t.subquery negated e).expr.truth db look = some true ↔
      (t.partners db r e ≠ [] ↔ negated = false) := by
  rw [subquery, Condition.truth_subquery]
  have given : t.partners db r e ≠ [] ↔ ∃ a, a ∈ t.partners db r e :=
    ⟨List.exists_mem_of_ne_nil _, fun ⟨_, member⟩ => List.ne_nil_of_mem member⟩
  rw [given]
  refine iff_congr (exists_congr fun a => ?_) Iff.rfl
  rw [proper.mem_selection_iff reads, mem_partners]
  have above (column : String) : a.lookup t.selection.source.from_.names look
      ⟨some (tableName e.parent), column⟩ = r.record.valueOf column := by
    rw [Assignment.lookup, ← columns]
    simp [proper.mem_source_names, fresh]
  have link {s : Row} (joined : a ∈ t.rowsOf db s) :
      (t.top.linkBy e).expr.truth db (a.lookup t.selection.source.from_.names look) = some true ↔
        e.link.holds r.record s.record = true := by
    have named := proper.mem_source_names.mpr t.top_mem_names
    show Datum.compare .eq (.value (a.lookup _ look ⟨some (tableName e.parent), e.link.parent⟩))
      (.value (a.lookup _ look ⟨some t.top.name, e.link.child⟩)) = some true ↔ _
    rw [compare_eq_true_iff, above, lookup_of_row named (within_of_rowsOf joined).2]
    simp [JoinLink.holds, and_assoc]
  constructor
  · rintro ⟨⟨s, member, joined⟩, linked⟩
    exact ⟨s, member, (link joined).mp linked, joined⟩
  · rintro ⟨s, member, linked, joined⟩
    exact ⟨⟨s, member, joined⟩, (link joined).mpr linked⟩

theorem Faithful.of_mem {t u : JoinTree} (faithful : t.Faithful db) (member : u ∈ t.subtrees) : u.Faithful db :=
  fun v deeper => faithful v (mem_subtrees_trans member deeper)

/-- The subqueries of children are true of a row exactly when the children that are only conditions
hold of it. -/
theorem truth_subqueries_iff {id : Nat} {ts : List JoinTree} {r : Row} {look : Lookup}
    (hangs : HangOn id ts) (proper : ∀ t ∈ ts, t.Proper) (outside : Outside (some id) ts)
    (reads : ∀ t ∈ ts, t.ReadsAll db) (faithful : ∀ t ∈ ts, t.Faithful db)
    (columns : ∀ column, look ⟨some (tableName id), column⟩ = r.record.valueOf column) :
    (∀ k ∈ subqueries ts, k.expr.truth db look = some true) ↔ ∀ t ∈ ts, t.Answers db r := by
  have truth {t : JoinTree} (member : t ∈ ts) {e : JoinEdge} (edge : t.top.edge = some e) (negated : Bool) :
      (t.subquery negated e).expr.truth db look = some true ↔ (t.partners db r e ≠ [] ↔ negated = false) := by
    obtain ⟨e', edge', rfl⟩ := edge_of_parent (parent_of_hangOn hangs member)
    cases Option.some.inj (edge.symm.trans edge')
    refine truth_subquery_iff (proper t member) (reads t member) (fun there => ?_) columns negated
    obtain ⟨m, below, named⟩ := exists_node_of_name there
    refine outside m ((nodes_sublistOf (mem_subtreesOf member)).subset below) ?_
    rw [Placed.tableName_injective named]
  constructor
  · intro all t member e edge
    constructor
    · intro kind
      have given := all _ (mem_subqueries.mpr ⟨t, member, e, edge, .inl ⟨kind, rfl⟩⟩)
      exact ((truth member edge false).mp given).mpr rfl
    · intro kind
      by_cases empty : t.predictsEmpty = true
      · have leftOut : t.isLeftOut = true := by simp [isLeftOut, kind?_of_edge edge, kind, empty]
        have alone := faithful t member t t.mem_subtrees_self leftOut
        refine List.flatMap_eq_nil_iff.mpr fun s linked => alone s ?_
        exact (List.mem_filter.mp linked).1
      · have given := all _ (mem_subqueries.mpr
          ⟨t, member, e, edge, .inr ⟨kind, Bool.eq_false_iff.mpr empty, rfl⟩⟩)
        by_contra some
        cases ((truth member edge true).mp given).mp some
  · intro answers k member
    obtain ⟨t, there, e, edge, ⟨kind, rfl⟩ | ⟨kind, -, rfl⟩⟩ := mem_subqueries.mp member
    · exact (truth there edge false).mpr ⟨fun _ => rfl, fun _ => (answers t there e edge).1 kind⟩
    · have alone := (answers t there e edge).2 kind
      refine (truth there edge true).mpr ⟨fun some => absurd alone some, fun same => ?_⟩
      cases same

theorem conditions_eq (g : Option Nat) (t : JoinTree) :
    (t.placed g).conditions = t.top.ownConditions ++ subqueries t.children := by
  cases t
  rfl

theorem Proper.hangOn {t : JoinTree} (proper : t.Proper) : HangOn t.top.id t.children := by
  have hangs := proper.hangs
  cases t
  exact hangs

/-- The conditions of a table are read if those of the trees below are. -/
theorem reads_of_below {t : JoinTree} (proper : t.Proper) (suits : t.top.Suits db) (faithful : t.Faithful db)
    (reads : ∀ c ∈ t.children, c.ReadsAll db) : t.Reads db := by
  have below {c : JoinTree} (member : c ∈ t.children) : c ∈ t.subtrees := by
    rw [subtrees_eq]
    exact List.mem_cons_of_mem _ (mem_subtreesOf member)
  intro r member look columns
  have own : t.top.conditions.holds r.record = true ↔
      ∀ k ∈ t.top.ownConditions, k.expr.truth db look = some true :=
    Conditions.holds_iff_compile columns (suits r member)
  have others := truth_subqueries_iff proper.hangOn (fun c there => proper.of_mem (below there)) proper.outside
    reads (fun c there => faithful.of_mem (below there)) columns
  rw [conditions_eq, List.forall_mem_append, Accepts, own, others]

mutual

/-- The conditions of all tables are read as what their trees ask of a row. -/
theorem readsAll : ∀ {t : JoinTree}, t.Proper → (∀ n ∈ t.nodes, n.Suits db) → t.Faithful db → t.ReadsAll db
  | node n children, proper, suits, faithful => by
    have inside : ∀ c ∈ subtreesOf children, c ∈ (node n children).subtrees := fun c member =>
      List.mem_cons_of_mem _ member
    have below : ∀ u ∈ subtreesOf children, u.Reads db :=
      readsAllOf (fun c member => proper.of_mem (inside c member))
        (fun m member => suits m (List.mem_cons_of_mem _ member)) fun c member => faithful.of_mem (inside c member)
    intro u member
    rcases List.mem_cons.mp member with rfl | deeper
    · refine reads_of_below proper (suits n List.mem_cons_self) faithful fun c there v deeper => ?_
      exact below v (mem_subtreesOf_trans (mem_subtreesOf there) deeper)
    · exact below u deeper

theorem readsAllOf : ∀ {ts : List JoinTree}, (∀ t ∈ subtreesOf ts, t.Proper) →
    (∀ n ∈ nodesOf ts, n.Suits db) → (∀ t ∈ subtreesOf ts, t.Faithful db) →
    ∀ u ∈ subtreesOf ts, u.Reads db
  | [], _, _, _, _, member => by cases member
  | t :: ts, proper, suits, faithful, u, member => by
    rw [subtreesOf, List.forall_mem_append] at proper faithful
    rw [nodesOf, List.forall_mem_append] at suits
    rcases List.mem_append.mp member with first | rest
    · exact readsAll (proper.1 t t.mem_subtrees_self) suits.1 (faithful.1 t t.mem_subtrees_self) u first
    · exact readsAllOf proper.2 suits.2 faithful.2 u rest

end

/-! ## Predictions -/

mutual

/-- A tree predicted to give nothing gives nothing if no conditions predicted to exclude every row are
satisfied by one. -/
theorem rowsOf_of_predictsEmpty : ∀ {t : JoinTree}, t.predictsEmpty = true →
    (∀ n ∈ t.nodes, ∀ r ∈ db.rows n.row.table, n.conditions.predictsEmpty = true →
      n.conditions.holds r.record = false) →
    ∀ r ∈ db.rows t.top.row.table, t.rowsOf db r = []
  | node n children, predicted, excluded, r, member => by
    rw [rowsOf]
    split
    next holds =>
      rw [List.map_eq_nil_iff]
      rcases Bool.or_eq_true_iff.mp predicted with own | below
      · rw [excluded n List.mem_cons_self r member own] at holds
        cases holds
      · exact combinations_of_requiredEmpty below fun m there => excluded m (List.mem_cons_of_mem _ there)
    next => rfl

theorem combinations_of_requiredEmpty : ∀ {ts : List JoinTree} {r : Row}, anyRequiredEmpty ts = true →
    (∀ n ∈ nodesOf ts, ∀ r ∈ db.rows n.row.table, n.conditions.predictsEmpty = true →
      n.conditions.holds r.record = false) →
    combinations db r ts = []
  | [], _, required, _ => by cases required
  | t :: ts, r, required, excluded => by
    rw [nodesOf, List.forall_mem_append] at excluded
    rw [combinations_cons, List.flatMap_eq_nil_iff]
    rcases Bool.or_eq_true_iff.mp required with own | rest
    · obtain ⟨kind, predicted⟩ := Bool.and_eq_true_iff.mp own
      have empty := rowsOf_of_predictsEmpty predicted excluded.1
      have none_ : t.contributed db r = [] := by
        cases edge : t.top.edge with
        | none => simp [JoinNode.kind?, edge] at kind
        | some e =>
          have alone : t.partners db r e = [] :=
            List.flatMap_eq_nil_iff.mpr fun s linked => empty s (List.mem_filter.mp linked).1
          rw [contributed_of_edge edge, alone]
          cases kind' : e.kind <;> simp [JoinNode.kind?, edge, kind', JoinKind.isRequired] at kind ⊢ <;> rfl
      rw [none_]
      intro a member
      cases member
    · intro a _
      rw [combinations_of_requiredEmpty rest excluded.2, List.map_nil]

end

/-! ## What is left -/

mutual

/-- The tree without the trees that are left out. -/
def kept : JoinTree → JoinTree
  | node n children => node n (keptOf children)
termination_by structural t => t

def keptOf : List JoinTree → List JoinTree
  | [] => []
  | t :: ts => if t.isLeftOut then keptOf ts else t.kept :: keptOf ts
termination_by structural ts => ts

end

@[simp] theorem top_kept (t : JoinTree) : t.kept.top = t.top := by
  cases t
  rfl

theorem kind?_of_leftOut {t : JoinTree} (leftOut : t.isLeftOut = true) : t.top.kind? = some .anti :=
  beq_iff_eq.mp (Bool.and_eq_true_iff.mp leftOut).1

mutual

/-- What is left out has no part in predictions. -/
theorem predictsEmpty_kept : ∀ t : JoinTree, t.kept.predictsEmpty = t.predictsEmpty
  | node n children => congrArg (n.conditions.predictsEmpty || ·) (anyRequiredEmpty_keptOf children)

theorem anyRequiredEmpty_keptOf : ∀ ts : List JoinTree, anyRequiredEmpty (keptOf ts) = anyRequiredEmpty ts
  | [] => rfl
  | t :: ts => by
    rw [keptOf, anyRequiredEmpty]
    by_cases leftOut : t.isLeftOut = true
    · rw [if_pos leftOut, anyRequiredEmpty_keptOf ts, kind?_of_leftOut leftOut]
      rfl
    · rw [if_neg leftOut, anyRequiredEmpty, anyRequiredEmpty_keptOf ts, predictsEmpty_kept t, top_kept]

end

theorem isLeftOut_kept (t : JoinTree) : t.kept.isLeftOut = t.isLeftOut := by
  rw [isLeftOut, isLeftOut, predictsEmpty_kept, top_kept]

mutual

theorem placed_kept (g : Option Nat) : ∀ t : JoinTree, t.kept.placed g = t.placed g
  | node n children => congrArg (fun ks => Placed.mk n g (n.ownConditions ++ ks)) (subqueries_keptOf children)

theorem layersBelow_kept (g : Option Nat) : ∀ t : JoinTree, t.kept.layersBelow g = t.layersBelow g
  | node _ children => layersOf_keptOf g children

theorem layersOf_keptOf (g : Option Nat) : ∀ ts : List JoinTree, layersOf g (keptOf ts) = layersOf g ts
  | [] => rfl
  | t :: ts => by
    rw [keptOf, layersOf]
    by_cases leftOut : t.isLeftOut = true
    · rw [if_pos leftOut, layersOf_keptOf g ts, kind?_of_leftOut leftOut, mergeLayers]
    · rw [if_neg leftOut, layersOf, layersOf_keptOf g ts, top_kept, placed_kept g t, layersBelow_kept g t,
        placed_kept (some t.top.id) t, layersBelow_kept (some t.top.id) t]

theorem subqueries_keptOf : ∀ ts : List JoinTree, subqueries (keptOf ts) = subqueries ts
  | [] => rfl
  | t :: ts => by
    rw [keptOf, subqueries]
    by_cases leftOut : t.isLeftOut = true
    · obtain ⟨kind, predicted⟩ := Bool.and_eq_true_iff.mp leftOut
      rw [if_pos leftOut, subqueries_keptOf ts]
      cases edge : t.top.edge with
      | none => simp [JoinNode.kind?, edge] at kind
      | some e =>
        have anti : e.kind = .anti := by simpa [JoinNode.kind?, edge] using kind
        simp [anti, predicted]
    · rw [if_neg leftOut, subqueries, subqueries_keptOf ts, top_kept, predictsEmpty_kept t, placed_kept none t,
        layersBelow_kept none t]

end

theorem selection_kept (t : JoinTree) : t.kept.selection = t.selection := by
  rw [selection, selection, tables, tables, placed_kept none t, layersBelow_kept none t]

mutual

theorem nodes_kept : ∀ t : JoinTree, t.kept.nodes.Sublist t.nodes
  | node n children => (nodesOf_keptOf children).cons_cons n

theorem nodesOf_keptOf : ∀ ts : List JoinTree, (nodesOf (keptOf ts)).Sublist (nodesOf ts)
  | [] => List.Sublist.refl _
  | t :: ts => by
    rw [keptOf, nodesOf]
    split
    · exact (nodesOf_keptOf ts).trans (List.sublist_append_right _ _)
    · exact (nodes_kept t).append (nodesOf_keptOf ts)

end

mutual

theorem hangs_kept : ∀ {t : JoinTree}, t.Hangs → t.kept.Hangs
  | node _ _, hangs => hangOn_keptOf hangs

theorem hangOn_keptOf {id : Nat} : ∀ {ts : List JoinTree}, HangOn id ts → HangOn id (keptOf ts)
  | [], _ => trivial
  | t :: ts, ⟨first, hangs, rest⟩ => by
    rw [keptOf]
    split
    · exact hangOn_keptOf rest
    · exact ⟨by rw [top_kept]; exact first, hangs_kept hangs, hangOn_keptOf rest⟩

end

theorem Proper.kept {t : JoinTree} (proper : t.Proper) : t.kept.Proper where
  hangs := hangs_kept proper.hangs
  distinct := proper.distinct.sublist ((nodes_kept t).map _)

mutual

theorem not_leftOut_of_kept : ∀ {t u : JoinTree}, t.isLeftOut = false → u ∈ t.kept.subtrees →
    u.isLeftOut = false
  | node n children, u, there, member => by
    rcases List.mem_cons.mp member with rfl | below
    · exact (isLeftOut_kept (node n children)).trans there
    · exact not_leftOut_of_keptOf below

theorem not_leftOut_of_keptOf : ∀ {ts : List JoinTree} {u : JoinTree}, u ∈ subtreesOf (keptOf ts) →
    u.isLeftOut = false
  | [], _, member => by cases member
  | t :: ts, u, member => by
    rw [keptOf] at member
    split at member
    · exact not_leftOut_of_keptOf member
    next kept =>
      rcases List.mem_append.mp member with first | rest
      · exact not_leftOut_of_kept (Bool.eq_false_iff.mpr kept) first
      · exact not_leftOut_of_keptOf rest

end

/-- In what is left, nothing is left out. -/
theorem faithful_kept {t : JoinTree} (there : t.isLeftOut = false) : t.kept.Faithful db := by
  intro u member leftOut
  rw [not_leftOut_of_kept there member] at leftOut
  cases leftOut

end JoinTree
end Sift
