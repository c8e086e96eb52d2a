import Sift.Proofs.Join.JoinedRows
import Sift.Proofs.Sql.RoundTrip
import Sift.Join.Selection
import Mathlib.Data.List.Induction

/-!
# Rows of placed tables

Tables whose parents are placed before them are joined one after the other. The rows of
their selection are the assignments with an accepted, linked row for every table
outside of all groups, and for every outer join either a group of such rows, or none
because none would do.
-/
namespace Sift

open Sql

namespace Sql

/-! ## Conditions of joins -/

theorem compare_eq_true_iff (v w : Value) : Datum.compare .eq (.value v) (.value w) = some true ↔
    v.isNull = false ∧ w.isNull = false ∧ v.equals w = true := by
  rw [Datum.compare, Value.equals]
  cases first : v.isNull <;> cases second : w.isNull <;> simp [Datum.isNull, first, second]
  cases compared : v.compare? w with
  | some o => simp [Datum.compare?, compared, Comparison.holds]
  | none => simp [Datum.compare?, compared, Datum.same]

theorem conjoin_true_iff {db : Database} {look : Lookup} {e : Expr} {cs : List Condition} :
    (Condition.conjoin e cs).truth db look = some true ↔
      e.truth db look = some true ∧ ∀ c ∈ cs, c.expr.truth db look = some true := by
  induction cs generalizing e with
  | nil => simp [Condition.conjoin]
  | cons c cs ih =>
    rw [Condition.conjoin, Expr.truth, Truth.and_eq_true, ih, List.forall_mem_cons]

/-- The columns of a table that has a row. -/
theorem lookup_of_row {a : Assignment} {names : List String} {look : Lookup} {name : String} {r : Row}
    (member : name ∈ names) (row : a name = some r) (column : String) :
    a.lookup names look ⟨some name, column⟩ = r.record.valueOf column := by
  simp [Assignment.lookup, member, row]

theorem lookup_of_missing {a : Assignment} {names : List String} {look : Lookup} {name : String}
    (member : name ∈ names) (missing : a name = none) (column : String) :
    a.lookup names look ⟨some name, column⟩ = .null := by
  simp [Assignment.lookup, member, missing]

/-- A link is true of linked rows only. -/
theorem link_true_iff (db : Database) (look : Lookup) (a : Assignment) {names : List String} {n : JoinNode}
    {e : JoinEdge} (parent : tableName e.parent ∈ names) (child : n.name ∈ names) :
    (n.linkBy e).expr.truth db (a.lookup names look) = some true ↔
      ∃ q r, a (tableName e.parent) = some q ∧ a n.name = some r ∧ e.link.holds q.record r.record = true := by
  show Datum.compare .eq (.value (a.lookup names look ⟨some (tableName e.parent), e.link.parent⟩))
    (.value (a.lookup names look ⟨some n.name, e.link.child⟩)) = some true ↔ _
  rw [compare_eq_true_iff]
  cases above : a (tableName e.parent) with
  | none => simp [lookup_of_missing parent above, Value.isNull]
  | some q =>
    cases row : a n.name with
    | none => simp [lookup_of_missing child row, Value.isNull]
    | some r =>
      rw [lookup_of_row parent above, lookup_of_row child row]
      simp [JoinLink.holds, and_assoc]

end Sql

namespace Placed

variable {db : Database} {look : Lookup}

/-! ## Rows of tables -/

/-- A row satisfies the conditions of a table, whatever other columns hold. -/
def Accepts (db : Database) (p : Placed) (r : Row) : Prop :=
  ∀ look : Lookup, (∀ column, look ⟨some p.node.name, column⟩ = r.record.valueOf column) →
    ∀ k ∈ p.conditions, k.expr.truth db look = some true

/-- The conditions of a table are about its own rows only. -/
def Closed (db : Database) (p : Placed) : Prop :=
  ∀ r ∈ db.rows p.node.row.table, ∀ look : Lookup,
    (∀ column, look ⟨some p.node.name, column⟩ = r.record.valueOf column) →
    (∀ k ∈ p.conditions, k.expr.truth db look = some true) → p.Accepts db r

/-- The row for the parent is linked to a row for the table. -/
def Attached (db : Database) (a : Assignment) (p : Placed) : Prop :=
  ∃ e q r, p.node.edge = some e ∧ a (tableName e.parent) = some q ∧ a p.node.name = some r ∧
    r ∈ db.rows p.node.row.table ∧ e.link.holds q.record r.record = true

/-- It is linked to an accepted row. -/
def Present (db : Database) (a : Assignment) (p : Placed) : Prop :=
  p.Attached db a ∧ ∀ r, a p.node.name = some r → p.Accepts db r

theorem attached_of_same {a b : Assignment} {p : Placed}
    (parent : ∀ e, p.node.edge = some e → a (tableName e.parent) = b (tableName e.parent))
    (own : a p.node.name = b p.node.name) (attached : p.Attached db a) : p.Attached db b := by
  obtain ⟨e, q, r, edge, above, row, member, linked⟩ := attached
  exact ⟨e, q, r, edge, by rw [← parent e edge, above], by rw [← own, row], member, linked⟩

theorem present_of_same {a b : Assignment} {p : Placed}
    (parent : ∀ e, p.node.edge = some e → a (tableName e.parent) = b (tableName e.parent))
    (own : a p.node.name = b p.node.name) (present : p.Present db a) : p.Present db b :=
  ⟨attached_of_same parent own present.1, fun r row => present.2 r (own.trans row)⟩

/-- A row for a table, and nothing else. -/
theorem gives_tableRef (n : JoinNode) :
    From.Gives db look (Source.table n.tableRef).from_ fun a => ∃ r ∈ db.rows n.row.table, a n.name = some r :=
  From.gives_table n.row.table n.name

@[simp] theorem names_tableRef (n : JoinNode) : (Source.table n.tableRef).from_.names = [n.name] := rfl

/-! ## Inner joins -/

theorem joinInner_of_edge {s : Source} {p : Placed} {e : JoinEdge} (edge : p.node.edge = some e) :
    joinInner s p = .join false s (.table p.node.tableRef) (p.node.linkBy e) [] := by
  rw [joinInner, edge]

/-- An inner join attaches a row to each row of the source. -/
theorem gives_joinInner {s : Source} {p : Placed} {e : JoinEdge} {P : Assignment → Prop}
    (gives : From.Gives db look s.from_ P) (edge : p.node.edge = some e)
    (parent : tableName e.parent ∈ s.from_.names) (fresh : p.node.name ∉ s.from_.names) :
    From.Gives db look (joinInner s p).from_ fun a => P a ∧ p.Attached db a := by
  have apart : s.from_.names.Disjoint (Source.table p.node.tableRef).from_.names := by
    simpa [List.disjoint_comm] using fresh
  rw [joinInner_of_edge edge]
  refine (gives.inner (gives_tableRef p.node) apart).congr fun a => and_congr_right fun _ => ?_
  have link := link_true_iff db look a (List.mem_append_left [p.node.name] parent)
    (List.mem_append_right s.from_.names (List.mem_singleton_self p.node.name))
  rw [From.Fits, Condition.conjoin]
  constructor
  · rintro ⟨⟨r, member, row⟩, fits⟩
    obtain ⟨q, r', above, row', linked⟩ := link.mp fits
    cases Option.some.inj (row.symm.trans row')
    exact ⟨e, q, r, edge, above, row, member, linked⟩
  · rintro ⟨e', q, r, edge', above, row, member, linked⟩
    cases Option.some.inj (edge.symm.trans edge')
    exact ⟨⟨r, member, row⟩, link.mpr ⟨q, r, above, row, linked⟩⟩

theorem names_joinInner {s : Source} {p : Placed} {e : JoinEdge} (edge : p.node.edge = some e) :
    (joinInner s p).from_.names = s.from_.names ++ [p.node.name] := by
  rw [joinInner_of_edge edge]
  rfl

/-- Tables can be attached one after the other to a source with given names: their names are new, and
their parents are there. -/
structure Attachable (names : List String) (ps : List Placed) : Prop where
  parent : ∀ before p after, ps = before ++ p :: after →
    ∃ e, p.node.edge = some e ∧ tableName e.parent ∈ names ++ before.map (·.node.name)
  distinct : (names ++ ps.map (·.node.name)).Nodup

theorem Attachable.init {names : List String} {ps : List Placed} {p : Placed}
    (attachable : Attachable names (ps ++ [p])) : Attachable names ps where
  parent before q after split := by
    refine attachable.parent before q (after ++ [p]) ?_
    rw [split, List.append_assoc, List.cons_append]
  distinct := by
    refine attachable.distinct.sublist ?_
    rw [List.map_append]
    exact (List.sublist_append_left _ _).append_left names

theorem names_foldl_joinInner {s : Source} {ps : List Placed} (attachable : Attachable s.from_.names ps) :
    (ps.foldl joinInner s).from_.names = s.from_.names ++ ps.map (·.node.name) := by
  induction ps using List.reverseRecOn with
  | nil => simp
  | append_singleton ps p ih =>
    obtain ⟨e, edge, -⟩ := attachable.parent ps p [] rfl
    rw [List.foldl_append, List.foldl_cons, List.foldl_nil, names_joinInner edge, ih attachable.init]
    simp

/-- Inner joins attach a row for each of their tables. -/
theorem gives_foldl_joinInner {s : Source} {ps : List Placed} {P : Assignment → Prop}
    (gives : From.Gives db look s.from_ P) (attachable : Attachable s.from_.names ps) :
    From.Gives db look (ps.foldl joinInner s).from_ fun a => P a ∧ ∀ p ∈ ps, p.Attached db a := by
  induction ps using List.reverseRecOn with
  | nil => exact gives.congr fun a => by simp
  | append_singleton ps p ih =>
    have names := names_foldl_joinInner attachable.init
    obtain ⟨e, edge, parent⟩ := attachable.parent ps p [] rfl
    have distinct := attachable.distinct
    rw [List.map_append, ← List.append_assoc, ← names] at distinct
    have fresh := (List.nodup_append'.mp distinct).2.2
    rw [← names] at parent
    rw [List.foldl_append]
    have joined := gives_joinInner (ih attachable.init) edge parent fun here => fresh here (by simp)
    exact joined.congr fun a => by simp [or_imp, forall_and, and_assoc]

/-! ## Layouts -/

/-- How a table hangs on the one of its parent: an inner join belongs to the same group, and an outer
join starts a group of its own. -/
def HangsOn (q p : Placed) : Prop :=
  ∃ e, p.node.edge = some e ∧ e.parent = q.node.id ∧
    (e.kind = .inner ∧ p.group = q.group ∨ e.kind = .left ∧ p.group = some p.node.id)

/-- The tables of the group that an outer join starts. -/
def groupOf (all : List Placed) (p : Placed) : List Placed :=
  all.filter fun m => m.group == some p.node.id

/-- The tables that inner joins attach to the group. -/
def nestedOf (all : List Placed) (p : Placed) : List Placed :=
  (groupOf all p).filter fun m => m.node.kind? == some .inner

/-- Tables below a top one, each after the table it hangs on. -/
structure Layout (top : Placed) (rest : List Placed) : Prop where
  root : top.group = none
  distinct : ((top :: rest).map (·.node.id)).Nodup
  parent : ∀ before p after, rest = before ++ p :: after → ∃ q ∈ top :: before, HangsOn q p

theorem tableName_injective : Function.Injective tableName := by
  intro m n same
  have chars := congrArg String.toList same
  simp only [tableName, String.toList_append] at chars
  have shown (k : Nat) : (toString k).toList = Nat.toDigits 10 k := Nat.toList_repr
  have digits := List.append_cancel_left chars
  rw [shown, shown] at digits
  have read := congrArg (Nat.ofDigitChars 10 · 0) digits
  simpa only [Nat.ofDigitChars_ten_toDigits] using read

namespace Layout

variable {top : Placed} {rest : List Placed} (layout : Layout top rest)
include layout

theorem eq_of_name {p q : Placed} (first : p ∈ top :: rest) (second : q ∈ top :: rest)
    (same : p.node.name = q.node.name) : p = q :=
  List.inj_on_of_nodup_map layout.distinct first second (tableName_injective same)

theorem top_notMem : top ∉ rest := by
  intro member
  have distinct := layout.distinct
  rw [List.map_cons, List.nodup_cons] at distinct
  exact distinct.1 (List.mem_map_of_mem member)

theorem hangs {p : Placed} (member : p ∈ rest) : ∃ q ∈ top :: rest, HangsOn q p := by
  obtain ⟨before, after, split⟩ := List.append_of_mem member
  obtain ⟨q, earlier, hangs⟩ := layout.parent before p after split
  refine ⟨q, ?_, hangs⟩
  rcases List.mem_cons.mp earlier with rfl | earlier
  · exact List.mem_cons_self
  · rw [split]
    exact List.mem_cons_of_mem _ (List.mem_append_left _ earlier)

/-- The outer join that starts a group comes before all others of the group. -/
theorem exists_head {before after : List Placed} (split : rest = before ++ after) {q : Placed}
    (member : q ∈ before) {g : Nat} (group : q.group = some g) :
    ∃ h ∈ before, h.node.kind? = some .left ∧ h.node.id = g := by
  induction before using List.reverseRecOn generalizing after q with
  | nil => cases member
  | append_singleton before p ih =>
    have split' : rest = before ++ p :: after := by rw [split]; simp
    rcases List.mem_append.mp member with earlier | last
    · obtain ⟨h, there, head⟩ := ih split' earlier group
      exact ⟨h, List.mem_append_left _ there, head⟩
    · cases List.mem_singleton.mp last
      obtain ⟨o, above, e, edge, -, ⟨-, same⟩ | ⟨left, own⟩⟩ := layout.parent before p after split'
      · rcases List.mem_cons.mp above with rfl | above
        · rw [group, layout.root] at same
          cases same
        · obtain ⟨h, there, head⟩ := ih split' above (same ▸ group)
          exact ⟨h, List.mem_append_left _ there, head⟩
      · refine ⟨p, member, ?_, Option.some.inj (own.symm.trans group)⟩
        rw [JoinNode.kind?, edge, Option.map_some, left]

omit layout in
theorem mem_groupOf_iff {p q : Placed} : q ∈ groupOf rest p ↔ q ∈ rest ∧ q.group = some p.node.id := by
  simp [groupOf]

theorem group_of_left {p : Placed} (member : p ∈ rest) (left : p.node.kind? = some .left) :
    p.group = some p.node.id := by
  obtain ⟨q, -, e, edge, -, ⟨inner, -⟩ | ⟨-, own⟩⟩ := layout.hangs member
  · rw [JoinNode.kind?, edge, Option.map_some, inner] at left
    cases left
  · exact own

/-- A group is its outer join and the inner joins nested in it. -/
theorem mem_groupOf_cases {p q : Placed} (there : p ∈ rest) (member : q ∈ groupOf rest p) :
    q = p ∨ q ∈ nestedOf rest p := by
  obtain ⟨inside, group⟩ := mem_groupOf_iff.mp member
  obtain ⟨o, -, e, edge, -, ⟨inner, -⟩ | ⟨-, own⟩⟩ := layout.hangs inside
  · refine .inr (List.mem_filter.mpr ⟨member, ?_⟩)
    simp [JoinNode.kind?, edge, inner]
  · refine .inl (layout.eq_of_name (List.mem_cons_of_mem _ inside) (List.mem_cons_of_mem _ there) ?_)
    exact congrArg tableName (Option.some.inj (own.symm.trans group))

omit layout in
theorem mem_nestedOf_iff {p q : Placed} :
    q ∈ nestedOf rest p ↔ q ∈ rest ∧ q.group = some p.node.id ∧ q.node.kind? = some .inner := by
  rw [nestedOf, List.mem_filter, mem_groupOf_iff, beq_iff_eq, and_assoc]

theorem nodup_names : ((top :: rest).map (·.node.name)).Nodup := by
  have named : (top :: rest).map (·.node.name) = ((top :: rest).map (·.node.id)).map tableName := by
    rw [List.map_map]
    rfl
  rw [named]
  exact layout.distinct.map tableName_injective

theorem attachable_nestedOf {p : Placed} (there : p ∈ rest) (left : p.node.kind? = some .left) :
    Attachable [p.node.name] (nestedOf rest p) where
  parent before q after split := by
    have member : q ∈ nestedOf rest p := by rw [split]; simp
    obtain ⟨-, group, inner⟩ := mem_nestedOf_iff.mp member
    rw [nestedOf, groupOf, List.filter_filter, List.filter_eq_append_iff] at split
    obtain ⟨front, back, whole, rfl, split⟩ := split
    obtain ⟨skipped, rest', rfl, unlike, -, -⟩ := List.filter_eq_cons_iff.mp split
    obtain ⟨o, above, e, edge, parent, hangs⟩ := layout.parent (front ++ skipped) q rest' (by simp [whole])
    refine ⟨e, edge, ?_⟩
    rw [parent]
    have same : q.group = o.group := by
      rcases hangs with ⟨-, same⟩ | ⟨left, -⟩
      · exact same
      · rw [JoinNode.kind?, edge, Option.map_some, left] at inner
        cases inner
    rw [group] at same
    rcases List.mem_cons.mp above with rfl | above
    · rw [layout.root] at same
      cases same
    have inside : o ∈ rest := by
      rw [whole]
      rcases List.mem_append.mp above with here | here <;> simp [here]
    rcases layout.mem_groupOf_cases there (mem_groupOf_iff.mpr ⟨inside, same.symm⟩) with rfl | nested
    · exact List.mem_cons_self
    · obtain ⟨-, group', inner'⟩ := mem_nestedOf_iff.mp nested
      refine List.mem_cons_of_mem _ (List.mem_map.mpr ⟨o, List.mem_filter.mpr ⟨?_, ?_⟩, rfl⟩)
      · refine (List.mem_append.mp above).resolve_right fun here => unlike o here ?_
        simp [group', inner']
      · simp [group', inner']
  distinct := by
    have names := layout.nodup_names
    rw [List.map_cons, List.nodup_cons] at names
    refine List.nodup_cons.mpr ⟨?_, ?_⟩
    · intro same
      obtain ⟨q, member, same⟩ := List.mem_map.mp same
      obtain ⟨inside, -, inner⟩ := mem_nestedOf_iff.mp member
      have equal := layout.eq_of_name (List.mem_cons_of_mem _ inside) (List.mem_cons_of_mem _ there) same
      rw [equal, left] at inner
      cases inner
    · refine names.2.sublist (List.Sublist.map _ ?_)
      exact List.filter_sublist.trans List.filter_sublist

end Layout

/-! ## Outer joins -/

/-- All tables of a group have accepted, linked rows. -/
def Grouped (db : Database) (all : List Placed) (a : Assignment) (p : Placed) : Prop :=
  ∀ q ∈ groupOf all p, q.Present db a

/-- The group of an outer join is there, or it is missing and none would do. -/
def Decided (db : Database) (all : List Placed) (a : Assignment) (p : Placed) : Prop :=
  Grouped db all a p ∨ (∀ q ∈ groupOf all p, a q.node.name = none) ∧
    ∀ b : Assignment, (∀ e, p.node.edge = some e → a (tableName e.parent) = b (tableName e.parent)) →
      ¬Grouped db all b p

/-- The tables of a group, joined to each other. -/
def groupSource (all : List Placed) (p : Placed) : Source :=
  (nestedOf all p).foldl joinInner (.table p.node.tableRef)

theorem attach_of_left {all : List Placed} {s : Source} {p : Placed} {e : JoinEdge}
    (edge : p.node.edge = some e) (left : e.kind = .left) :
    attach all s p =
      .join true s (groupSource all p) (p.node.linkBy e) ((groupOf all p).flatMap (·.conditions)) := by
  simp only [attach, edge, left]
  rfl

section

variable {top : Placed} {rest : List Placed} (layout : Layout top rest) {p : Placed} (there : p ∈ rest)
  (left : p.node.kind? = some .left)
include layout there left

theorem self_mem_groupOf : p ∈ groupOf rest p :=
  Layout.mem_groupOf_iff.mpr ⟨there, layout.group_of_left there left⟩

theorem names_groupSource :
    (groupSource rest p).from_.names = p.node.name :: (nestedOf rest p).map (·.node.name) :=
  names_foldl_joinInner (s := .table p.node.tableRef) (layout.attachable_nestedOf there left)

theorem gives_groupSource : From.Gives db look (groupSource rest p).from_ fun a =>
    (∃ r ∈ db.rows p.node.row.table, a p.node.name = some r) ∧ ∀ q ∈ nestedOf rest p, q.Attached db a :=
  gives_foldl_joinInner (gives_tableRef p.node) (layout.attachable_nestedOf there left)

theorem mem_names_groupSource {n : String} :
    n ∈ (groupSource rest p).from_.names ↔ ∃ q ∈ groupOf rest p, q.node.name = n := by
  rw [names_groupSource layout there left, List.mem_cons, List.mem_map]
  constructor
  · rintro (rfl | ⟨q, member, rfl⟩)
    · exact ⟨p, self_mem_groupOf layout there left, rfl⟩
    · exact ⟨q, (List.mem_filter.mp member).1, rfl⟩
  · rintro ⟨q, member, rfl⟩
    rcases layout.mem_groupOf_cases there member with rfl | nested
    · exact .inl rfl
    · exact .inr ⟨q, nested, rfl⟩

/-- Whether a group is there depends on its rows and the row for the parent of its outer join. -/
theorem grouped_of_same {a b : Assignment}
    (parent : ∀ e, p.node.edge = some e → a (tableName e.parent) = b (tableName e.parent))
    (own : ∀ q ∈ groupOf rest p, a q.node.name = b q.node.name) (grouped : Grouped db rest a p) :
    Grouped db rest b p := by
  intro q member
  refine present_of_same ?_ (own q member) (grouped q member)
  rcases layout.mem_groupOf_cases there member with rfl | nested
  · exact parent
  · intro e edge
    obtain ⟨before, after, split⟩ := List.append_of_mem nested
    obtain ⟨e', edge', above⟩ := (layout.attachable_nestedOf there left).parent before q after split
    cases Option.some.inj (edge.symm.trans edge')
    rcases List.mem_cons.mp above with same | above
    · rw [same]
      exact own p (self_mem_groupOf layout there left)
    · obtain ⟨o, here, same⟩ := List.mem_map.mp above
      rw [← same]
      refine own o (List.mem_filter.mp (?_ : o ∈ nestedOf rest p)).1
      rw [split]
      exact List.mem_append_left _ here

/-- The condition of an outer join is true of the rows of its group exactly when the group is there. -/
theorem fits_group_iff (closed : ∀ q ∈ rest, q.Closed db) {s : Source} {e : JoinEdge}
    (edge : p.node.edge = some e) (parent : tableName e.parent ∈ s.from_.names) (m : Assignment) :
    ((∃ r ∈ db.rows p.node.row.table, m p.node.name = some r) ∧ ∀ q ∈ nestedOf rest p, q.Attached db m) ∧
      From.Fits db look s.from_ (groupSource rest p).from_
        (Condition.conjoin (p.node.linkBy e).expr ((groupOf rest p).flatMap (·.conditions))) m ↔
    Grouped db rest m p := by
  have inside (q : Placed) (member : q ∈ groupOf rest p) :
      q.node.name ∈ s.from_.names ++ (groupSource rest p).from_.names :=
    List.mem_append_right _ ((mem_names_groupSource layout there left).mpr ⟨q, member, rfl⟩)
  have self := self_mem_groupOf layout there left
  have link := link_true_iff db look m (List.mem_append_left _ parent) (inside p self)
  rw [From.Fits, conjoin_true_iff, link]
  constructor
  · rintro ⟨⟨⟨r, member, row⟩, nested⟩, ⟨o, r', above, row', linked⟩, conditions⟩ q group
    cases Option.some.inj (row.symm.trans row')
    have attached : q.Attached db m := by
      rcases layout.mem_groupOf_cases there group with rfl | inner
      · exact ⟨e, o, r, edge, above, row, member, linked⟩
      · exact nested q inner
    refine ⟨attached, fun s own => ?_⟩
    obtain ⟨-, -, s', -, -, own', listed, -⟩ := attached
    cases Option.some.inj (own.symm.trans own')
    exact closed q (Layout.mem_groupOf_iff.mp group).1 s listed
      (m.lookup _ look) (lookup_of_row (inside q group) own)
      fun k member => conditions k (List.mem_flatMap.mpr ⟨q, group, member⟩)
  · intro grouped
    obtain ⟨e', o, r, edge', above, row, member, linked⟩ := (grouped p self).1
    cases Option.some.inj (edge.symm.trans edge')
    refine ⟨⟨⟨r, member, row⟩, fun q nested => (grouped q (List.mem_filter.mp nested).1).1⟩,
      ⟨o, r, above, row, linked⟩, fun k member => ?_⟩
    obtain ⟨q, group, member⟩ := List.mem_flatMap.mp member
    obtain ⟨⟨-, -, s', -, -, own, -⟩, accepts⟩ := grouped q group
    exact accepts s' own _ (lookup_of_row (inside q group) own) k member

/-- An outer join decides its group. -/
theorem gives_attach_left (closed : ∀ q ∈ rest, q.Closed db) {s : Source} {P : Assignment → Prop}
    {e : JoinEdge} (gives : From.Gives db look s.from_ P) (edge : p.node.edge = some e)
    (parent : tableName e.parent ∈ s.from_.names)
    (fresh : ∀ q ∈ groupOf rest p, q.node.name ∉ s.from_.names) :
    From.Gives db look (attach rest s p).from_ fun a => P a ∧ Decided db rest a p := by
  have names {n : String} : n ∈ (groupSource rest p).from_.names ↔ ∃ q ∈ groupOf rest p, q.node.name = n :=
    mem_names_groupSource layout there left
  have apart : s.from_.names.Disjoint (groupSource rest p).from_.names := by
    intro n here other
    obtain ⟨q, member, rfl⟩ := names.mp other
    exact fresh q member here
  have kind : e.kind = .left := by
    rw [JoinNode.kind?, edge] at left
    exact Option.some.inj left
  have fits (m : Assignment) : _ ∧ From.Fits db look s.from_ (groupSource rest p).from_ _ m ↔
    Grouped db rest m p := fits_group_iff layout there left closed edge parent m
  rw [attach_of_left edge kind]
  refine (gives.outer (gives_groupSource layout there left) apart).congr fun m =>
    and_congr_right fun _ => or_congr (fits m) (and_congr ?_ ?_)
  · exact ⟨fun missing q member => missing _ (names.mpr ⟨q, member, rfl⟩), fun missing n here => by
      obtain ⟨q, member, rfl⟩ := names.mp here
      exact missing q member⟩
  · constructor
    · intro unfit b same grouped
      -- the group of `b` beside the other rows of `m`
      let c := (m.only s.from_.names).merge (b.only (groupSource rest p).from_.names)
      have agree : Assignment.AgreeOn s.from_.names m c := fun n here =>
        (m.agreeOn_only (fun _ member => member) n here).trans
          (Assignment.merge_left (b.within_only _) (apart here)).symm
      have own (q : Placed) (member : q ∈ groupOf rest p) : b q.node.name = c q.node.name :=
        (b.agreeOn_only (fun _ member => member) _ (names.mpr ⟨q, member, rfl⟩)).trans
          (Assignment.merge_right (m.within_only _) (fresh q member)).symm
      have above (e' : JoinEdge) (edge' : p.node.edge = some e') :
          b (tableName e'.parent) = c (tableName e'.parent) := by
        rw [← same e' edge']
        cases Option.some.inj (edge.symm.trans edge')
        exact agree _ parent
      obtain ⟨property, true_⟩ := (fits c).mpr (grouped_of_same layout there left above own grouped)
      exact unfit c agree property true_
    · intro unfit b agree property true_
      refine unfit b (fun e' edge' => ?_) ((fits b).mp ⟨property, true_⟩)
      cases Option.some.inj (edge.symm.trans edge')
      exact agree _ parent

end

/-! ## All tables -/

theorem attach_of_inner {all : List Placed} {s : Source} {p : Placed} {e : JoinEdge}
    (edge : p.node.edge = some e) (inner : e.kind = .inner) :
    attach all s p = if p.isOuter then s else joinInner s p := by
  simp only [attach, edge, inner]

/-- The tables of a source to which those before others are attached: an outer join brings its group. -/
def Reached (top : Placed) (rest before : List Placed) (n : String) : Prop :=
  n = top.node.name ∨ ∃ q ∈ rest, q.node.name = n ∧
    (q.group = none ∧ q ∈ before ∨ ∃ h ∈ before, h.node.kind? = some .left ∧ q.group = some h.node.id)

/-- What a table asks of the rows of the source: an inner join outside of all groups attaches a row,
and an outer join decides its group. -/
def Sits (db : Database) (all : List Placed) (a : Assignment) (p : Placed) : Prop :=
  (p.node.kind? = some .inner → p.group = none → p.Attached db a) ∧
    (p.node.kind? = some .left → Decided db all a p)

theorem reached_concat {top : Placed} {rest before : List Placed} {p : Placed} {n : String} :
    Reached top rest (before ++ [p]) n ↔ Reached top rest before n ∨ ∃ q ∈ rest, q.node.name = n ∧
      (q.group = none ∧ q = p ∨ p.node.kind? = some .left ∧ q.group = some p.node.id) := by
  simp only [Reached, List.mem_append, List.mem_singleton]
  constructor
  · rintro (same | ⟨q, inside, name, ⟨outside, here | rfl⟩ | ⟨h, here | rfl, left, group⟩⟩)
    · exact .inl (.inl same)
    · exact .inl (.inr ⟨q, inside, name, .inl ⟨outside, here⟩⟩)
    · exact .inr ⟨q, inside, name, .inl ⟨outside, rfl⟩⟩
    · exact .inl (.inr ⟨q, inside, name, .inr ⟨h, here, left, group⟩⟩)
    · exact .inr ⟨q, inside, name, .inr ⟨left, group⟩⟩
  · rintro ((same | ⟨q, inside, name, ⟨outside, here⟩ | ⟨h, here, left, group⟩⟩) |
      ⟨q, inside, name, ⟨outside, rfl⟩ | ⟨left, group⟩⟩)
    · exact .inl same
    · exact .inr ⟨q, inside, name, .inl ⟨outside, .inl here⟩⟩
    · exact .inr ⟨q, inside, name, .inr ⟨h, .inl here, left, group⟩⟩
    · exact .inr ⟨q, inside, name, .inl ⟨outside, .inr rfl⟩⟩
    · exact .inr ⟨q, inside, name, .inr ⟨p, .inr rfl, left, group⟩⟩

section

variable {top : Placed} {rest : List Placed} (layout : Layout top rest)
include layout

/-- The parent of a table is there when the table is attached. -/
theorem reached_parent {before after : List Placed} {p : Placed} (split : rest = before ++ p :: after) :
    ∃ e, p.node.edge = some e ∧ Reached top rest before (tableName e.parent) := by
  obtain ⟨q, above, e, edge, parent, -⟩ := layout.parent before p after split
  refine ⟨e, edge, ?_⟩
  rw [parent]
  rcases List.mem_cons.mp above with rfl | above
  · exact .inl rfl
  · refine .inr ⟨q, by rw [split]; exact List.mem_append_left _ above, rfl, ?_⟩
    cases group : q.group with
    | none => exact .inl ⟨rfl, above⟩
    | some g =>
      obtain ⟨h, here, left, rfl⟩ := layout.exists_head split above group
      exact .inr ⟨h, here, left, rfl⟩

theorem notMem_before {before after : List Placed} {p : Placed} (split : rest = before ++ p :: after) :
    p ∉ before := by
  intro member
  have distinct := layout.nodup_names
  rw [split, List.map_cons, List.map_append, List.map_cons] at distinct
  have apart := (List.nodup_append'.mp (List.nodup_cons.mp distinct).2).2.2
  exact apart (List.mem_map_of_mem member) List.mem_cons_self

theorem not_reached_inner {before after : List Placed} {p : Placed}
    (split : rest = before ++ p :: after) (outside : p.group = none) :
    ¬Reached top rest before p.node.name := by
  have inside : p ∈ rest := by rw [split]; simp
  rintro (same | ⟨q, member, same, where_⟩)
  · have equal := layout.eq_of_name (List.mem_cons_of_mem _ inside) List.mem_cons_self same
    exact layout.top_notMem (equal ▸ inside)
  · cases layout.eq_of_name (List.mem_cons_of_mem _ member) (List.mem_cons_of_mem _ inside) same
    rcases where_ with ⟨-, here⟩ | ⟨h, -, -, group⟩
    · exact notMem_before layout split here
    · rw [outside] at group
      cases group

theorem not_reached_group {before after : List Placed} {p q : Placed}
    (split : rest = before ++ p :: after) (member : q ∈ groupOf rest p) :
    ¬Reached top rest before q.node.name := by
  have there : p ∈ rest := by rw [split]; simp
  obtain ⟨inside, group⟩ := Layout.mem_groupOf_iff.mp member
  rintro (same | ⟨o, other, same, where_⟩)
  · have equal := layout.eq_of_name (List.mem_cons_of_mem _ inside) List.mem_cons_self same
    exact layout.top_notMem (equal ▸ inside)
  · cases layout.eq_of_name (List.mem_cons_of_mem _ other) (List.mem_cons_of_mem _ inside) same
    rcases where_ with ⟨outside, -⟩ | ⟨h, here, -, group'⟩
    · rw [outside] at group
      cases group
    · have inside : h ∈ rest := by rw [split]; exact List.mem_append_left _ here
      have equal := layout.eq_of_name (List.mem_cons_of_mem _ inside) (List.mem_cons_of_mem _ there)
        (congrArg tableName (Option.some.inj (group'.symm.trans group)))
      exact notMem_before layout split (equal ▸ here)

/-- The source to which the first tables are attached. -/
structure Attaches (db : Database) (look : Lookup) (top : Placed) (rest before : List Placed) (s : Source) :
    Prop where
  gives : From.Gives db look s.from_ fun a =>
    (∃ r ∈ db.rows top.node.row.table, a top.node.name = some r) ∧ ∀ p ∈ before, Sits db rest a p
  names : ∀ n, n ∈ s.from_.names ↔ Reached top rest before n
  distinct : s.from_.names.Nodup

omit layout in
theorem forall_sits_concat {before : List Placed} {p : Placed} {a : Assignment} {Q : Prop} :
    (Q ∧ ∀ q ∈ before ++ [p], Sits db rest a q) ↔ (Q ∧ ∀ q ∈ before, Sits db rest a q) ∧ Sits db rest a p := by
  simp [or_imp, forall_and, and_assoc]

section

variable {before after : List Placed} {p : Placed} {s : Source} {e : JoinEdge}
  (split : rest = before ++ p :: after) (attaches : Attaches db look top rest before s)
  (edge : p.node.edge = some e)
include split attaches edge

/-- An inner join outside of all groups attaches its table. -/
theorem attaches_inner (inner : e.kind = .inner) (outside : p.group = none) :
    Attaches db look top rest (before ++ [p]) (attach rest s p) := by
  have there : p ∈ rest := by rw [split]; simp
  have kind : p.node.kind? = some .inner := by rw [JoinNode.kind?, edge, Option.map_some, inner]
  obtain ⟨e', edge', parent⟩ := reached_parent layout split
  cases Option.some.inj (edge.symm.trans edge')
  rw [← attaches.names] at parent
  have fresh := mt (attaches.names _).mp (not_reached_inner layout split outside)
  rw [attach_of_inner edge inner, if_neg (by simp [isOuter, outside])]
  refine ⟨(gives_joinInner attaches.gives edge parent fresh).congr fun a => ?_, fun n => ?_, ?_⟩
  · rw [forall_sits_concat]
    simp [Sits, kind, outside]
  · rw [names_joinInner edge, List.mem_append, attaches.names, reached_concat, List.mem_singleton]
    refine or_congr_right ⟨?_, ?_⟩
    · rintro rfl
      exact ⟨p, there, rfl, .inl ⟨outside, rfl⟩⟩
    · rintro ⟨q, -, rfl, ⟨-, rfl⟩ | ⟨left, -⟩⟩
      · rfl
      · rw [kind] at left
        cases left
  · rw [names_joinInner edge]
    refine List.nodup_append'.mpr ⟨attaches.distinct, List.nodup_singleton _, ?_⟩
    simpa [List.disjoint_comm] using fresh

omit layout split in
/-- An inner join of a group is attached by the outer join of the group. -/
theorem attaches_nested (inner : e.kind = .inner) {g : Nat} (group : p.group = some g) :
    Attaches db look top rest (before ++ [p]) (attach rest s p) := by
  have kind : p.node.kind? = some .inner := by rw [JoinNode.kind?, edge, Option.map_some, inner]
  rw [attach_of_inner edge inner, if_pos (by simp [isOuter, group])]
  refine ⟨attaches.gives.congr fun a => ?_, fun n => ?_, attaches.distinct⟩
  · rw [forall_sits_concat]
    simp [Sits, kind, group]
  · rw [attaches.names, reached_concat]
    refine (or_iff_left ?_).symm
    rintro ⟨q, -, -, ⟨outside, rfl⟩ | ⟨left, -⟩⟩
    · rw [group] at outside
      cases outside
    · rw [kind] at left
      cases left

/-- An outer join attaches its group. -/
theorem attaches_left (closed : ∀ q ∈ rest, q.Closed db) (left : e.kind = .left) :
    Attaches db look top rest (before ++ [p]) (attach rest s p) := by
  have there : p ∈ rest := by rw [split]; simp
  have kind : p.node.kind? = some .left := by rw [JoinNode.kind?, edge, Option.map_some, left]
  obtain ⟨e', edge', parent⟩ := reached_parent layout split
  cases Option.some.inj (edge.symm.trans edge')
  rw [← attaches.names] at parent
  have fresh (q : Placed) (member : q ∈ groupOf rest p) :=
    mt (attaches.names q.node.name).mp (not_reached_group layout split member)
  have added {n : String} : n ∈ (groupSource rest p).from_.names ↔ ∃ q ∈ groupOf rest p, q.node.name = n :=
    mem_names_groupSource layout there kind
  have names : (attach rest s p).from_.names = s.from_.names ++ (groupSource rest p).from_.names := by
    rw [attach_of_left edge left]
    rfl
  refine ⟨(gives_attach_left layout there kind closed attaches.gives edge parent fresh).congr fun a => ?_,
    fun n => ?_, ?_⟩
  · rw [forall_sits_concat]
    simp [Sits, kind]
  · rw [names, List.mem_append, attaches.names, added, reached_concat]
    refine or_congr_right ⟨?_, ?_⟩
    · rintro ⟨q, member, name⟩
      obtain ⟨inside, group⟩ := Layout.mem_groupOf_iff.mp member
      exact ⟨q, inside, name, .inr ⟨kind, group⟩⟩
    · rintro ⟨q, inside, name, ⟨outside, rfl⟩ | ⟨-, group⟩⟩
      · rw [layout.group_of_left there kind] at outside
        cases outside
      · exact ⟨q, Layout.mem_groupOf_iff.mpr ⟨inside, group⟩, name⟩
  · rw [names]
    refine List.nodup_append'.mpr ⟨attaches.distinct, ?_, ?_⟩
    · rw [names_groupSource layout there kind]
      exact (layout.attachable_nestedOf there kind).distinct
    · intro n here other
      obtain ⟨q, member, rfl⟩ := added.mp other
      exact fresh q member here

end

/-- Tables are attached one after the other. -/
theorem attaches_foldl (closed : ∀ q ∈ rest, q.Closed db) {before after : List Placed}
    (split : rest = before ++ after) :
    Attaches db look top rest before (before.foldl (attach rest) (.table top.node.tableRef)) := by
  induction before using List.reverseRecOn generalizing after with
  | nil =>
    refine ⟨(gives_tableRef top.node).congr fun a => by simp, fun n => ?_, List.nodup_singleton _⟩
    simp [Reached]
  | append_singleton before p ih =>
    have split' : rest = before ++ p :: after := by rw [split]; simp
    have attaches := ih split'
    rw [List.foldl_append, List.foldl_cons, List.foldl_nil]
    obtain ⟨-, -, e, edge, -, ⟨inner, -⟩ | ⟨left, -⟩⟩ := layout.hangs (p := p) (by rw [split']; simp)
    · cases group : p.group with
      | none => exact attaches_inner layout split' attaches edge inner group
      | some g => exact attaches_nested attaches edge inner group
    · exact attaches_left layout split' attaches edge closed left

/-- The source of a selection. -/
theorem attaches_selection (db : Database) (look : Lookup) (closed : ∀ q ∈ rest, q.Closed db) :
    Attaches db look top rest rest (selection top rest).source :=
  attaches_foldl layout closed (List.append_nil rest).symm

/-! ## Selections -/

/-- What the rows of a selection satisfy: tables outside of all groups have accepted rows, and outer
joins have decided their groups. -/
structure Selected (db : Database) (top : Placed) (rest : List Placed) (a : Assignment) : Prop where
  row : ∃ r ∈ db.rows top.node.row.table, a top.node.name = some r ∧ top.Accepts db r
  present : ∀ p ∈ rest, p.group = none → p.Present db a
  decided : ∀ p ∈ rest, p.node.kind? = some .left → Decided db rest a p

theorem attaches_nothing :
    Attaches (fun _ => []) (fun _ => .null) top rest rest (selection top rest).source :=
  attaches_selection layout _ _ (by simp [Closed, Database.rows])

theorem mem_selection_names {n : String} :
    n ∈ (selection top rest).source.from_.names ↔ ∃ p ∈ top :: rest, p.node.name = n := by
  rw [(attaches_nothing layout).names, Reached]
  constructor
  · rintro (rfl | ⟨q, inside, name, -⟩)
    · exact ⟨top, List.mem_cons_self, rfl⟩
    · exact ⟨q, List.mem_cons_of_mem _ inside, name⟩
  · rintro ⟨q, member, rfl⟩
    rcases List.mem_cons.mp member with rfl | inside
    · exact .inl rfl
    · refine .inr ⟨q, inside, rfl, ?_⟩
      cases group : q.group with
      | none => exact .inl ⟨rfl, inside⟩
      | some g =>
        obtain ⟨h, here, left, rfl⟩ := layout.exists_head (List.append_nil rest).symm inside group
        exact .inr ⟨h, here, left, rfl⟩

theorem nodup_selection_names : (selection top rest).source.from_.names.Nodup :=
  (attaches_nothing layout).distinct

omit layout in
theorem mem_selection_conditions {k : Condition} : k ∈ (selection top rest).conditions ↔
    ∃ p ∈ top :: rest, p.group = none ∧ k ∈ p.conditions := by
  simp [selection, isOuter, and_assoc]

/-- The conditions of a selection are true of the rows of its source whose tables are accepted. -/
theorem mem_selection_iff (closed : ∀ q ∈ top :: rest, q.Closed db) (a : Assignment) :
    (a ∈ (selection top rest).source.from_.rows db look ∧ ∀ k ∈ (selection top rest).conditions,
      k.expr.truth db (a.lookup (selection top rest).source.from_.names look) = some true) ↔
    a.Within (selection top rest).source.from_.names ∧ Selected db top rest a := by
  have attaches := attaches_selection layout db look fun q inside =>
    closed q (List.mem_cons_of_mem _ inside)
  have named (p : Placed) (member : p ∈ top :: rest) :
      p.node.name ∈ (selection top rest).source.from_.names :=
    (mem_selection_names layout).mpr ⟨p, member, rfl⟩
  have columns {p : Placed} (member : p ∈ top :: rest) {r : Row} (row : a p.node.name = some r)
      (column : String) : a.lookup (selection top rest).source.from_.names look ⟨some p.node.name, column⟩ =
        r.record.valueOf column := lookup_of_row (named p member) row column
  have outside {p : Placed} (inside : p ∈ rest) (group : p.group = none) : p.node.kind? = some .inner := by
    obtain ⟨-, -, e, edge, -, ⟨inner, -⟩ | ⟨-, own⟩⟩ := layout.hangs inside
    · rw [JoinNode.kind?, edge, Option.map_some, inner]
    · rw [group] at own
      cases own
  rw [attaches.gives.mem, and_assoc]
  refine and_congr_right fun _ => ?_
  constructor
  · rintro ⟨⟨⟨r, listed, row⟩, sits⟩, conditions⟩
    refine ⟨⟨r, listed, row, ?_⟩, fun p inside group => ?_, fun p inside => (sits p inside).2⟩
    · exact closed top List.mem_cons_self r listed _ (columns List.mem_cons_self row) fun k member =>
        conditions k (mem_selection_conditions.mpr ⟨top, List.mem_cons_self, layout.root, member⟩)
    · have attached := (sits p inside).1 (outside inside group) group
      refine ⟨attached, fun s own => ?_⟩
      obtain ⟨-, -, s', -, -, own', listed', -⟩ := attached
      cases Option.some.inj (own.symm.trans own')
      have member := List.mem_cons_of_mem top inside
      exact closed p member s listed' _ (columns member own) fun k given =>
        conditions k (mem_selection_conditions.mpr ⟨p, member, group, given⟩)
  · rintro ⟨⟨r, listed, row, accepts⟩, present, decided⟩
    refine ⟨⟨⟨r, listed, row⟩, fun p inside => ⟨fun _ group => (present p inside group).1,
      decided p inside⟩⟩, fun k member => ?_⟩
    obtain ⟨p, member, group, given⟩ := mem_selection_conditions.mp member
    rcases List.mem_cons.mp member with rfl | inside
    · exact accepts _ (columns member row) k given
    · obtain ⟨⟨-, -, s, -, -, own, -⟩, accepts⟩ := present p inside group
      exact accepts s own _ (columns member own) k given

end

end Placed

/-- The rows of what a selection asks for. -/
theorem Selection.mem_rows_query {db : Database} {look : Lookup} {s : Selection} {a : Assignment} :
    a ∈ s.query.rows db look ↔ a ∈ s.source.from_.rows db look ∧
      ∀ k ∈ s.conditions, k.expr.truth db (a.lookup s.source.from_.names look) = some true := by
  obtain ⟨source, conditions⟩ := s
  cases conditions with
  | nil => simp [query, Query.rows, Condition.all?]
  | cons k ks => simp [query, Query.rows, Condition.all?, conjoin_true_iff]

/-- Whether a subquery gives a row. -/
theorem Condition.truth_subquery {db : Database} {look : Lookup} (negated : Bool) (s : Selection) (l : Link) :
    (Condition.subquery negated s.source l s.conditions).expr.truth db look = some true ↔
      ((∃ a, (a ∈ s.source.from_.rows db look ∧
        ∀ k ∈ s.conditions, k.expr.truth db (a.lookup s.source.from_.names look) = some true) ∧
        l.expr.truth db (a.lookup s.source.from_.names look) = some true) ↔ negated = false) := by
  have given : (∃ a, (a ∈ s.source.from_.rows db look ∧
        ∀ k ∈ s.conditions, k.expr.truth db (a.lookup s.source.from_.names look) = some true) ∧
        l.expr.truth db (a.lookup s.source.from_.names look) = some true) ↔
      ((s.source.from_.rows db look).any fun a => (conjoin l.expr s.conditions).truth db
        (a.lookup s.source.from_.names look) == some true) = true := by
    simp only [List.any_eq_true, beq_iff_eq, conjoin_true_iff]
    exact exists_congr fun a => by tauto
  rw [given, Condition.expr, Expr.truth, Option.some.injEq]
  cases negated <;> simp

end Sift
