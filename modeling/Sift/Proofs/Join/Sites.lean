import Sift.Proofs.Join.Scope
import Sift.Proofs.Join.Scoping

/-!
# The places of tables and conditions

Every node of a graph becomes one table of the statement, and its conditions stand in one
place: in the WHERE of its scope if inner joins lead to it from the top of the scope, else
in the ON of the last outer join above it. Nothing is lost and nothing comes up twice,
but for the trees that are left out because they give no row.
-/
namespace Sift

theorem flatMap_filter {α β : Type} (test : α → Bool) (f : α → List β) (xs : List α) :
    (xs.filter test).flatMap f = xs.flatMap fun x => if test x then f x else [] := by
  induction xs with
  | nil => rfl
  | cons x xs ih => cases passes : test x <;> simp [passes, ih]

namespace Placed

/-- The site of conditions in a scope that starts with a table: those of a group stand in the ON of the outer
join that started it. -/
def siteIn (first : String) : Option Nat → Site
  | none => .whereOf first
  | some g => .onOf true (tableName g)

/-! ## Groups -/

section

variable {top : Placed} {rest : List Placed} (layout : Layout top rest)
include layout

theorem nodup_rest : rest.Nodup :=
  List.Nodup.of_map _ (List.nodup_cons.mp layout.nodup_names).2

theorem groupOf_perm {p : Placed} (there : p ∈ rest) (left : p.node.kind? = some .left) :
    (groupOf rest p).Perm (p :: nestedOf rest p) := by
  have distinct : (groupOf rest p).Nodup := (nodup_rest layout).filter _
  have apart : p ∉ nestedOf rest p := by
    intro member
    obtain ⟨-, -, inner⟩ := Layout.mem_nestedOf_iff.mp member
    rw [left] at inner
    cases inner
  refine (List.perm_ext_iff_of_nodup distinct (List.nodup_cons.mpr ⟨apart, distinct.filter _⟩)).mpr fun q => ?_
  rw [List.mem_cons]
  constructor
  · exact layout.mem_groupOf_cases there
  · rintro (rfl | nested)
    · exact self_mem_groupOf layout there left
    · exact (List.mem_filter.mp nested).1

/-- The tables are those outside of all groups and those of the groups that outer joins start. -/
theorem perm_groups : rest.Perm ((rest.filter fun p => !p.isOuter) ++
    (rest.filter fun p => p.node.kind? == some .left).flatMap (groupOf rest)) := by
  have distinct := nodup_rest layout
  have whole : ((rest.filter fun p => !p.isOuter) ++
      (rest.filter fun p => p.node.kind? == some .left).flatMap (groupOf rest)).Nodup := by
    refine List.nodup_append'.mpr ⟨distinct.filter _, List.nodup_flatMap.mpr ⟨fun p _ => distinct.filter _, ?_⟩, ?_⟩
    · refine List.Pairwise.imp_of_mem (fun {p q} first second differ o here other => differ ?_) (distinct.filter _)
      obtain ⟨-, group⟩ := Layout.mem_groupOf_iff.mp here
      obtain ⟨-, group'⟩ := Layout.mem_groupOf_iff.mp other
      have inside {p : Placed} (member : p ∈ rest.filter fun p => p.node.kind? == some .left) : p ∈ top :: rest :=
        List.mem_cons_of_mem _ (List.mem_filter.mp member).1
      exact layout.eq_of_name (inside first) (inside second)
        (congrArg tableName (Option.some.inj (group.symm.trans group')))
    · intro q outside grouped
      obtain ⟨p, -, member⟩ := List.mem_flatMap.mp grouped
      obtain ⟨-, group⟩ := Layout.mem_groupOf_iff.mp member
      simp [isOuter, group] at outside
  refine (List.perm_ext_iff_of_nodup distinct whole).mpr fun q => ?_
  rw [List.mem_append, List.mem_flatMap]
  constructor
  · intro member
    cases group : q.group with
    | none => exact .inl (List.mem_filter.mpr ⟨member, by simp [isOuter, group]⟩)
    | some g =>
      obtain ⟨h, here, left, rfl⟩ := layout.exists_head (List.append_nil rest).symm member group
      exact .inr ⟨h, List.mem_filter.mpr ⟨here, by simp [left]⟩, Layout.mem_groupOf_iff.mpr ⟨member, group⟩⟩
  · rintro (outside | ⟨p, -, grouped⟩)
    · exact (List.mem_filter.mp outside).1
    · exact (Layout.mem_groupOf_iff.mp grouped).1

end

/-! ## What is gathered from a selection -/

section

variable {α : Type} {table : TableRef → List α} {condition : Site → Condition → List α}

theorem collect_joinInner (s : Source) {p : Placed} {e : JoinEdge} (edge : p.node.edge = some e) :
    (joinInner s p).collect table condition = s.collect table condition ++ table p.node.tableRef := by
  rw [joinInner_of_edge edge, Source.collect, Source.collect, Condition.collectAll, List.append_nil]

theorem collect_foldl_joinInner {ps : List Placed} (edges : ∀ p ∈ ps, ∃ e, p.node.edge = some e) (s : Source) :
    (ps.foldl joinInner s).collect table condition =
      s.collect table condition ++ ps.flatMap fun p => table p.node.tableRef := by
  induction ps generalizing s with
  | nil => simp
  | cons p ps ih =>
    rw [List.forall_mem_cons] at edges
    obtain ⟨e, edge⟩ := edges.1
    rw [List.foldl_cons, ih edges.2, collect_joinInner s edge, List.flatMap_cons, List.append_assoc]

theorem first_foldl_joinInner (ps : List Placed) (s : Source) : (ps.foldl joinInner s).first = s.first := by
  induction ps generalizing s with
  | nil => rfl
  | cons p ps ih =>
    rw [List.foldl_cons, ih, joinInner]
    split <;> rfl

variable (table condition) in
/-- What is gathered from a table and its conditions, which stand at a site. -/
def gather (site : Site) (p : Placed) : List α :=
  table p.node.tableRef ++ Condition.collectAll table condition site p.conditions

variable (table condition) in
/-- What is gathered from a table as it is attached: the table, if it belongs to no group, or the group that
it starts. -/
def attached (rest : List Placed) (p : Placed) : List α :=
  (if !p.isOuter then table p.node.tableRef else []) ++
    if p.node.kind? == some .left then (groupSource rest p).collect table condition ++
      (groupOf rest p).flatMap fun q => Condition.collectAll table condition (.onOf true p.node.name) q.conditions
    else []

variable {top : Placed} {rest : List Placed} (layout : Layout top rest)
include layout

theorem collect_attach {p : Placed} (there : p ∈ rest) (s : Source) : (attach rest s p).collect table condition =
    s.collect table condition ++ attached table condition rest p := by
  obtain ⟨q, -, e, edge, -, ⟨inner, -⟩ | ⟨outer, own⟩⟩ := layout.hangs there
  · have kind : p.node.kind? = some .inner := by rw [JoinNode.kind?, edge, Option.map_some, inner]
    rw [attach_of_inner edge inner, attached, kind]
    cases p.isOuter with
    | true => simp
    | false => simpa using collect_joinInner s edge
  · have kind : p.node.kind? = some .left := by rw [JoinNode.kind?, edge, Option.map_some, outer]
    have first : (groupSource rest p).first = p.node.name := first_foldl_joinInner _ _
    rw [attach_of_left edge outer, Source.collect, first, Condition.collectAll_flatMap, attached, kind, isOuter, own]
    simp

theorem collect_foldl_attach {ps : List Placed} (inside : ∀ p ∈ ps, p ∈ rest) (s : Source) :
    (ps.foldl (attach rest) s).collect table condition =
      s.collect table condition ++ ps.flatMap (attached table condition rest) := by
  induction ps generalizing s with
  | nil => simp
  | cons p ps ih =>
    rw [List.forall_mem_cons] at inside
    rw [List.foldl_cons, ih inside.2, collect_attach layout inside.1, List.flatMap_cons, List.append_assoc]

omit layout in
theorem first_foldl_attach (ps : List Placed) (s : Source) : (ps.foldl (attach rest) s).first = s.first := by
  induction ps generalizing s with
  | nil => rfl
  | cons p ps ih =>
    rw [List.foldl_cons, ih, attach]
    split
    · split
      · split
        · rfl
        · exact first_foldl_joinInner [p] s
      · rfl
      · rfl
    · rfl

variable (table condition) in
/-- What an outer join brings is gathered from the tables of its group. -/
theorem collect_groupSource {p : Placed} (there : p ∈ rest) (left : p.node.kind? = some .left) (first : String) :
    ((groupSource rest p).collect table condition ++ (groupOf rest p).flatMap fun q =>
        Condition.collectAll table condition (.onOf true p.node.name) q.conditions).Perm
      ((groupOf rest p).flatMap fun q => gather table condition (siteIn first q.group) q) := by
  have edges : ∀ q ∈ nestedOf rest p, ∃ e, q.node.edge = some e := fun q nested => by
    obtain ⟨-, -, e, edge, -⟩ := layout.hangs (Layout.mem_nestedOf_iff.mp nested).1
    exact ⟨e, edge⟩
  have source : (groupSource rest p).collect table condition =
      (p :: nestedOf rest p).flatMap fun q => table q.node.tableRef :=
    collect_foldl_joinInner edges _
  have sites : ((groupOf rest p).flatMap fun q => gather table condition (siteIn first q.group) q) =
      (groupOf rest p).flatMap fun q => gather table condition (.onOf true p.node.name) q := by
    refine List.flatMap_congr fun q member => ?_
    rw [(Layout.mem_groupOf_iff.mp member).2]
    rfl
  rw [source, sites]
  exact (((groupOf_perm layout there left).symm.flatMap_right _).append_right _).trans
    (List.flatMap_append_perm _ _ _)

/-- What is gathered as tables are attached: the tables outside of all groups, and the groups. -/
theorem perm_flatMap_attached : (rest.flatMap (attached table condition rest)).Perm
    (((rest.filter fun p => !p.isOuter).flatMap fun p => table p.node.tableRef) ++
      ((rest.filter fun p => p.node.kind? == some .left).flatMap (groupOf rest)).flatMap fun p =>
        gather table condition (siteIn top.node.name p.group) p) := by
  have groups := List.Perm.flatMap_left (rest.filter fun p => p.node.kind? == some .left) fun p member =>
    collect_groupSource table condition layout (List.mem_filter.mp member).1
      (beq_iff_eq.mp (List.mem_filter.mp member).2) top.node.name
  rw [flatMap_filter] at groups
  rw [List.flatMap_assoc, flatMap_filter]
  exact (List.flatMap_append_perm _ _ _).symm.trans (groups.append_left _)

variable (table condition) in
/-- What is gathered from a selection is gathered from its tables, each with the site of its conditions. -/
theorem collect_selection : ((selection top rest).collect table condition).Perm
    ((top :: rest).flatMap fun p => gather table condition (siteIn top.node.name p.group) p) := by
  let outside := rest.filter fun p => !p.isOuter
  let groups := (rest.filter fun p => p.node.kind? == some .left).flatMap (groupOf rest)
  let gathered (p : Placed) := gather table condition (siteIn top.node.name p.group) p
  let own (p : Placed) := Condition.collectAll table condition (.whereOf top.node.name) p.conditions
  have first : (selection top rest).source.first = top.node.name := first_foldl_attach rest _
  have source : (selection top rest).source.collect table condition =
      table top.node.tableRef ++ rest.flatMap (attached table condition rest) :=
    collect_foldl_attach layout (fun p member => member) _
  have conditions : Condition.collectAll table condition (.whereOf top.node.name) (selection top rest).conditions =
      own top ++ outside.flatMap own := by
    have ungrouped : top.isOuter = false := by rw [isOuter, layout.root]; rfl
    rw [selection, Condition.collectAll_flatMap, List.filter_cons_of_pos (by simp [ungrouped]), List.flatMap_cons]
  have alone : ((outside.flatMap fun p => table p.node.tableRef) ++ outside.flatMap own).Perm
      (outside.flatMap gathered) := by
    refine (List.flatMap_append_perm _ _ _).trans (.of_eq (List.flatMap_congr fun p member => ?_))
    have ungrouped : p.group = none := by simpa [isOuter] using (List.mem_filter.mp member).2
    simp only [gathered, ungrouped]
    rfl
  have whole : gathered top = table top.node.tableRef ++ own top := by
    simp only [gathered, layout.root]
    rfl
  -- the conditions in the WHERE come after all tables in the text, but with their tables here
  have inWhere : (rest.flatMap (attached table condition rest) ++ outside.flatMap own).Perm (rest.flatMap gathered) :=
    calc (rest.flatMap (attached table condition rest) ++ outside.flatMap own).Perm
          (((outside.flatMap fun p => table p.node.tableRef) ++ groups.flatMap gathered) ++ outside.flatMap own) :=
            (perm_flatMap_attached layout).append_right _
      _ = (outside.flatMap fun p => table p.node.tableRef) ++ (groups.flatMap gathered ++ outside.flatMap own) :=
            List.append_assoc ..
      List.Perm _ ((outside.flatMap fun p => table p.node.tableRef) ++ (outside.flatMap own ++ groups.flatMap gathered)) :=
            List.perm_append_comm.append_left _
      _ = ((outside.flatMap fun p => table p.node.tableRef) ++ outside.flatMap own) ++ groups.flatMap gathered :=
            (List.append_assoc ..).symm
      List.Perm _ (outside.flatMap gathered ++ groups.flatMap gathered) := alone.append_right _
      _ = (outside ++ groups).flatMap gathered := List.flatMap_append.symm
      List.Perm _ (rest.flatMap gathered) := (perm_groups layout).symm.flatMap_right _
  rw [Selection.collect, first, source, conditions, List.flatMap_cons]
  show List.Perm _ (gathered top ++ rest.flatMap gathered)
  rw [whole]
  refine .trans ?_ (inWhere.append_left (table top.node.tableRef ++ own top))
  simp only [List.append_assoc]
  refine List.Perm.append_left _ ?_
  rw [← List.append_assoc, ← List.append_assoc]
  exact List.perm_append_comm.append_right _

end

end Placed

namespace JoinTree

/-! ## Sites of nodes -/

/-- The site of a child's conditions, given that of its parent's. An inner join leaves it, an outer join starts an
ON for its group, and a child that is only a condition starts a scope. -/
def siteBelow (site : Site) (t : JoinTree) : Site :=
  match t.top.kind? with
  | some .inner => site
  | some .left => .onOf true t.top.name
  | _ => .whereOf t.top.name

mutual

/-- The trees of a tree that are not left out, each with the site of its top's conditions. -/
def sites (site : Site) : JoinTree → List (JoinTree × Site)
  | node n children => (node n children, site) :: sitesOf site children
termination_by structural t => t

def sitesOf (site : Site) : List JoinTree → List (JoinTree × Site)
  | [] => []
  | t :: ts => (if t.isLeftOut then [] else t.sites (t.siteBelow site)) ++ sitesOf site ts
termination_by structural ts => ts

end

mutual

theorem sites_sublist (site : Site) : ∀ t : JoinTree, ((t.sites site).map (·.1)).Sublist t.subtrees
  | node n children => (sitesOf_sublist site children).cons_cons (node n children)

theorem sitesOf_sublist (site : Site) : ∀ ts : List JoinTree, ((sitesOf site ts).map (·.1)).Sublist (subtreesOf ts)
  | [] => List.Sublist.refl _
  | t :: ts => by
    have others := sitesOf_sublist site ts
    rw [sitesOf, List.map_append, subtreesOf]
    split
    · exact others.trans (List.sublist_append_right _ _)
    · exact (sites_sublist _ t).append others

end

/-- The conditions of the top: its restrictions and what its children ask for. -/
def conditions (t : JoinTree) : List Condition := t.top.ownConditions ++ subqueries t.children

mutual

theorem tops_sites (site : Site) : ∀ t : JoinTree, (t.sites site).map (·.1.top) = t.kept.nodes
  | node n children => congrArg (n :: ·) (tops_sitesOf site children)

/-- The sites are those of the nodes that are not left out. -/
theorem tops_sitesOf (site : Site) : ∀ ts : List JoinTree,
    (sitesOf site ts).map (·.1.top) = nodesOf (keptOf ts)
  | [] => rfl
  | t :: ts => by
    rw [sitesOf, keptOf, List.map_append, tops_sitesOf site ts]
    split
    · rfl
    · rw [tops_sites _ t, nodesOf]

end

/-! ## Subqueries of children -/

theorem subqueries_of_joined {t : JoinTree} (ts : List JoinTree) (physical : t.isPhysical = true) :
    subqueries (t :: ts) = subqueries ts := by
  rw [subqueries]
  cases edge : t.top.edge with
  | none => rfl
  | some e =>
    rw [isPhysical_of_edge edge] at physical
    cases kind : e.kind <;> simp [kind, JoinKind.isPhysical] at physical ⊢

theorem subqueries_of_leftOut {t : JoinTree} (ts : List JoinTree) (leftOut : t.isLeftOut = true) :
    subqueries (t :: ts) = subqueries ts := by
  have same := subqueries_keptOf (t :: ts)
  rwa [keptOf, if_pos leftOut, subqueries_keptOf, eq_comm] at same

/-- A child that is only a condition and is not left out is asked for. -/
theorem subqueries_of_asked {t : JoinTree} (ts : List JoinTree) {e : JoinEdge} (edge : t.top.edge = some e)
    (physical : t.isPhysical = false) (kept : t.isLeftOut = false) :
    subqueries (t :: ts) = t.subquery (e.kind == .anti) e :: subqueries ts := by
  rw [isPhysical_of_edge edge] at physical
  rw [isLeftOut, kind?_of_edge edge] at kept
  rw [subqueries, edge]
  cases kind : e.kind with
  | inner => simp [kind, JoinKind.isPhysical] at physical
  | left => simp [kind, JoinKind.isPhysical] at physical
  | semi =>
    simp only [kind]
    rfl
  | anti =>
    rw [kind] at kept
    simp only [kind, show t.predictsEmpty = false from kept]
    rfl

/-! ## What is gathered from the selection of a tree -/

section

variable {α : Type} (table : TableRef → List α) (condition : Site → Condition → List α)

/-- What is gathered from the top of a tree without the scopes that start below it. -/
def gather (u : JoinTree × Site) : List α := table u.1.top.tableRef ++ u.1.conditions.flatMap (condition u.2)

/-- What is gathered from a joined tree and the scopes that start below it. -/
def gatherJoined (first : String) (u : JoinTree × Option Nat) : List α :=
  Placed.gather table condition (Placed.siteIn first u.2) (placedIn u)

variable {table condition}

theorem isSubquery_ownConditions {n : JoinNode} : ∀ k ∈ n.ownConditions, k.isSubquery = false := by
  intro k member
  obtain rfl | ⟨-, -, -, -, rfl⟩ := Conditions.compile_cases member <;> rfl

theorem gatherJoined_eq (first : String) (t : JoinTree) (g : Option Nat) :
    gatherJoined table condition first (t, g) = table t.top.tableRef ++
      (t.top.ownConditions.flatMap (condition (Placed.siteIn first g)) ++
        Condition.collectAll table condition (Placed.siteIn first g) (subqueries t.children)) := by
  rw [gatherJoined, placedIn, Placed.gather, node_placed, conditions_eq, Condition.collectAll_append,
    Condition.collectAll_plain _ isSubquery_ownConditions]

/-- What is gathered from the selection of a tree is gathered from the trees that are joined in it. -/
theorem Proper.collect_selection {t : JoinTree} (proper : t.Proper) : (t.selection.collect table condition).Perm
    (((t, none) :: t.joinedBelow none).flatMap (gatherJoined table condition t.top.name)) := by
  have selection := Placed.collect_selection table condition proper.layout
  rw [node_placed] at selection
  refine selection.trans ((t.tables_perm.cons (t.placed none)).flatMap_right _ |>.trans (.of_eq ?_))
  rw [List.flatMap_cons, List.flatMap_map, List.flatMap_cons, group_placed]
  refine congrArg₂ _ rfl (List.flatMap_congr fun u member => ?_)
  rw [gatherJoined, placedIn, group_placed]

variable (table condition) in
/-- What is gathered from the children of a node, the subqueries in its conditions and the trees that are joined
below it, is gathered from the subqueries as they stand and from all nodes that are not left out. -/
def Accounted (first : String) (g : Option Nat) (ts : List JoinTree) : Prop :=
  (Condition.collectAll table condition (Placed.siteIn first g) (subqueries ts) ++
      (joinedOf g ts).flatMap (gatherJoined table condition first)).Perm
    ((subqueries ts).flatMap (condition (Placed.siteIn first g)) ++
      (sitesOf (Placed.siteIn first g) ts).flatMap (gather table condition))

variable {first : String} {g : Option Nat} {t : JoinTree} {ts : List JoinTree}
  (others : Accounted table condition first g ts)
include others

/-- A child that is joined in a group of its own or in that of its parent. -/
theorem Accounted.cons_joined {h : Option Nat} (physical : t.isPhysical = true)
    (joined : joinedOf g (t :: ts) = ((t, h) :: t.joinedBelow h) ++ joinedOf g ts)
    (site : t.siteBelow (Placed.siteIn first g) = Placed.siteIn first h)
    (own : (((t, h) :: t.joinedBelow h).flatMap (gatherJoined table condition first)).Perm
      ((t.sites (Placed.siteIn first h)).flatMap (gather table condition))) :
    Accounted table condition first g (t :: ts) := by
  have kept : t.isLeftOut = false := by
    by_contra leftOut
    have kind := kind?_of_leftOut (Bool.eq_true_of_not_eq_false leftOut)
    exact not_isPhysical (by simp [kind]) (by simp [kind]) physical
  rw [Accounted, subqueries_of_joined ts physical, joined, sitesOf, kept, if_neg Bool.false_ne_true, site,
    List.flatMap_append, List.flatMap_append]
  exact List.perm_append_comm_assoc _ _ _ |>.trans (own.append others) |>.trans (List.perm_append_comm_assoc _ _ _)

theorem Accounted.cons_leftOut (leftOut : t.isLeftOut = true) : Accounted table condition first g (t :: ts) := by
  have kind := kind?_of_leftOut leftOut
  rw [Accounted, subqueries_of_leftOut ts leftOut, joinedOf_other (by simp [kind]) (by simp [kind]), sitesOf, leftOut,
    if_pos rfl, List.nil_append]
  exact others

/-- A child that is asked for starts a scope of its own. -/
theorem Accounted.cons_asked {e : JoinEdge} (edge : t.top.edge = some e) (inner : t.top.kind? ≠ some .inner)
    (left : t.top.kind? ≠ some .left) (kept : t.isLeftOut = false)
    (own : (t.selection.collect table condition).Perm
      ((t.sites (.whereOf t.top.name)).flatMap (gather table condition))) :
    Accounted table condition first g (t :: ts) := by
  have site : t.siteBelow (Placed.siteIn first g) = .whereOf t.top.name := by
    rw [siteBelow]
    split
    next kind => exact absurd kind inner
    next kind => exact absurd kind left
    next => rfl
  rw [Accounted, subqueries_of_asked ts edge (Bool.eq_false_iff.mpr (not_isPhysical inner left)) kept,
    joinedOf_other inner left, sitesOf, kept, if_neg Bool.false_ne_true, site, Condition.collectAll, subquery,
    Condition.collect_subquery, List.flatMap_cons, List.flatMap_append]
  simp only [List.append_assoc]
  exact ((own.append others).trans (List.perm_append_comm_assoc _ _ _)).append_left _

end

section

variable {α : Type} {table : TableRef → List α} {condition : Site → Condition → List α}

mutual

/-- What is gathered from a tree in a group and from those joined below is gathered from the nodes of the tree
that are not left out. -/
theorem gather_below : ∀ {t : JoinTree}, t.Proper → ∀ (first : String) (g : Option Nat),
    (((t, g) :: t.joinedBelow g).flatMap (gatherJoined table condition first)).Perm
      ((t.sites (Placed.siteIn first g)).flatMap (gather table condition))
  | node n children, proper, first, g => by
    have below := accounted (fun c member => proper.of_mem (List.mem_cons_of_mem _ member)) proper.hangOn first g
    show List.Perm (_ ++ (joinedOf g children).flatMap _) (gather table condition (node n children, _) ++ _)
    rw [gatherJoined_eq, gather, conditions, List.flatMap_append]
    simp only [List.append_assoc]
    exact (below.append_left _).append_left _

theorem accounted : ∀ {ts : List JoinTree}, (∀ t ∈ subtreesOf ts, t.Proper) → ∀ {id : Nat}, HangOn id ts →
    ∀ (first : String) (g : Option Nat), Accounted table condition first g ts
  | [], _, _, _, _, _ => List.Perm.refl _
  | t :: ts, proper, id, ⟨parent, hangs, rest⟩, first, g => by
    rw [subtreesOf, List.forall_mem_append] at proper
    have own := proper.1 t t.mem_subtrees_self
    have others := accounted proper.2 rest first g
    by_cases inner : t.top.kind? = some .inner
    · refine others.cons_joined (isPhysical_of_inner inner) (joinedOf_inner inner) ?_ (gather_below own first g)
      rw [siteBelow, inner]
    by_cases left : t.top.kind? = some .left
    · refine others.cons_joined (isPhysical_of_left left) (joinedOf_left left) ?_ (gather_below own first _)
      rw [siteBelow, left]
      rfl
    by_cases leftOut : t.isLeftOut = true
    · exact others.cons_leftOut leftOut
    · obtain ⟨e, edge, -⟩ := edge_of_parent parent
      exact others.cons_asked edge inner left (Bool.eq_false_iff.mpr leftOut)
        (own.collect_selection.trans (gather_below own t.top.name none))

end

/-- What is gathered from the selection of a tree is gathered from its nodes that are not left out. -/
theorem Proper.collect_sites {t : JoinTree} (proper : t.Proper) : (t.selection.collect table condition).Perm
    ((t.sites (.whereOf t.top.name)).flatMap (gather table condition)) :=
  proper.collect_selection.trans (gather_below proper t.top.name none)

end

/-! ## Nodes that are left out -/

mutual

/-- The nodes of the trees that are left out. -/
def dropped : JoinTree → List JoinNode
  | node _ children => droppedOf children
termination_by structural t => t

def droppedOf : List JoinTree → List JoinNode
  | [] => []
  | t :: ts => (if t.isLeftOut then t.nodes else t.dropped) ++ droppedOf ts
termination_by structural ts => ts

end

mutual

/-- Every node is kept or dropped. -/
theorem perm_dropped : ∀ t : JoinTree, t.nodes.Perm (t.kept.nodes ++ t.dropped)
  | node n children => (perm_droppedOf children).cons n

theorem perm_droppedOf : ∀ ts : List JoinTree, (nodesOf ts).Perm (nodesOf (keptOf ts) ++ droppedOf ts)
  | [] => List.Perm.refl _
  | t :: ts => by
    have others := perm_droppedOf ts
    rw [nodesOf, keptOf, droppedOf]
    split
    · exact (others.append_left _).trans (List.perm_append_comm_assoc _ _ _)
    · rw [nodesOf, List.append_assoc]
      refine ((perm_dropped t).append others).trans ?_
      rw [List.append_assoc]
      exact (List.perm_append_comm_assoc _ _ _).append_left _

end

mutual

theorem mem_dropped {n : JoinNode} : ∀ {t : JoinTree},
    n ∈ t.dropped ↔ ∃ u ∈ subtreesOf t.children, u.isLeftOut = true ∧ n ∈ u.nodes
  | node _ _ => mem_droppedOf

/-- A node is dropped if it is in some tree that is left out. -/
theorem mem_droppedOf {n : JoinNode} : ∀ {ts : List JoinTree},
    n ∈ droppedOf ts ↔ ∃ u ∈ subtreesOf ts, u.isLeftOut = true ∧ n ∈ u.nodes
  | [] => by simp [droppedOf, subtreesOf]
  | t :: ts => by
    rw [droppedOf, subtreesOf, subtrees_eq, List.mem_append, mem_droppedOf]
    simp only [List.cons_append, List.mem_cons, List.mem_append, or_and_right, exists_or, exists_eq_left]
    rw [← or_assoc, ← mem_dropped]
    refine or_congr_left ?_
    by_cases leftOut : t.isLeftOut = true
    · rw [if_pos leftOut]
      refine ⟨fun member => .inl ⟨leftOut, member⟩, ?_⟩
      rintro (⟨-, member⟩ | member)
      · exact member
      · exact (perm_dropped t).mem_iff.mpr (List.mem_append_right _ member)
    · simp [leftOut]

end

theorem Proper.mem_kept_iff {t : JoinTree} (proper : t.Proper) {n : JoinNode} :
    n ∈ t.kept.nodes ↔ n ∈ t.nodes ∧ n ∉ t.dropped := by
  have distinct := (perm_dropped t).nodup_iff.mp (List.Nodup.of_map _ proper.distinct)
  rw [(perm_dropped t).mem_iff, List.mem_append]
  constructor
  · exact fun kept => ⟨.inl kept, fun dropped => (List.nodup_append'.mp distinct).2.2 kept dropped⟩
  · rintro ⟨kept | dropped, other⟩
    · exact kept
    · exact absurd dropped other

/-! ## Parents and children -/

mutual

theorem tops_subtrees : ∀ t : JoinTree, t.subtrees.map (·.top) = t.nodes
  | node n children => congrArg (n :: ·) (tops_subtreesOf children)

theorem tops_subtreesOf : ∀ ts : List JoinTree, (subtreesOf ts).map (·.top) = nodesOf ts
  | [] => rfl
  | t :: ts => by rw [subtreesOf, nodesOf, List.map_append, tops_subtrees t, tops_subtreesOf ts]

end

theorem Proper.eq_of_id {t u v : JoinTree} (proper : t.Proper) (first : u ∈ t.subtrees) (second : v ∈ t.subtrees)
    (same : u.top.id = v.top.id) : u = v := by
  have distinct := proper.distinct
  rw [← tops_subtrees t, List.map_map] at distinct
  exact List.inj_on_of_nodup_map distinct first second same

mutual

theorem exists_parent {c : JoinTree} : ∀ {t : JoinTree}, c ∈ subtreesOf t.children → ∃ u ∈ t.subtrees, c ∈ u.children
  | node n children, below => by
    rcases exists_parentOf below with child | ⟨u, deeper, child⟩
    · exact ⟨node n children, List.mem_cons_self, child⟩
    · exact ⟨u, List.mem_cons_of_mem _ deeper, child⟩

/-- A tree in a list of trees is one of the list or the child of some tree in it. -/
theorem exists_parentOf {c : JoinTree} : ∀ {ts : List JoinTree}, c ∈ subtreesOf ts →
    c ∈ ts ∨ ∃ u ∈ subtreesOf ts, c ∈ u.children
  | [], member => by cases member
  | t :: ts, member => by
    rw [subtreesOf, subtrees_eq, List.cons_append, List.mem_cons, List.mem_append] at member
    rcases member with rfl | below | other
    · exact .inl List.mem_cons_self
    · obtain ⟨u, inside, child⟩ := exists_parent below
      exact .inr ⟨u, List.mem_append_left _ inside, child⟩
    · rcases exists_parentOf other with child | ⟨u, inside, child⟩
      · exact .inl (List.mem_cons_of_mem _ child)
      · exact .inr ⟨u, List.mem_append_right _ inside, child⟩

end

/-- The children of a tree in a tree are the nodes that hang on its top. -/
theorem Proper.parent_iff {t u : JoinTree} (proper : t.Proper) (root : t.top.edge = none) (member : u ∈ t.subtrees)
    {n : JoinNode} (inside : n ∈ t.nodes) : n.parent? = some u.top.id ↔ ∃ c ∈ u.children, c.top = n := by
  constructor
  · intro parent
    rw [nodes_eq, ← tops_subtreesOf, List.mem_cons, List.mem_map] at inside
    rcases inside with rfl | ⟨c, below, rfl⟩
    · rw [JoinNode.parent?, root] at parent
      cases parent
    · obtain ⟨v, there, child⟩ := exists_parent below
      have above := parent_of_hangOn (proper.of_mem there).hangOn child
      cases proper.eq_of_id member there (Option.some.inj (parent.symm.trans above))
      exact ⟨c, child, rfl⟩
  · rintro ⟨c, child, rfl⟩
    exact parent_of_hangOn (proper.of_mem member).hangOn child

/-! ## What is compiled from a node -/

/-- The children that are only conditions and are not left out. -/
def asked (ts : List JoinTree) : List JoinTree := ts.filter fun t => !t.isPhysical && !t.isLeftOut

/-- The condition asks for linked rows of the tree, or for none if it must not have any. -/
def Asks (t : JoinTree) (k : Condition) : Prop := ∃ e, t.top.edge = some e ∧ k = t.subquery (e.kind == .anti) e

/-- There is one subquery for each child that is only a condition and is not left out. -/
theorem forall₂_subqueries {id : Nat} {ts : List JoinTree} (hangs : HangOn id ts) :
    List.Forall₂ Asks (asked ts) (subqueries ts) := by
  induction ts with
  | nil => exact .nil
  | cons t ts ih =>
    obtain ⟨parent, -, rest⟩ := hangs
    have others := ih rest
    by_cases physical : t.isPhysical = true
    · rwa [asked, List.filter_cons_of_neg (by simp [physical]), subqueries_of_joined ts physical]
    by_cases leftOut : t.isLeftOut = true
    · rwa [asked, List.filter_cons_of_neg (by simp [leftOut]), subqueries_of_leftOut ts leftOut]
    obtain ⟨e, edge, -⟩ := edge_of_parent parent
    rw [Bool.not_eq_true] at physical leftOut
    rw [asked, List.filter_cons_of_pos (by simp [physical, leftOut]), subqueries_of_asked ts edge physical leftOut]
    exact .cons ⟨e, edge, rfl⟩ others

end JoinTree

namespace JoinGraph

/-! ## Sites in a graph -/

/-- An inner join attaches a node to another one. -/
def InnerTo (g : JoinGraph) (n q : JoinNode) : Prop :=
  n.kind? = some .inner ∧ q ∈ g.nodes ∧ n.parent? = some q.id

/-- Where the conditions of a node stand. Inner joins attach it to the nearest node without an inner join: in the
ON of that one's outer join, or else in the WHERE of the scope that it starts. -/
def SiteOf (g : JoinGraph) (n : JoinNode) (site : Site) : Prop :=
  ∃ q, Relation.ReflTransGen g.InnerTo n q ∧ q.kind? ≠ some .inner ∧
    site = if q.kind? = some .left then .onOf true q.name else .whereOf q.name

/-- A node is at or below one that must not have rows and whose tree is predicted to have none. -/
def Drops (g : JoinGraph) (n : JoinNode) : Prop := ∃ t ∈ g.tree.subtrees, t.isLeftOut = true ∧ n ∈ t.nodes

/-- The trees of the nodes that are not dropped, each with the site of its top's conditions. -/
def sites (g : JoinGraph) : List (JoinTree × Site) := g.tree.sites (.whereOf g.root.name)

end JoinGraph

namespace JoinTree

variable {g : JoinGraph}

theorem siteOf_child {t : JoinTree} {q : JoinNode} {site : Site} (parent : t.top.parent? = some q.id)
    (member : q ∈ g.nodes) (above : g.SiteOf q site) : g.SiteOf t.top (t.siteBelow site) := by
  by_cases inner : t.top.kind? = some .inner
  · obtain ⟨o, path, start, rfl⟩ := above
    refine ⟨o, path.head ⟨inner, member, parent⟩, start, ?_⟩
    rw [siteBelow, inner]
  · refine ⟨t.top, .refl, inner, ?_⟩
    rw [siteBelow]
    split
    next kind => exact absurd kind inner
    next kind => rw [if_pos kind]
    next other => rw [if_neg other]

mutual

theorem siteOf_sites : ∀ {t : JoinTree} {site : Site}, t.Hangs → (∀ n ∈ t.nodes, n ∈ g.nodes) →
    g.SiteOf t.top site → ∀ u ∈ t.sites site, g.SiteOf u.1.top u.2
  | node n children, site, hangs, inside, own, u, member => by
    rcases List.mem_cons.mp member with rfl | below
    · exact own
    · exact siteOf_sitesOf hangs (inside n List.mem_cons_self) own
        (fun m there => inside m (List.mem_cons_of_mem _ there)) u below

/-- The conditions of the nodes below a node stand where the joins of the graph say. -/
theorem siteOf_sitesOf : ∀ {ts : List JoinTree} {q : JoinNode} {site : Site}, HangOn q.id ts → q ∈ g.nodes →
    g.SiteOf q site → (∀ n ∈ nodesOf ts, n ∈ g.nodes) → ∀ u ∈ sitesOf site ts, g.SiteOf u.1.top u.2
  | [], _, _, _, _, _, _, _, member => by cases member
  | t :: ts, q, site, ⟨parent, hangs, rest⟩, there, above, inside, u, member => by
    rw [nodesOf, List.forall_mem_append] at inside
    rcases List.mem_append.mp member with first | others
    · split at first
      · cases first
      · exact siteOf_sites hangs inside.1 (siteOf_child parent there above) u first
    · exact siteOf_sitesOf rest there above inside.2 u others

end

end JoinTree

namespace JoinGraph

/-! ## Tables and conditions of a graph -/

/-- A graph as it stands in its selection. -/
structure LaidOut (g : JoinGraph) : Prop where
  /-- A node is one table, unless it is dropped. -/
  tables : ∀ n ∈ g.nodes, ¬g.Drops n → g.selection.tables.count n.tableRef = 1
  dropped : ∀ n ∈ g.nodes, g.Drops n → n.tableRef ∉ g.selection.tables
  /-- Columns are those of tables that stand before them or around their scope. -/
  inScope : g.selection.Scoped []
  /-- The conditions are those of the nodes, and those of a node stand at its site. -/
  sited : g.selection.sited.Perm (g.sites.flatMap fun u => u.1.conditions.map (u.2, ·))
  once : ∀ n ∈ g.nodes, ¬g.Drops n → (g.sites.map (·.1.top.id)).count n.id = 1
  site : ∀ u ∈ g.sites, ∀ site, g.SiteOf u.1.top site ↔ site = u.2
  children : ∀ u ∈ g.sites, ∀ n ∈ g.nodes, n.parent? = some u.1.top.id ↔ ∃ t ∈ u.1.children, t.top = n
  /-- The conditions of a node are its restrictions and the subqueries of its children. -/
  restrictions : ∀ u ∈ g.sites, List.Forall₂
    (fun f k => Restriction.condition? ⟨some u.1.top.name, f.1⟩ (u.1.top.row.isNullable f.1) f.2 = some k)
    u.1.top.conditions.effectiveOn u.1.top.ownConditions
  subqueries : ∀ u ∈ g.sites, List.Forall₂ JoinTree.Asks (JoinTree.asked u.1.children)
    (JoinTree.subqueries u.1.children)

variable {g : JoinGraph}

theorem tables_selection (numbered : g.Numbered) :
    g.selection.tables.Perm (g.tree.kept.nodes.map (·.tableRef)) := by
  refine numbered.proper_tree.collect_sites.trans (.of_eq ?_)
  rw [← JoinTree.tops_sites (.whereOf g.root.name), List.map_map, List.map_eq_flatMap]
  refine List.flatMap_congr fun u _ => ?_
  simp [JoinTree.gather]

theorem sited_selection (numbered : g.Numbered) :
    g.selection.sited.Perm (g.sites.flatMap fun u => u.1.conditions.map (u.2, ·)) := by
  refine numbered.proper_tree.collect_sites.trans (.of_eq (List.flatMap_congr fun u _ => ?_))
  rw [JoinTree.gather, List.nil_append, List.map_eq_flatMap]

theorem drops_iff (root : g.root.edge = none) {n : JoinNode} : g.Drops n ↔ n ∈ g.tree.dropped := by
  rw [Drops, JoinTree.mem_dropped, JoinTree.subtrees_eq, List.exists_mem_cons_iff, isLeftOut_tree root]
  simp

theorem SiteOf.unique (numbered : g.Numbered) {n : JoinNode} {site other : Site} (first : g.SiteOf n site)
    (second : g.SiteOf n other) : site = other := by
  obtain ⟨q, path, start, rfl⟩ := first
  induction path using Relation.ReflTransGen.head_induction_on with
  | refl =>
    obtain ⟨o, path, -, rfl⟩ := second
    rcases path.cases_head with rfl | ⟨m, step, -⟩
    · rfl
    · exact absurd step.1 start
  | head step _ ih =>
    obtain ⟨o, path, ends, rfl⟩ := second
    rcases path.cases_head with rfl | ⟨m, step', path⟩
    · exact absurd step.1 ends
    · have id := Option.some.inj (step.2.2.symm.trans step'.2.2)
      cases numbered.eq_of_id step.2.1 step'.2.1 id
      exact ih ⟨o, path, ends, rfl⟩

section

variable (numbered : g.Numbered) (root : g.root.edge = none)
include numbered root

theorem mem_kept_iff {n : JoinNode} : n ∈ g.tree.kept.nodes ↔ n ∈ g.nodes ∧ ¬g.Drops n := by
  rw [numbered.proper_tree.mem_kept_iff, numbered.nodes_tree.mem_iff, drops_iff root]

/-- A node that is not dropped is one table. -/
theorem count_tables {n : JoinNode} (member : n ∈ g.nodes) (stays : ¬g.Drops n) :
    g.selection.tables.count n.tableRef = 1 := by
  have distinct : (g.tree.kept.nodes.map (·.tableRef)).Nodup := by
    have names := numbered.proper_tree.kept.distinct.map fun i j same =>
      Placed.tableName_injective (Option.some.inj same)
    refine List.Nodup.of_map (fun t : TableRef => t.name) ?_
    rw [List.map_map] at names ⊢
    exact names
  rw [(tables_selection numbered).count_eq]
  exact List.count_eq_one_of_mem distinct (List.mem_map_of_mem ((mem_kept_iff numbered root).mpr ⟨member, stays⟩))

theorem notMem_tables {n : JoinNode} (member : n ∈ g.nodes) (drops : g.Drops n) :
    n.tableRef ∉ g.selection.tables := by
  intro there
  obtain ⟨m, kept, same⟩ := List.mem_map.mp ((tables_selection numbered).mem_iff.mp there)
  have id : m.id = n.id := Placed.tableName_injective (Option.some.inj (congrArg TableRef.name same))
  obtain ⟨inside, stays⟩ := (mem_kept_iff numbered root).mp kept
  exact stays (numbered.eq_of_id inside member id ▸ drops)

theorem count_sites {n : JoinNode} (member : n ∈ g.nodes) (stays : ¬g.Drops n) :
    (g.sites.map (·.1.top.id)).count n.id = 1 := by
  have tops : g.sites.map (·.1.top.id) = g.tree.kept.nodes.map (·.id) := by
    rw [← JoinTree.tops_sites (.whereOf g.root.name), List.map_map]
    rfl
  rw [tops]
  exact List.count_eq_one_of_mem numbered.proper_tree.kept.distinct
    (List.mem_map_of_mem ((mem_kept_iff numbered root).mpr ⟨member, stays⟩))

theorem siteOf_iff {u : JoinTree × Site} (member : u ∈ g.sites) {site : Site} :
    g.SiteOf u.1.top site ↔ site = u.2 := by
  have none : g.root.kind? = none := by simp [JoinNode.kind?, root]
  have own : g.SiteOf u.1.top u.2 := JoinTree.siteOf_sites numbered.proper_tree.hangs
    (fun n there => numbered.nodes_tree.mem_iff.mp there) ⟨g.root, .refl, by simp [none], by simp [none]⟩ u member
  exact ⟨fun given => given.unique numbered own, fun same => same ▸ own⟩

/-- Built graphs are laid out. -/
theorem Numbered.laidOut : g.LaidOut := by
  have proper := numbered.proper_tree
  have inside : ∀ u ∈ g.sites, u.1 ∈ g.tree.subtrees := fun u member =>
    (JoinTree.sites_sublist _ g.tree).subset (List.mem_map_of_mem member)
  exact
  { tables := fun _ => count_tables numbered root
    dropped := fun _ => notMem_tables numbered root
    inScope := proper.selection_scoped []
    sited := sited_selection numbered
    once := fun _ => count_sites numbered root
    site := fun _ member _ => siteOf_iff numbered root member
    children := fun u member n there =>
      proper.parent_iff root (inside u member) (numbered.nodes_tree.mem_iff.mpr there)
    restrictions := fun u _ => u.1.top.conditions.forall₂_compile u.1.top.row (some u.1.top.name)
    subqueries := fun u member => JoinTree.forall₂_subqueries (proper.of_mem (inside u member)).hangOn }

end

end JoinGraph

/-- The FROM and WHERE of a built graph are read as its selection, in which the graph is laid out: nothing is
lost, nothing comes up twice, and nothing is out of scope. -/
theorem JoinPlan.build_lays_out {p : JoinPlan} {g : JoinGraph} (done : p.build.result = .ok g) :
    g.LaidOut ∧ (p.NamesRows → ∀ cfg,
      (g.scope cfg).text.query? (g.scope cfg).params = some g.selection.query) := by
  rw [result_build] at done
  exact ⟨(numbered_of_graph done).laidOut (edge_root_of_graph done),
    fun named cfg => JoinGraph.query?_scope named done cfg⟩

/-- Orders with their shipments and the parcels of these, without a line of a quantity that is above 3 and
below 2. The lines are left out, and what is asked of a parcel stands in the ON of the shipments. -/
theorem JoinPlan.build_lays_out_of_orders :
    let shipment : RowType :=
      ⟨"Shipment", "shipments", [⟨"id", "id", false⟩, ⟨"order_id", "order_id", false⟩], "id", none,
        [⟨"order_id", "orders"⟩]⟩
    let parcel : RowType :=
      ⟨"Parcel", "parcels", [⟨"id", "id", false⟩, ⟨"shipment_id", "shipment_id", false⟩], "id", none,
        [⟨"shipment_id", "shipments"⟩]⟩
    let first : Query parcel := Query.all.restrict ⟨"id"⟩ (.of (.equals (.int 1)))
    let lines := linesBetween (.greaterOrEqual (.int 3)) (.lessOrEqual (.int 2))
    let p := (((JoinPlan.of (Query.all : Query orderType)).joinReferring .left (Query.all : Query shipment)
      ⟨"order_id"⟩).joinReferring .anti lines ⟨"order_id"⟩).joinReferring .inner first ⟨"shipment_id"⟩
    let line : JoinNode := ⟨2, lineType, lines.conditions, some ⟨0, .anti, ⟨"id", "order_id"⟩⟩⟩
    let below : JoinNode := ⟨3, parcel, first.conditions, some ⟨1, .inner, ⟨"id", "shipment_id"⟩⟩⟩
    let g : JoinGraph := ⟨⟨0, orderType, .empty, none⟩,
      [⟨1, shipment, .empty, some ⟨0, .left, ⟨"id", "order_id"⟩⟩⟩, line, below]⟩
    p.build.result = .ok g ∧ p.NamesRows ∧ g.selection.tables.count below.tableRef = 1 ∧
      line.tableRef ∉ g.selection.tables ∧ g.selection.Scoped [] ∧
      (.onOf true "t1", .test false ⟨some "t3", "id"⟩ (.compare .eq (.int 1))) ∈ g.selection.sited ∧
      (g.scope .standard).text.query? (g.scope .standard).params = some g.selection.query := by
  intro shipment parcel first lines p line below g
  have done : p.build.result = .ok g := build_eq_ok rfl rfl (by decide +kernel) rfl (by decide) rfl
  have rows : p.NamesRows := by
    intro j member source column attached
    simp only [p, joinReferring, of, List.nil_append, List.cons_append, List.mem_cons, List.not_mem_nil,
      or_false] at member
    rcases member with rfl | rfl | rfl <;> cases attached
  have leftOut : (JoinTree.node line []).isLeftOut = true := by decide +kernel
  have tree : g.tree = .node g.root [.node ⟨1, shipment, .empty, some ⟨0, .left, ⟨"id", "order_id"⟩⟩⟩
      [.node below []], .node line []] := rfl
  have stays : ¬g.Drops below := by
    have dropped : g.tree.dropped = if (JoinTree.node line []).isLeftOut then [line] else [] := rfl
    rw [JoinGraph.drops_iff rfl, dropped, if_pos leftOut, List.mem_singleton]
    intro same
    cases congrArg JoinNode.id same
  have goes : g.Drops line :=
    ⟨.node line [], by rw [tree]; simp [JoinTree.subtrees, JoinTree.subtreesOf], leftOut, List.mem_cons_self⟩
  obtain ⟨laid, read⟩ := JoinPlan.build_lays_out done
  refine ⟨done, rows, laid.tables below (by simp [g, JoinGraph.nodes]) stays,
    laid.dropped line (by simp [g, JoinGraph.nodes]) goes, laid.inScope, ?_, read rows .standard⟩
  have inner : (JoinTree.node below [], .onOf true (tableName 1)) ∈ g.sites := by
    show _ ∈ _ :: _ :: (JoinTree.node below [], Site.onOf true (tableName 1)) :: _
    simp
  have own : (JoinTree.node below []).conditions =
      [.test false ⟨some (tableName 3), "id"⟩ (.compare .eq (.int 1))] := rfl
  rw [laid.sited.mem_iff, List.mem_flatMap, show "t1" = tableName 1 by decide +kernel,
    show "t3" = tableName 3 by decide +kernel]
  exact ⟨_, inner, by rw [own]; exact List.mem_cons_self⟩

end Sift
