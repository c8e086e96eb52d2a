import Sift.Proofs.Join.Placement

/-!
# The tables of a tree

The tables that a tree places, layer by layer, are its subtrees that are joined
physically, each in the group that the outer join above it started. Every table comes
after the one it hangs on. Under a top that no outer join leaves without a row, what
the selection asks of these tables is what the tree asks of its joined rows.
-/
namespace Sift

open Sql

namespace JoinTree

/-! ## Subtrees -/

mutual

/-- A tree and all trees in it. -/
def subtrees : JoinTree → List JoinTree
  | node n children => node n children :: subtreesOf children
termination_by structural t => t

def subtreesOf : List JoinTree → List JoinTree
  | [] => []
  | t :: ts => t.subtrees ++ subtreesOf ts
termination_by structural ts => ts

end

theorem subtrees_eq (t : JoinTree) : t.subtrees = t :: subtreesOf t.children := by
  cases t
  rfl

theorem nodes_eq (t : JoinTree) : t.nodes = t.top :: nodesOf t.children := by
  cases t
  rfl

mutual

theorem nodes_sublist : ∀ {t u : JoinTree}, u ∈ t.subtrees → u.nodes.Sublist t.nodes
  | node n children, u, member => by
    rcases List.mem_cons.mp member with rfl | below
    · exact List.Sublist.refl _
    · exact (nodes_sublistOf below).cons n

theorem nodes_sublistOf : ∀ {ts : List JoinTree} {u : JoinTree}, u ∈ subtreesOf ts →
    u.nodes.Sublist (nodesOf ts)
  | [], _, member => by cases member
  | t :: ts, u, member => by
    rw [nodesOf]
    rcases List.mem_append.mp member with first | rest
    · exact (nodes_sublist first).trans (List.sublist_append_left _ _)
    · exact (nodes_sublistOf rest).trans (List.sublist_append_right _ _)

end

mutual

theorem hangs_of_mem : ∀ {t u : JoinTree}, t.Hangs → u ∈ t.subtrees → u.Hangs
  | node _ _, _, hangs, member => by
    rcases List.mem_cons.mp member with rfl | below
    · exact hangs
    · exact hangs_of_memOf hangs below

theorem hangs_of_memOf : ∀ {ts : List JoinTree} {u : JoinTree} {id : Nat}, HangOn id ts →
    u ∈ subtreesOf ts → u.Hangs
  | [], _, _, _, member => by cases member
  | _ :: _, _, _, ⟨_, hangs, rest⟩, member => by
    rcases List.mem_append.mp member with first | others
    · exact hangs_of_mem hangs first
    · exact hangs_of_memOf rest others

end

mutual

theorem mem_subtrees_trans : ∀ {t u v : JoinTree}, u ∈ t.subtrees → v ∈ u.subtrees → v ∈ t.subtrees
  | node _ _, _, _, above, member => by
    rcases List.mem_cons.mp above with rfl | below
    · exact member
    · exact List.mem_cons_of_mem _ (mem_subtreesOf_trans below member)

theorem mem_subtreesOf_trans : ∀ {ts : List JoinTree} {u v : JoinTree}, u ∈ subtreesOf ts →
    v ∈ u.subtrees → v ∈ subtreesOf ts
  | [], _, _, above, _ => by cases above
  | t :: ts, u, v, above, member => by
    rw [subtreesOf, List.mem_append]
    rcases List.mem_append.mp above with first | rest
    · exact .inl (mem_subtrees_trans first member)
    · exact .inr (mem_subtreesOf_trans rest member)

end

theorem mem_subtreesOf {ts : List JoinTree} {t : JoinTree} (member : t ∈ ts) : t ∈ subtreesOf ts := by
  induction ts with
  | nil => cases member
  | cons u us ih =>
    rw [subtreesOf, List.mem_append]
    rcases List.mem_cons.mp member with rfl | rest
    · exact .inl (by rw [subtrees_eq]; exact List.mem_cons_self)
    · exact .inr (ih rest)

/-- A tree whose edges lead to the node above and whose numbers are different. -/
structure Proper (t : JoinTree) : Prop where
  hangs : t.Hangs
  distinct : (t.nodes.map (·.id)).Nodup

theorem Proper.of_mem {t u : JoinTree} (proper : t.Proper) (member : u ∈ t.subtrees) : u.Proper where
  hangs := hangs_of_mem proper.hangs member
  distinct := proper.distinct.sublist ((nodes_sublist member).map _)

theorem top_mem_nodes (t : JoinTree) : t.top ∈ t.nodes := by
  rw [nodes_eq]
  exact List.mem_cons_self

/-! ## Joined trees -/

mutual

/-- The trees that are joined physically below the top, each with its group. -/
def joinedBelow (group : Option Nat) : JoinTree → List (JoinTree × Option Nat)
  | node _ children => joinedOf group children
termination_by structural t => t

def joinedOf (group : Option Nat) : List JoinTree → List (JoinTree × Option Nat)
  | [] => []
  | t :: ts =>
    let own :=
      match t.top.kind? with
      | some .inner => (t, group) :: t.joinedBelow group
      | some .left => (t, some t.top.id) :: t.joinedBelow (some t.top.id)
      | _ => []
    own ++ joinedOf group ts
termination_by structural ts => ts

end

mutual

/-- The trees that inner joins attach to the top. -/
def inners : JoinTree → List JoinTree
  | node _ children => innersOf children
termination_by structural t => t

def innersOf : List JoinTree → List JoinTree
  | [] => []
  | t :: ts => (if t.top.kind? = some .inner then t :: t.inners else []) ++ innersOf ts
termination_by structural ts => ts

end

theorem joinedOf_inner {g : Option Nat} {t : JoinTree} {ts : List JoinTree} (inner : t.top.kind? = some .inner) :
    joinedOf g (t :: ts) = ((t, g) :: t.joinedBelow g) ++ joinedOf g ts := by
  rw [joinedOf, inner]

theorem joinedOf_left {g : Option Nat} {t : JoinTree} {ts : List JoinTree} (left : t.top.kind? = some .left) :
    joinedOf g (t :: ts) = ((t, some t.top.id) :: t.joinedBelow (some t.top.id)) ++ joinedOf g ts := by
  rw [joinedOf, left]

theorem joinedOf_other {g : Option Nat} {t : JoinTree} {ts : List JoinTree}
    (inner : t.top.kind? ≠ some .inner) (left : t.top.kind? ≠ some .left) :
    joinedOf g (t :: ts) = joinedOf g ts := by
  rw [joinedOf]
  split
  next kind => exact absurd kind inner
  next kind => exact absurd kind left
  next => rfl

/-- The group of a child whose parent is in a group. -/
def groupIn (g : Option Nat) (t : JoinTree) : Option Nat :=
  if t.top.kind? = some .left then some t.top.id else g

/-- What a child adds to the trees below its parent. -/
theorem mem_joinedOf_cons {g : Option Nat} {t : JoinTree} {ts : List JoinTree} {u : JoinTree × Option Nat} :
    u ∈ joinedOf g (t :: ts) ↔
      t.isPhysical = true ∧ (u = (t, t.groupIn g) ∨ u ∈ t.joinedBelow (t.groupIn g)) ∨ u ∈ joinedOf g ts := by
  by_cases inner : t.top.kind? = some .inner
  · simp [joinedOf_inner inner, isPhysical_of_inner inner, groupIn, inner, or_assoc]
  · by_cases left : t.top.kind? = some .left
    · simp [joinedOf_left left, isPhysical_of_left left, groupIn, left, or_assoc]
    · simp [joinedOf_other inner left, not_isPhysical inner left]

mutual

theorem joinedBelow_sublist (g : Option Nat) : ∀ t : JoinTree,
    ((t.joinedBelow g).map (·.1.top)).Sublist (nodesOf t.children)
  | node _ children => joinedOf_sublist g children

/-- The trees that are joined physically have different nodes of their parent. -/
theorem joinedOf_sublist (g : Option Nat) : ∀ ts : List JoinTree,
    ((joinedOf g ts).map (·.1.top)).Sublist (nodesOf ts)
  | [] => List.Sublist.refl _
  | t :: ts => by
    have others := joinedOf_sublist g ts
    have own (h : Option Nat) : (((t, h) :: t.joinedBelow h).map (·.1.top)).Sublist t.nodes := by
      rw [nodes_eq]
      exact (joinedBelow_sublist h t).cons_cons t.top
    rw [nodesOf]
    by_cases inner : t.top.kind? = some .inner
    · rw [joinedOf_inner inner, List.map_append]
      exact (own g).append others
    · by_cases left : t.top.kind? = some .left
      · rw [joinedOf_left left, List.map_append]
        exact (own (some t.top.id)).append others
      · rw [joinedOf_other inner left]
        exact others.trans (List.sublist_append_right _ _)

end

mutual

theorem mem_subtrees_of_joined : ∀ {t : JoinTree} {g : Option Nat} {u : JoinTree × Option Nat},
    u ∈ t.joinedBelow g → u.1 ∈ subtreesOf t.children
  | node _ _, _, _, member => mem_subtrees_of_joinedOf member

theorem mem_subtrees_of_joinedOf : ∀ {ts : List JoinTree} {g : Option Nat} {u : JoinTree × Option Nat},
    u ∈ joinedOf g ts → u.1 ∈ subtreesOf ts
  | [], _, _, member => by cases member
  | t :: ts, g, u, member => by
    rw [subtreesOf, subtrees_eq, List.mem_append]
    rcases mem_joinedOf_cons.mp member with ⟨-, rfl | deeper⟩ | other
    · exact .inl List.mem_cons_self
    · exact .inl (List.mem_cons_of_mem _ (mem_subtrees_of_joined deeper))
    · exact .inr (mem_subtrees_of_joinedOf other)

end

theorem top_mem_of_joined {t : JoinTree} {g : Option Nat} {u : JoinTree × Option Nat}
    (member : u ∈ t.joinedBelow g) : u.1.top ∈ nodesOf t.children :=
  (joinedBelow_sublist g t).subset (List.mem_map_of_mem member)

theorem top_mem_of_joinedOf {ts : List JoinTree} {g : Option Nat} {u : JoinTree × Option Nat}
    (member : u ∈ joinedOf g ts) : u.1.top ∈ nodesOf ts :=
  (joinedOf_sublist g ts).subset (List.mem_map_of_mem member)

/-! ## Layers -/

theorem flatten_mergeLayers {α : Type} : ∀ xs ys : List (List α),
    (mergeLayers xs ys).flatten.Perm (xs.flatten ++ ys.flatten)
  | [], ys => by rw [mergeLayers]; exact List.Perm.refl _
  | x :: xs, [] => by simp [mergeLayers]
  | x :: xs, y :: ys => by
    have rest := flatten_mergeLayers xs ys
    rw [mergeLayers, List.flatten_cons, List.flatten_cons, List.flatten_cons]
    refine (rest.append_left (x ++ y)).trans ?_
    rw [List.append_assoc, List.append_assoc]
    refine List.Perm.append_left x ?_
    rw [← List.append_assoc, ← List.append_assoc]
    exact List.perm_append_comm.append_right _

/-- A subtree as a table of its group. -/
def placedIn (u : JoinTree × Option Nat) : Placed := u.1.placed u.2

mutual

theorem flatten_layersBelow (g : Option Nat) : ∀ t : JoinTree,
    (t.layersBelow g).flatten.Perm ((t.joinedBelow g).map placedIn)
  | node _ children => flatten_layersOf g children

theorem flatten_layersOf (g : Option Nat) : ∀ ts : List JoinTree,
    (layersOf g ts).flatten.Perm ((joinedOf g ts).map placedIn)
  | [] => List.Perm.refl _
  | t :: ts => by
    have others := flatten_layersOf g ts
    have own (h : Option Nat) : ([t.placed h] :: t.layersBelow h).flatten.Perm
        (((t, h) :: t.joinedBelow h).map placedIn) := (flatten_layersBelow h t).cons (t.placed h)
    rw [layersOf]
    refine (flatten_mergeLayers _ _).trans ?_
    by_cases inner : t.top.kind? = some .inner
    · rw [joinedOf_inner inner, List.map_append, inner]
      exact (own g).append others
    · by_cases left : t.top.kind? = some .left
      · rw [joinedOf_left left, List.map_append, left]
        exact (own (some t.top.id)).append others
      · rw [joinedOf_other inner left]
        split
        next kind => exact absurd kind inner
        next kind => exact absurd kind left
        next => exact others

end

/-- Every table of a layer hangs on one of the layer before. -/
def Layered (above : List Placed) : List (List Placed) → Prop
  | [] => True
  | l :: ls => (∀ p ∈ l, ∃ q ∈ above, Placed.HangsOn q p) ∧ Layered l ls

theorem Layered.mono {above more : List Placed} {ls : List (List Placed)} (layered : Layered above ls)
    (sub : ∀ p ∈ above, p ∈ more) : Layered more ls := by
  cases ls with
  | nil => trivial
  | cons l ls =>
    refine ⟨fun p member => ?_, layered.2⟩
    obtain ⟨q, there, hangs⟩ := layered.1 p member
    exact ⟨q, sub q there, hangs⟩

theorem layered_mergeLayers : ∀ {xs ys : List (List Placed)} {above : List Placed}, Layered above xs →
    Layered above ys → Layered above (mergeLayers xs ys)
  | [], ys, _, _, second => by rw [mergeLayers]; exact second
  | x :: xs, [], _, first, _ => first
  | x :: xs, y :: ys, _, first, second => by
    rw [mergeLayers]
    refine ⟨fun p member => ?_, layered_mergeLayers ?_ ?_⟩
    · rcases List.mem_append.mp member with left | right
      · exact first.1 p left
      · exact second.1 p right
    · exact first.2.mono fun p member => List.mem_append_left y member
    · exact second.2.mono fun p member => List.mem_append_right x member

/-- Layers one after the other list every table after the one it hangs on. -/
theorem Layered.parent {before after : List Placed} {p : Placed} : ∀ {ls : List (List Placed)}
    {above : List Placed}, Layered above ls → ls.flatten = before ++ p :: after →
    ∃ q ∈ above ++ before, Placed.HangsOn q p := by
  intro ls
  induction ls generalizing before with
  | nil =>
    intro _ _ split
    simp at split
  | cons l ls ih =>
    intro above layered split
    rw [List.flatten_cons] at split
    rcases List.append_eq_append_iff.mp split with ⟨earlier, rfl, back⟩ | ⟨later, rfl, back⟩
    · obtain ⟨q, there, hangs⟩ := ih layered.2 back
      exact ⟨q, List.mem_append_right above there, hangs⟩
    · cases later with
      | nil =>
        obtain ⟨q, there, hangs⟩ := @ih [] _ layered.2 back.symm
        rw [List.append_nil, List.append_nil] at there
        exact ⟨q, List.mem_append_right above there, hangs⟩
      | cons p' later =>
        cases (List.cons.inj back).1
        obtain ⟨q, there, hangs⟩ := layered.1 p (by simp)
        exact ⟨q, List.mem_append_left _ there, hangs⟩

@[simp] theorem node_placed (g : Option Nat) (t : JoinTree) : (t.placed g).node = t.top := by
  cases t
  rfl

@[simp] theorem group_placed (g : Option Nat) (t : JoinTree) : (t.placed g).group = g := by
  cases t
  rfl

/-- The conditions of a table are those of its tree, whatever its group. -/
theorem conditions_placed (g h : Option Nat) (t : JoinTree) :
    (t.placed g).conditions = (t.placed h).conditions := by
  cases t
  rfl

mutual

theorem layered_layersBelow (g : Option Nat) : ∀ {t : JoinTree}, t.Hangs →
    Layered [t.placed g] (t.layersBelow g)
  | node n children, hangs => layered_layersOf (p := (node n children).placed g) hangs

theorem layered_layersOf {p : Placed} : ∀ {ts : List JoinTree}, HangOn p.node.id ts →
    Layered [p] (layersOf p.group ts)
  | [], _ => trivial
  | t :: ts, ⟨first, hangs, rest⟩ => by
    have others := layered_layersOf rest
    obtain ⟨e, edge, parent⟩ := edge_of_parent first
    have kind := kind?_of_edge edge
    have own (h : Option Nat) (placed : Placed.HangsOn p (t.placed h)) :
        Layered [p] ([t.placed h] :: t.layersBelow h) :=
      ⟨by simpa using placed, layered_layersBelow h hangs⟩
    rw [layersOf, kind]
    refine layered_mergeLayers ?_ others
    cases inner : e.kind with
    | inner => exact own p.group ⟨e, by simpa using edge, parent, .inl ⟨inner, by simp⟩⟩
    | left => exact own (some t.top.id) ⟨e, by simpa using edge, parent, .inr ⟨inner, by simp⟩⟩
    | semi => trivial
    | anti => trivial

end

theorem tables_perm (t : JoinTree) : t.tables.Perm ((t.joinedBelow none).map placedIn) :=
  flatten_layersBelow none t

theorem mem_tables {t : JoinTree} {p : Placed} :
    p ∈ t.tables ↔ ∃ u ∈ t.joinedBelow none, placedIn u = p := by
  rw [t.tables_perm.mem_iff, List.mem_map]

/-- The tables of a tree are listed one after the other. -/
theorem Proper.layout {t : JoinTree} (proper : t.Proper) : Placed.Layout (t.placed none) t.tables where
  root := group_placed none t
  distinct := by
    have ids : ((t.placed none :: t.tables).map (·.node.id)).Perm
        ((t.top :: (t.joinedBelow none).map (·.1.top)).map (·.id)) := by
      have tables := (t.tables_perm.map (·.node.id)).cons t.top.id
      simpa [placedIn, Function.comp_def] using tables
    refine ids.nodup_iff.mpr (proper.distinct.sublist (List.Sublist.map _ ?_))
    rw [nodes_eq]
    exact (joinedBelow_sublist none t).cons_cons t.top
  parent before p after split := (layered_layersBelow none proper.hangs).parent split

/-! ## Groups -/

mutual

theorem group_of_joined : ∀ {t : JoinTree} {g : Option Nat} {u : JoinTree × Option Nat},
    u ∈ t.joinedBelow g → u.2 = g ∨ ∃ n ∈ nodesOf t.children, u.2 = some n.id
  | node _ _, _, _, member => group_of_joinedOf member

/-- A group is that of the parent, or an outer join below it started it. -/
theorem group_of_joinedOf : ∀ {ts : List JoinTree} {g : Option Nat} {u : JoinTree × Option Nat},
    u ∈ joinedOf g ts → u.2 = g ∨ ∃ n ∈ nodesOf ts, u.2 = some n.id
  | [], _, _, member => by cases member
  | t :: ts, g, u, member => by
    have started : t.groupIn g = g ∨ ∃ n ∈ nodesOf (t :: ts), t.groupIn g = some n.id := by
      rw [groupIn]
      split
      · exact .inr ⟨t.top, by rw [nodesOf, nodes_eq]; simp, rfl⟩
      · exact .inl rfl
    rcases mem_joinedOf_cons.mp member with ⟨-, rfl | deeper⟩ | other
    · exact started
    · rcases group_of_joined deeper with same | ⟨n, there, own⟩
      · rw [same]
        exact started
      · exact .inr ⟨n, by rw [nodesOf, nodes_eq]; simp [there], own⟩
    · rcases group_of_joinedOf other with same | ⟨n, there, own⟩
      · exact .inl same
      · exact .inr ⟨n, by rw [nodesOf]; exact List.mem_append_right _ there, own⟩

end

theorem group_none_of_joined {t : JoinTree} {g : Option Nat} {u : JoinTree × Option Nat}
    (member : u ∈ t.joinedBelow g) (ungrouped : u.2 = none) : g = none := by
  rcases group_of_joined member with same | ⟨n, -, started⟩
  · rw [← same, ungrouped]
  · rw [started] at ungrouped
    cases ungrouped

/-- Some table below a top belongs to no outer join exactly if some child is attached by an inner join. -/
theorem exists_ungrouped_iff {ts : List JoinTree} :
    (∃ u ∈ joinedOf none ts, u.2 = none) ↔ ∃ t ∈ ts, t.top.kind? = some .inner := by
  induction ts with
  | nil => simp [joinedOf]
  | cons t ts ih =>
    constructor
    · rintro ⟨u, member, ungrouped⟩
      rcases mem_joinedOf_cons.mp member with ⟨physical, here⟩ | later
      · have alone : t.groupIn none = none := by
          rcases here with rfl | below
          · exact ungrouped
          · exact group_none_of_joined below ungrouped
        refine ⟨t, List.mem_cons_self, ?_⟩
        by_contra inner
        have left : t.top.kind? ≠ some .left := fun left => by
          rw [groupIn, if_pos left] at alone
          cases alone
        exact not_isPhysical inner left physical
      · obtain ⟨v, there, inner⟩ := ih.mp ⟨u, later, ungrouped⟩
        exact ⟨v, List.mem_cons_of_mem _ there, inner⟩
    · rintro ⟨v, member, inner⟩
      rcases List.mem_cons.mp member with rfl | there
      · refine ⟨(v, none), mem_joinedOf_cons.mpr (.inl ⟨isPhysical_of_inner inner, .inl ?_⟩), rfl⟩
        rw [groupIn, inner]
        rfl
      · obtain ⟨u, later, ungrouped⟩ := ih.mpr ⟨v, there, inner⟩
        exact ⟨u, mem_joinedOf_cons.mpr (.inr later), ungrouped⟩

/-- No tree of a list starts the group. -/
def Outside (g : Option Nat) (ts : List JoinTree) : Prop := ∀ n ∈ nodesOf ts, g ≠ some n.id

theorem outside_none (ts : List JoinTree) : Outside none ts := fun _ _ same => by cases same

theorem Outside.split {g : Option Nat} {t : JoinTree} {ts : List JoinTree} (outside : Outside g (t :: ts)) :
    g ≠ some t.top.id ∧ Outside g t.children ∧ Outside g ts := by
  rw [Outside, nodesOf, nodes_eq, List.forall_mem_append, List.forall_mem_cons] at outside
  exact ⟨outside.1.1, outside.1.2, outside.2⟩

theorem Outside.of_other {g h : Option Nat} {ts : List JoinTree} (outside : Outside g ts)
    (other : g ≠ h) {u : JoinTree} : (u, g) ∉ joinedOf h ts := by
  intro member
  rcases group_of_joinedOf member with same | ⟨n, there, own⟩
  · exact other same
  · exact outside n there own

theorem Outside.of_otherBelow {g h : Option Nat} {t : JoinTree} (outside : Outside g t.children)
    (other : g ≠ h) {u : JoinTree} : (u, g) ∉ t.joinedBelow h := by
  cases t
  exact outside.of_other other

mutual

theorem mem_inners_iff : ∀ {t : JoinTree} {g : Option Nat} {u : JoinTree}, Outside g t.children →
    (u ∈ t.inners ↔ (u, g) ∈ t.joinedBelow g)
  | node _ _, _, _, outside => mem_innersOf_iff outside

/-- The trees of a group that was started above are those that inner joins attach. -/
theorem mem_innersOf_iff : ∀ {ts : List JoinTree} {g : Option Nat} {u : JoinTree}, Outside g ts →
    (u ∈ innersOf ts ↔ (u, g) ∈ joinedOf g ts)
  | [], _, _, _ => by simp [innersOf, joinedOf]
  | t :: ts, g, u, outside => by
    obtain ⟨top, inside, rest⟩ := outside.split
    rw [innersOf, List.mem_append, mem_innersOf_iff rest, mem_joinedOf_cons]
    refine or_congr_left ?_
    by_cases inner : t.top.kind? = some .inner
    · simp [inner, isPhysical_of_inner inner, groupIn, mem_inners_iff inside]
    · rw [if_neg inner]
      by_cases left : t.top.kind? = some .left
      · rw [groupIn, if_pos left]
        constructor
        · intro member
          cases member
        · rintro ⟨-, same | deeper⟩
          · exact absurd (Prod.mk.inj same).2 top
          · exact absurd deeper (inside.of_otherBelow top)
      · simp [not_isPhysical inner left]

end

/-- The nodes of trees have different numbers. -/
def Distinct (ts : List JoinTree) : Prop := ((nodesOf ts).map (·.id)).Nodup

theorem Distinct.split {t : JoinTree} {ts : List JoinTree} (distinct : Distinct (t :: ts)) :
    (∀ n ∈ nodesOf t.children, n.id ≠ t.top.id) ∧ Distinct t.children ∧ Distinct ts ∧
      ∀ n ∈ nodesOf ts, n.id ≠ t.top.id ∧ ∀ m ∈ nodesOf t.children, n.id ≠ m.id := by
  rw [Distinct, nodesOf, nodes_eq, List.map_append, List.map_cons] at distinct
  obtain ⟨first, rest, apart⟩ := List.nodup_append'.mp distinct
  obtain ⟨top, children⟩ := List.nodup_cons.mp first
  refine ⟨fun n there same => top ?_, children, rest, fun n there => ⟨fun same => ?_, fun m inside same => ?_⟩⟩
  · exact same ▸ List.mem_map_of_mem there
  · exact apart (same ▸ List.mem_cons_self) (List.mem_map_of_mem there)
  · exact apart (List.mem_cons_of_mem _ (List.mem_map_of_mem inside)) (same ▸ List.mem_map_of_mem there)

mutual

theorem mem_inners_of_joined : ∀ {t : JoinTree} {g h : Option Nat} {u v : JoinTree}, Distinct t.children →
    Outside g t.children → (u, h) ∈ t.joinedBelow g → u.top.kind? = some .left →
    (v, some u.top.id) ∈ t.joinedBelow g → v = u ∨ v ∈ u.inners
  | node _ _, _, _, _, _, distinct, outside, first, left, second =>
    mem_inners_of_joinedOf distinct outside first left second

/-- The group that an outer join starts is its own tree and those that inner joins attach to it. -/
theorem mem_inners_of_joinedOf : ∀ {ts : List JoinTree} {g h : Option Nat} {u v : JoinTree}, Distinct ts →
    Outside g ts → (u, h) ∈ joinedOf g ts → u.top.kind? = some .left →
    (v, some u.top.id) ∈ joinedOf g ts → v = u ∨ v ∈ u.inners
  | [], _, _, _, _, _, _, first, _, _ => by cases first
  | t :: ts, g, h, u, v, distinct, outside, first, left, second => by
    obtain ⟨top, children, rest, apart⟩ := distinct.split
    obtain ⟨above, inside, others⟩ := outside.split
    have under : Outside (t.groupIn g) t.children := by
      rw [groupIn]
      split
      · exact fun n there same => top n there (Option.some.inj same).symm
      · exact inside
    -- where `u` is tells in which trees its group can be
    rcases mem_joinedOf_cons.mp first with ⟨physical, same | deeper⟩ | other
    · cases same
      have started : t.groupIn g = some t.top.id := if_pos left
      rw [mem_joinedOf_cons, started] at second
      rcases second with ⟨-, same | deeper⟩ | other
      · exact .inl (Prod.mk.inj same).1
      · exact .inr ((mem_inners_iff (started ▸ under)).mpr deeper)
      · refine absurd other (Outside.of_other (fun n there same => ?_) above.symm)
        exact (apart n there).1 (Option.some.inj same).symm
    · have there := top_mem_of_joined deeper
      have foreign : Outside (some u.top.id) ts := fun n here same =>
        (apart n here).2 _ there (Option.some.inj same).symm
      rcases mem_joinedOf_cons.mp second with ⟨-, same | deeper'⟩ | other
      · exact absurd (Prod.mk.inj same).2.symm (under _ there)
      · exact mem_inners_of_joined children under deeper left deeper'
      · exact absurd other (foreign.of_other (inside _ there).symm)
    · have there := top_mem_of_joinedOf other
      have foreign : Outside (some u.top.id) t.children := fun n here same =>
        (apart _ there).2 n here (Option.some.inj same)
      have different : some u.top.id ≠ t.groupIn g := by
        rw [groupIn]
        split
        · exact fun same => (apart _ there).1 (Option.some.inj same)
        · exact (others _ there).symm
      rcases mem_joinedOf_cons.mp second with ⟨-, same | deeper⟩ | other'
      · exact absurd (Prod.mk.inj same).2 different
      · exact absurd deeper (foreign.of_otherBelow different)
      · exact mem_inners_of_joinedOf rest others other left other'

end

mutual

theorem joinedBelow_subset : ∀ {t : JoinTree} {g h : Option Nat} {u : JoinTree}, (u, h) ∈ t.joinedBelow g →
    ∀ v ∈ u.joinedBelow h, v ∈ t.joinedBelow g
  | node _ _, _, _, _, member, v, deeper => joinedOf_subset member v deeper

/-- What is joined to a tree is joined to those above. -/
theorem joinedOf_subset : ∀ {ts : List JoinTree} {g h : Option Nat} {u : JoinTree}, (u, h) ∈ joinedOf g ts →
    ∀ v ∈ u.joinedBelow h, v ∈ joinedOf g ts
  | [], _, _, _, member, _, _ => by cases member
  | t :: ts, g, h, u, member, v, deeper => by
    rw [mem_joinedOf_cons]
    rcases mem_joinedOf_cons.mp member with ⟨physical, same | above⟩ | other
    · cases same
      exact .inl ⟨physical, .inr deeper⟩
    · exact .inl ⟨physical, .inr (joinedBelow_subset above v deeper)⟩
    · exact .inr (joinedOf_subset other v deeper)

end

/-! ## Properties of all tables -/

mutual

theorem complete_iff {db : Database} {a : Assignment} : ∀ {t : JoinTree},
    t.Complete db a ↔ ∀ u ∈ t.inners, u.Present db a
  | node _ _ => completeAll_iff

theorem completeAll_iff {db : Database} {a : Assignment} : ∀ {ts : List JoinTree},
    CompleteAll db a ts ↔ ∀ u ∈ innersOf ts, u.Present db a
  | [] => by simp [CompleteAll, innersOf]
  | t :: ts => by
    rw [CompleteAll, innersOf, List.forall_mem_append, completeAll_iff]
    refine and_congr_left fun _ => ?_
    by_cases inner : t.top.kind? = some .inner
    · simp [inner, complete_iff]
    · simp [inner]

end

mutual

theorem innerNames_eq : ∀ t : JoinTree, t.innerNames = t.top.name :: t.inners.map (·.top.name)
  | node n children => congrArg (n.name :: ·) (innerNamesOf_eq children)

theorem innerNamesOf_eq : ∀ ts : List JoinTree, innerNamesOf ts = (innersOf ts).map (·.top.name)
  | [] => rfl
  | t :: ts => by
    rw [innerNamesOf, innersOf, List.map_append, innerNamesOf_eq ts]
    split
    · rw [innerNames_eq t, List.map_cons]
    · rfl

end

mutual

theorem settled_iff {db : Database} {a : Assignment} {g : Option Nat} : ∀ {t : JoinTree},
    t.Settled db a ↔ ∀ u ∈ t.joinedBelow g, u.1.top.kind? = some .left → u.1.Decided db a
  | node _ _ => settledAll_iff

theorem settledAll_iff {db : Database} {a : Assignment} {g : Option Nat} : ∀ {ts : List JoinTree},
    SettledAll db a ts ↔ ∀ u ∈ joinedOf g ts, u.1.top.kind? = some .left → u.1.Decided db a
  | [] => by simp [SettledAll, joinedOf]
  | t :: ts => by
    rw [SettledAll, settledAll_iff (g := g), ← and_assoc]
    by_cases inner : t.top.kind? = some .inner
    · rw [joinedOf_inner inner, List.forall_mem_append, List.forall_mem_cons]
      refine and_congr_left fun _ => ?_
      simp [inner, settled_iff (g := g)]
    · by_cases left : t.top.kind? = some .left
      · rw [joinedOf_left left, List.forall_mem_append, List.forall_mem_cons]
        refine and_congr_left fun _ => ?_
        simp [left, settled_iff (g := some t.top.id)]
      · rw [joinedOf_other inner left]
        simp [inner, left]

end

mutual

theorem names_eq (g : Option Nat) : ∀ t : JoinTree,
    t.names = t.top.name :: (t.joinedBelow g).map (·.1.top.name)
  | node n children => congrArg (n.name :: ·) (namesOf_eq g children)

theorem namesOf_eq (g : Option Nat) : ∀ ts : List JoinTree,
    namesOf ts = (joinedOf g ts).map (·.1.top.name)
  | [] => rfl
  | t :: ts => by
    rw [namesOf, namesOf_eq g ts]
    by_cases inner : t.top.kind? = some .inner
    · rw [joinedOf_inner inner, if_pos (isPhysical_of_inner inner), names_eq g t, List.map_append,
        List.map_cons]
    · by_cases left : t.top.kind? = some .left
      · rw [joinedOf_left left, if_pos (isPhysical_of_left left), names_eq (some t.top.id) t,
          List.map_append, List.map_cons]
      · rw [joinedOf_other inner left, if_neg (not_isPhysical inner left), List.nil_append]

end

theorem Proper.nodup_names {t : JoinTree} (proper : t.Proper) : t.names.Nodup := by
  have named : t.names = ((t.top :: (t.joinedBelow none).map (·.1.top)).map (·.id)).map tableName := by
    rw [names_eq none, List.map_map, List.map_cons, List.map_map]
    rfl
  rw [named]
  refine List.Nodup.map Placed.tableName_injective (proper.distinct.sublist (List.Sublist.map _ ?_))
  rw [nodes_eq]
  exact (joinedBelow_sublist none t).cons_cons t.top

end JoinTree
end Sift
