import Sift.Proofs.Join.Meaning

/-!
# Which assignments are joined rows

An assignment is a joined row of a tree exactly when it has accepted, linked rows for
the tables that inner joins attach, and each outer join below either has such rows for
its whole group or has none, because no rows would do.
-/
namespace Sift

open Sql

namespace JoinTree

variable {db : Database}

/-! ## Rows of nodes -/

/-- A child that is only a condition on its parent's row holds of it. -/
def Answers (db : Database) (r : Row) (t : JoinTree) : Prop :=
  ∀ e, t.top.edge = some e →
    (e.kind = .semi → t.partners db r e ≠ []) ∧ (e.kind = .anti → t.partners db r e = [])

/-- A row satisfies the conditions of the top and its children that are only conditions. -/
def Accepts (db : Database) (t : JoinTree) (r : Row) : Prop :=
  t.top.conditions.holds r.record = true ∧ ∀ c ∈ t.children, c.Answers db r

/-- The row for the parent is linked to an accepted row for the top. -/
def Present (db : Database) (a : Assignment) (t : JoinTree) : Prop :=
  ∃ e p r, t.top.edge = some e ∧ a (tableName e.parent) = some p ∧ a t.top.name = some r ∧
    r ∈ db.rows t.top.row.table ∧ e.link.holds p.record r.record = true ∧ t.Accepts db r

/-- Two assignments have the same row for the parent of a tree. -/
def SameParent (a b : Assignment) (t : JoinTree) : Prop :=
  ∀ e, t.top.edge = some e → a (tableName e.parent) = b (tableName e.parent)

theorem present_of_same {a b : Assignment} {t : JoinTree} (parent : SameParent a b t)
    (top : a t.top.name = b t.top.name) (present : t.Present db a) : t.Present db b := by
  obtain ⟨e, p, r, edge, above, row, member, linked, accepts⟩ := present
  exact ⟨e, p, r, edge, by rw [← parent e edge, above], by rw [← top, row], member, linked, accepts⟩

theorem sameParent_iff {a b : Assignment} {t : JoinTree} {id : Nat} (hangs : t.top.parent? = some id) :
    SameParent a b t ↔ a (tableName id) = b (tableName id) := by
  rw [JoinNode.parent?] at hangs
  cases edge : t.top.edge with
  | none => rw [edge] at hangs; cases hangs
  | some e =>
    rw [edge] at hangs
    cases Option.some.inj hangs
    simp [SameParent, edge]

/-! ## Inner joins -/

mutual

/-- The names of the tables that inner joins attach to the top, and of the top. -/
def innerNames : JoinTree → List String
  | node n children => n.name :: innerNamesOf children
termination_by structural t => t

def innerNamesOf : List JoinTree → List String
  | [] => []
  | t :: ts => (if t.top.kind? = some .inner then t.innerNames else []) ++ innerNamesOf ts
termination_by structural ts => ts

end

mutual

/-- All tables that inner joins attach to the top have accepted, linked rows. -/
def Complete (db : Database) (a : Assignment) : JoinTree → Prop
  | node _ children => CompleteAll db a children
termination_by structural t => t

def CompleteAll (db : Database) (a : Assignment) : List JoinTree → Prop
  | [] => True
  | t :: ts => (t.top.kind? = some .inner → t.Present db a ∧ t.Complete db a) ∧ CompleteAll db a ts
termination_by structural ts => ts

end

/-- The group of an outer join: an accepted, linked row for its table, and for all that inner joins
attach to it. -/
def Grouped (db : Database) (a : Assignment) (t : JoinTree) : Prop := t.Present db a ∧ t.Complete db a

/-- The group of an outer join is there, or it is missing and none would do. -/
def Decided (db : Database) (a : Assignment) (t : JoinTree) : Prop :=
  t.Grouped db a ∨
    (∀ n ∈ t.innerNames, a n = none) ∧ ∀ b, SameParent a b t → ¬t.Grouped db b

mutual

/-- All outer joins below the top are decided. -/
def Settled (db : Database) (a : Assignment) : JoinTree → Prop
  | node _ children => SettledAll db a children
termination_by structural t => t

def SettledAll (db : Database) (a : Assignment) : List JoinTree → Prop
  | [] => True
  | t :: ts =>
    (t.top.kind? = some .inner → t.Settled db a) ∧
      (t.top.kind? = some .left → t.Decided db a ∧ t.Settled db a) ∧ SettledAll db a ts
termination_by structural ts => ts

end

/-! ## What properties depend on -/

theorem isPhysical_of_inner {t : JoinTree} (kind : t.top.kind? = some .inner) : t.isPhysical = true := by
  rw [isPhysical, kind]
  rfl

theorem isPhysical_of_left {t : JoinTree} (kind : t.top.kind? = some .left) : t.isPhysical = true := by
  rw [isPhysical, kind]
  rfl

theorem not_isPhysical {t : JoinTree} (inner : t.top.kind? ≠ some .inner)
    (left : t.top.kind? ≠ some .left) : ¬t.isPhysical = true := by
  rw [isPhysical]
  cases kind : t.top.kind? with
  | none => simp
  | some k => cases k <;> simp_all [JoinKind.isPhysical]

theorem top_mem_innerNames (t : JoinTree) : t.top.name ∈ t.innerNames := by
  cases t
  exact List.mem_cons_self

theorem top_mem_names (t : JoinTree) : t.top.name ∈ t.names := by
  cases t
  exact List.mem_cons_self

mutual

theorem mem_names_of_inner : ∀ {t : JoinTree} {n : String}, n ∈ t.innerNames → n ∈ t.names
  | node m children, n, member => by
    rcases List.mem_cons.mp member with rfl | below
    · exact List.mem_cons_self
    · exact List.mem_cons_of_mem _ (mem_namesOf_of_inner below)

theorem mem_namesOf_of_inner : ∀ {ts : List JoinTree} {n : String}, n ∈ innerNamesOf ts → n ∈ namesOf ts
  | [], _, member => member
  | t :: ts, n, member => by
    rcases List.mem_append.mp member with first | rest
    · split at first
      next inner =>
        refine List.mem_append_left _ ?_
        rw [if_pos (isPhysical_of_inner inner)]
        exact mem_names_of_inner first
      next => cases first
    · exact List.mem_append_right _ (mem_namesOf_of_inner rest)

end

mutual

theorem complete_of_agreeOn {a b : Assignment} : ∀ {t : JoinTree}, t.Hangs →
    Assignment.AgreeOn t.innerNames a b → t.Complete db a → t.Complete db b
  | node _ _, hangs, agree, complete =>
    completeAll_of_agreeOn hangs (agree _ List.mem_cons_self)
      (agree.mono fun _ member => List.mem_cons_of_mem _ member) complete

theorem completeAll_of_agreeOn {a b : Assignment} {id : Nat} : ∀ {ts : List JoinTree}, HangOn id ts →
    a (tableName id) = b (tableName id) → Assignment.AgreeOn (innerNamesOf ts) a b →
    CompleteAll db a ts → CompleteAll db b ts
  | [], _, _, _, _ => trivial
  | t :: ts, ⟨first, hangs, rest⟩, parent, agree, ⟨own, others⟩ => by
    refine ⟨fun inner => ?_, completeAll_of_agreeOn rest parent ?_ others⟩
    · have inside : Assignment.AgreeOn t.innerNames a b := agree.mono fun n member => by
        rw [innerNamesOf, if_pos inner]
        exact List.mem_append_left _ member
      obtain ⟨present, complete⟩ := own inner
      exact ⟨present_of_same ((sameParent_iff first).mpr parent) (inside _ t.top_mem_innerNames) present,
        complete_of_agreeOn hangs inside complete⟩
    · exact agree.mono fun n member => List.mem_append_right _ member

end

theorem grouped_of_agreeOn {a b : Assignment} {t : JoinTree} (hangs : t.Hangs)
    (parent : SameParent a b t) (agree : Assignment.AgreeOn t.innerNames a b)
    (grouped : t.Grouped db a) : t.Grouped db b :=
  ⟨present_of_same parent (agree _ t.top_mem_innerNames) grouped.1,
    complete_of_agreeOn hangs agree grouped.2⟩

theorem decided_of_agreeOn {a b : Assignment} {t : JoinTree} (hangs : t.Hangs)
    (parent : SameParent a b t) (agree : Assignment.AgreeOn t.innerNames a b)
    (decided : t.Decided db a) : t.Decided db b := by
  rcases decided with grouped | ⟨missing, unfit⟩
  · exact .inl (grouped_of_agreeOn hangs parent agree grouped)
  · refine .inr ⟨fun n member => ?_, fun c same => unfit c fun e edge => ?_⟩
    · rw [← agree n member, missing n member]
    · rw [parent e edge, same e edge]

mutual

theorem settled_of_agreeOn {a b : Assignment} : ∀ {t : JoinTree}, t.Hangs →
    Assignment.AgreeOn t.names a b → t.Settled db a → t.Settled db b
  | node _ _, hangs, agree, settled =>
    settledAll_of_agreeOn hangs (agree _ List.mem_cons_self)
      (agree.mono fun _ member => List.mem_cons_of_mem _ member) settled

theorem settledAll_of_agreeOn {a b : Assignment} {id : Nat} : ∀ {ts : List JoinTree}, HangOn id ts →
    a (tableName id) = b (tableName id) → Assignment.AgreeOn (namesOf ts) a b →
    SettledAll db a ts → SettledAll db b ts
  | [], _, _, _, _ => trivial
  | t :: ts, ⟨first, hangs, rest⟩, parent, agree, ⟨inner, left, others⟩ => by
    have inside (physical : t.isPhysical = true) : Assignment.AgreeOn t.names a b :=
      agree.mono fun n member => by
        rw [namesOf, if_pos physical]
        exact List.mem_append_left _ member
    refine ⟨fun kind => ?_, fun kind => ?_, settledAll_of_agreeOn rest parent ?_ others⟩
    · exact settled_of_agreeOn hangs (inside (isPhysical_of_inner kind)) (inner kind)
    · have agree := inside (isPhysical_of_left kind)
      obtain ⟨decided, settled⟩ := left kind
      exact ⟨decided_of_agreeOn hangs ((sameParent_iff first).mpr parent)
        (agree.mono fun _ member => mem_names_of_inner member) decided,
        settled_of_agreeOn hangs agree settled⟩
    · exact agree.mono fun n member => List.mem_append_right _ member

end

/-! ## Missing groups -/

/-- Without a row for its parent, a tree has no accepted, linked row. -/
theorem not_present {a : Assignment} {t : JoinTree} {id : Nat} (hangs : t.top.parent? = some id)
    (missing : a (tableName id) = none) : ¬t.Present db a := by
  rintro ⟨e, p, r, edge, above, -⟩
  rw [JoinNode.parent?, edge] at hangs
  cases Option.some.inj hangs
  rw [missing] at above
  cases above

theorem decided_iff_missing {a : Assignment} {t : JoinTree} {id : Nat} (hangs : t.top.parent? = some id)
    (missing : a (tableName id) = none) : t.Decided db a ↔ ∀ n ∈ t.innerNames, a n = none := by
  constructor
  · rintro (⟨present, -⟩ | ⟨absent, -⟩)
    · exact absurd present (not_present hangs missing)
    · exact absent
  · intro absent
    refine .inr ⟨absent, fun b same grouped => not_present hangs ?_ grouped.1⟩
    rw [← (sameParent_iff hangs).mp same, missing]

mutual

/-- Below a missing group, everything is missing. -/
theorem settled_iff_missing {a : Assignment} : ∀ {t : JoinTree}, t.Hangs →
    (∀ n ∈ t.innerNames, a n = none) → (t.Settled db a ↔ ∀ n ∈ t.names, a n = none)
  | node n children, hangs, missing => by
    have top := missing n.name List.mem_cons_self
    have below := settledAll_iff_missing hangs top fun m member =>
      missing m (List.mem_cons_of_mem _ member)
    rw [Settled, names, List.forall_mem_cons, below]
    exact ⟨fun all => ⟨top, all⟩, fun all => all.2⟩

theorem settledAll_iff_missing {a : Assignment} {id : Nat} : ∀ {ts : List JoinTree}, HangOn id ts →
    a (tableName id) = none → (∀ n ∈ innerNamesOf ts, a n = none) →
    (SettledAll db a ts ↔ ∀ n ∈ namesOf ts, a n = none)
  | [], _, _, _ => by simp [SettledAll, namesOf]
  | t :: ts, ⟨first, hangs, rest⟩, top, missing => by
    rw [innerNamesOf, List.forall_mem_append] at missing
    have others := settledAll_iff_missing rest top missing.2
    rw [SettledAll, namesOf, List.forall_mem_append, others, ← and_assoc]
    refine and_congr_left fun _ => ?_
    by_cases inner : t.top.kind? = some .inner
    · rw [if_pos inner] at missing
      rw [if_pos (isPhysical_of_inner inner), ← settled_iff_missing hangs missing.1]
      simp [inner]
    · by_cases left : t.top.kind? = some .left
      · rw [if_pos (isPhysical_of_left left)]
        simp only [left, Option.some.injEq, reduceCtorEq, false_imp_iff, true_imp_iff, true_and,
          decided_iff_missing first top]
        constructor
        · rintro ⟨absent, settled⟩
          exact (settled_iff_missing hangs absent).mp settled
        · intro absent
          have missing : ∀ n ∈ t.innerNames, a n = none := fun n member =>
            absent n (mem_names_of_inner member)
          exact ⟨missing, (settled_iff_missing hangs missing).mpr absent⟩
      · rw [if_neg (not_isPhysical inner left)]
        simp [inner, left]

end

/-! ## Groups and joined rows -/

theorem edge_of_parent {t : JoinTree} {id : Nat} (hangs : t.top.parent? = some id) :
    ∃ e, t.top.edge = some e ∧ e.parent = id := by
  rw [JoinNode.parent?] at hangs
  cases edge : t.top.edge with
  | none => rw [edge] at hangs; cases hangs
  | some e =>
    rw [edge] at hangs
    exact ⟨e, rfl, Option.some.inj hangs⟩

theorem kind?_of_edge {t : JoinTree} {e : JoinEdge} (edge : t.top.edge = some e) :
    t.top.kind? = some e.kind := by
  rw [JoinNode.kind?, edge]
  rfl

mutual

/-- A row gives joined rows if its tables have what inner joins require: outer joins require
nothing. -/
theorem exists_mem_rowsOf {a : Assignment} : ∀ {t : JoinTree} {r : Row}, t.Hangs →
    a t.top.name = some r → t.Accepts db r → t.Complete db a → ∃ x, x ∈ t.rowsOf db r
  | node n children, r, hangs, row, accepts, complete => by
    obtain ⟨x, combined⟩ := exists_mem_combinations hangs row accepts.2 complete
    have holds : n.conditions.holds r.record = true := accepts.1
    refine ⟨(Assignment.single n.name r).merge x, ?_⟩
    rw [rowsOf, if_pos holds]
    exact List.mem_map_of_mem combined

theorem exists_mem_combinations {a : Assignment} {id : Nat} {r : Row} : ∀ {ts : List JoinTree},
    HangOn id ts → a (tableName id) = some r → (∀ c ∈ ts, c.Answers db r) → CompleteAll db a ts →
    ∃ x, x ∈ combinations db r ts
  | [], _, _, _, _ => ⟨.nothing, List.mem_singleton_self _⟩
  | t :: ts, ⟨first, hangs, rest⟩, parent, answers, ⟨own, others⟩ => by
    obtain ⟨x, combined⟩ := exists_mem_combinations rest parent
      (fun c member => answers c (List.mem_cons_of_mem t member)) others
    obtain ⟨e, edge, rfl⟩ := edge_of_parent first
    have answer := answers t List.mem_cons_self e edge
    have some : ∃ y, y ∈ t.contributed db r := by
      rw [contributed_of_edge edge]
      cases kind : e.kind with
      | inner =>
        obtain ⟨⟨e', p, s, edge', above, row, member, linked, accepts⟩, complete⟩ :=
          own (by rw [kind?_of_edge edge, kind])
        cases Option.some.inj (edge.symm.trans edge')
        cases Option.some.inj (parent.symm.trans above)
        obtain ⟨y, joined⟩ := exists_mem_rowsOf hangs row accepts complete
        exact ⟨y, mem_partners.mpr ⟨s, member, linked, joined⟩⟩
      | left =>
        rw [JoinKind.contributions]
        split
        next => exact ⟨.nothing, List.mem_singleton_self _⟩
        next nonempty => exact List.exists_mem_of_ne_nil _ (by simpa using nonempty)
      | semi =>
        rw [JoinKind.contributions, if_neg (by simpa using answer.1 kind)]
        exact ⟨.nothing, List.mem_singleton_self _⟩
      | anti =>
        rw [JoinKind.contributions, if_pos (by simpa using answer.2 kind)]
        exact ⟨.nothing, List.mem_singleton_self _⟩
    obtain ⟨y, contributed⟩ := some
    refine ⟨y.merge x, ?_⟩
    rw [combinations_cons, List.mem_flatMap]
    exact ⟨y, contributed, List.mem_map_of_mem combined⟩

end

theorem partners_of_grouped {a : Assignment} {t : JoinTree} {e : JoinEdge} {r : Row} (hangs : t.Hangs)
    (edge : t.top.edge = some e) (parent : a (tableName e.parent) = some r) (grouped : t.Grouped db a) :
    t.partners db r e ≠ [] := by
  obtain ⟨⟨e', p, s, edge', above, row, member, linked, accepts⟩, complete⟩ := grouped
  cases Option.some.inj (edge.symm.trans edge')
  cases Option.some.inj (parent.symm.trans above)
  obtain ⟨y, joined⟩ := exists_mem_rowsOf hangs row accepts complete
  exact List.ne_nil_of_mem (mem_partners.mpr ⟨s, member, linked, joined⟩)

/-- What it takes to be a joined row of a row of the top's table. -/
structure Joined (db : Database) (a : Assignment) (t : JoinTree) (r : Row) : Prop where
  within : a.Within t.names
  row : a t.top.name = some r
  accepts : t.Accepts db r
  complete : t.Complete db a
  settled : t.Settled db a

section

variable {a y : Assignment} {t : JoinTree} {e : JoinEdge} {r : Row}
  (joined : ∀ (s : Row) (y : Assignment), y ∈ t.rowsOf db s ↔ t.Joined db y s)
include joined

theorem mem_partners_iff (hangs : t.Hangs) (edge : t.top.edge = some e)
    (parent : a (tableName e.parent) = some r) (agree : Assignment.AgreeOn t.names y a) :
    y ∈ t.partners db r e ↔ y.Within t.names ∧ t.Grouped db a ∧ t.Settled db a := by
  have inside : Assignment.AgreeOn t.innerNames y a :=
    agree.mono fun _ member => mem_names_of_inner member
  have top := agree _ t.top_mem_names
  rw [mem_partners]
  constructor
  · rintro ⟨s, member, linked, given⟩
    have given := (joined s y).mp given
    refine ⟨given.within, ⟨⟨e, r, s, edge, parent, top ▸ given.row, member, linked, given.accepts⟩, ?_⟩, ?_⟩
    · exact complete_of_agreeOn hangs inside given.complete
    · exact settled_of_agreeOn hangs agree given.settled
  · rintro ⟨within, ⟨⟨e', p, s, edge', above, row, member, linked, accepts⟩, complete⟩, settled⟩
    cases Option.some.inj (edge.symm.trans edge')
    cases Option.some.inj (parent.symm.trans above)
    refine ⟨s, member, linked, (joined s y).mpr ⟨within, top.trans row, accepts, ?_, ?_⟩⟩
    · exact complete_of_agreeOn hangs inside.symm complete
    · exact settled_of_agreeOn hangs agree.symm settled

/-- The contribution of an outer join: its group, or nothing if no group would do. -/
theorem mem_left_iff (hangs : t.Hangs) (edge : t.top.edge = some e)
    (parent : a (tableName e.parent) = some r) (fresh : tableName e.parent ∉ t.names)
    (agree : Assignment.AgreeOn t.names y a) :
    y ∈ JoinKind.left.contributions (t.partners db r e) ↔
      y.Within t.names ∧ t.Decided db a ∧ t.Settled db a := by
  have partner := mem_partners_iff joined hangs edge parent agree
  rw [JoinKind.contributions]
  by_cases alone : t.partners db r e = []
  · rw [if_pos (by simpa using alone), List.mem_singleton]
    have unfit {b : Assignment} (same : SameParent a b t) : ¬t.Grouped db b := fun grouped =>
      partners_of_grouped hangs edge ((same e edge).symm.trans parent) grouped alone
    constructor
    · rintro rfl
      have missing (n : String) (member : n ∈ t.names) : a n = none := (agree n member).symm
      have inner (n : String) (member : n ∈ t.innerNames) : a n = none :=
        missing n (mem_names_of_inner member)
      exact ⟨within_nothing _, .inr ⟨inner, fun b same => unfit same⟩,
        (settled_iff_missing hangs inner).mpr missing⟩
    · rintro ⟨within, grouped | ⟨inner, -⟩, settled⟩
      · exact absurd grouped (unfit fun _ _ => rfl)
      · have missing := (settled_iff_missing hangs inner).mp settled
        refine Assignment.eq_of_agreeOn within (within_nothing _) fun n member => ?_
        rw [agree n member, missing n member]
        rfl
  · rw [if_neg (by simpa using alone), partner]
    refine and_congr_right fun _ => and_congr_left fun _ => ⟨.inl, ?_⟩
    rintro (grouped | ⟨-, unfit⟩)
    · exact grouped
    · -- some group would do: that of a joined row that is there
      obtain ⟨z, given⟩ := List.exists_mem_of_ne_nil _ alone
      let b : Assignment := (Assignment.single (tableName e.parent) r).merge z
      have single := Assignment.within_single (tableName e.parent) r
      have above : b (tableName e.parent) = some r :=
        congrArg (Option.or · _) (Assignment.single_self _ r)
      have below : Assignment.AgreeOn t.names z b := fun n member =>
        (Assignment.merge_right single fun same => fresh (List.mem_singleton.mp same ▸ member)).symm
      refine absurd ((mem_partners_iff joined hangs edge above below).mp given).2.1 (unfit b ?_)
      intro e' edge'
      cases Option.some.inj (edge.symm.trans edge')
      rw [parent, above]

end

theorem answers_iff {t : JoinTree} {e : JoinEdge} {r : Row} (edge : t.top.edge = some e) :
    t.Answers db r ↔ (e.kind = .semi → t.partners db r e ≠ []) ∧ (e.kind = .anti → t.partners db r e = []) := by
  simp [Answers, edge]

/-- What a child contributes: joined rows if it is joined physically, else nothing, if it holds. -/
theorem mem_contributed_iff {a y : Assignment} {t : JoinTree} {e : JoinEdge} {r : Row}
    (joined : t.isPhysical = true → ∀ s y, y ∈ t.rowsOf db s ↔ t.Joined db y s) (hangs : t.Hangs)
    (edge : t.top.edge = some e) (parent : a (tableName e.parent) = some r)
    (fresh : tableName e.parent ∉ t.added) (agree : Assignment.AgreeOn t.added y a) :
    y ∈ t.contributed db r ↔ y.Within t.added ∧ t.Answers db r ∧
      (t.top.kind? = some .inner → t.Grouped db a ∧ t.Settled db a) ∧
      (t.top.kind? = some .left → t.Decided db a ∧ t.Settled db a) := by
  have nothing : y.Within [] ↔ y = .nothing :=
    ⟨fun within => Assignment.eq_of_agreeOn within (within_nothing _) (by simp [Assignment.AgreeOn]),
      fun same => same ▸ within_nothing _⟩
  rw [added, isPhysical_of_edge edge] at fresh agree ⊢
  rw [isPhysical_of_edge edge] at joined
  rw [contributed_of_edge edge, kind?_of_edge edge, answers_iff edge]
  cases kind : e.kind with
  | inner =>
    rw [kind] at joined fresh agree
    simpa [JoinKind.contributions, JoinKind.isPhysical] using
      mem_partners_iff (joined rfl) hangs edge parent agree
  | left =>
    rw [kind] at joined fresh agree
    simpa [JoinKind.isPhysical] using mem_left_iff (joined rfl) hangs edge parent fresh agree
  | semi =>
    by_cases alone : t.partners db r e = [] <;>
      simp [JoinKind.contributions, JoinKind.isPhysical, nothing, alone]
  | anti =>
    by_cases alone : t.partners db r e = [] <;>
      simp [JoinKind.contributions, JoinKind.isPhysical, nothing, alone]

mutual

/-- The joined rows of a row. -/
theorem mem_rowsOf_iff : ∀ {t : JoinTree} {a : Assignment} {r : Row}, t.Hangs → t.names.Nodup →
    (a ∈ t.rowsOf db r ↔ t.Joined db a r)
  | node n children, a, r, hangs, distinct => by
    obtain ⟨other, distinct⟩ := List.nodup_cons.mp distinct
    have single := Assignment.within_single n.name r
    have apart : [n.name].Disjoint (namesOf children) := by simpa using other
    rw [rowsOf]
    constructor
    · intro given
      split at given
      next holds =>
        obtain ⟨x, combined, rfl⟩ := List.mem_map.mp given
        have within := within_of_combinations combined
        have row : (Assignment.single n.name r).merge x n.name = some r :=
          congrArg (Option.or · _) (Assignment.single_self n.name r)
        have agree : Assignment.AgreeOn (namesOf children) x ((Assignment.single n.name r).merge x) :=
          fun m member => (Assignment.merge_right single fun here => apart here member).symm
        obtain ⟨-, answers, complete, settled⟩ :=
          (mem_combinations_iff hangs distinct other row agree).mp combined
        exact ⟨Assignment.within_merge single within, row, ⟨holds, answers⟩, complete, settled⟩
      next => cases given
    · rintro ⟨within, row, ⟨holds, answers⟩, complete, settled⟩
      have holds : n.conditions.holds r.record = true := holds
      rw [if_pos holds, List.mem_map]
      refine ⟨a.only (namesOf children), ?_, ?_⟩
      · have agree := (a.agreeOn_only fun m (member : m ∈ namesOf children) => member).symm
        exact (mem_combinations_iff hangs distinct other row agree).mpr
          ⟨a.within_only _, answers, complete, settled⟩
      · have own : Assignment.single n.name r = a.only [n.name] := by
          refine Assignment.eq_of_agreeOn single (a.within_only _) fun m same => ?_
          cases List.mem_singleton.mp same
          rw [Assignment.single_self, Assignment.only, if_pos (List.mem_singleton_self _)]
          exact row.symm
        rw [own]
        exact Assignment.merge_only within

theorem mem_combinations_iff {a : Assignment} {id : Nat} {r : Row} : ∀ {ts : List JoinTree} {x : Assignment},
    HangOn id ts → (namesOf ts).Nodup → tableName id ∉ namesOf ts → a (tableName id) = some r →
    Assignment.AgreeOn (namesOf ts) x a →
    (x ∈ combinations db r ts ↔ x.Within (namesOf ts) ∧ (∀ c ∈ ts, c.Answers db r) ∧
      CompleteAll db a ts ∧ SettledAll db a ts)
  | [], x, _, _, _, _, _ => by
    have nothing : x ∈ combinations db r [] ↔ x = .nothing := List.mem_singleton
    rw [nothing]
    constructor
    · rintro rfl
      exact ⟨within_nothing _, by simp, trivial, trivial⟩
    · rintro ⟨within, -⟩
      exact Assignment.eq_of_agreeOn within (within_nothing _) (by simp [Assignment.AgreeOn, namesOf])
  | t :: ts, x, ⟨first, hangs, rest⟩, distinct, fresh, parent, agree => by
    obtain ⟨own, others, apart⟩ := List.nodup_append'.mp distinct
    obtain ⟨fresh, fresh'⟩ := not_or.mp (mt List.mem_append.mpr fresh)
    obtain ⟨e, edge, rfl⟩ := edge_of_parent first
    have joined (physical : t.isPhysical = true) (s : Row) (y : Assignment) :
        y ∈ t.rowsOf db s ↔ t.Joined db y s := by
      rw [if_pos physical] at own
      exact mem_rowsOf_iff hangs own
    have left : Assignment.AgreeOn t.added x a := agree.mono fun m member => List.mem_append_left _ member
    have right : Assignment.AgreeOn (namesOf ts) x a :=
      agree.mono fun m member => List.mem_append_right _ member
    rw [combinations_cons, List.mem_flatMap, List.forall_mem_cons, CompleteAll, SettledAll]
    constructor
    · rintro ⟨y, contributed, member⟩
      obtain ⟨z, combined, rfl⟩ := List.mem_map.mp member
      have first := within_of_contributed contributed
      have second := within_of_combinations combined
      have left : Assignment.AgreeOn t.added y a := fun m member =>
        (Assignment.merge_left second (apart member)).symm.trans (left m member)
      have right : Assignment.AgreeOn (namesOf ts) z a := fun m member =>
        (Assignment.merge_right first fun here => apart here member).symm.trans (right m member)
      obtain ⟨-, answers, inner, outer⟩ :=
        (mem_contributed_iff joined hangs edge parent fresh left).mp contributed
      obtain ⟨-, answers', complete, settled⟩ :=
        (mem_combinations_iff rest others fresh' parent right).mp combined
      exact ⟨Assignment.within_merge first second, ⟨answers, answers'⟩,
        ⟨fun kind => (inner kind).1, complete⟩, fun kind => (inner kind).2, outer, settled⟩
    · rintro ⟨within, ⟨answers, answers'⟩, ⟨inner, complete⟩, inner', outer, settled⟩
      have left := ((x.agreeOn_only fun m (member : m ∈ t.added) => member).symm).trans left
      have right := ((x.agreeOn_only fun m (member : m ∈ namesOf ts) => member).symm).trans right
      refine ⟨x.only t.added, ?_, List.mem_map.mpr ⟨x.only (namesOf ts), ?_, Assignment.merge_only within⟩⟩
      · exact (mem_contributed_iff joined hangs edge parent fresh left).mpr
          ⟨x.within_only _, answers, fun kind => ⟨inner kind, inner' kind⟩, outer⟩
      · exact (mem_combinations_iff rest others fresh' parent right).mpr
          ⟨x.within_only _, answers', complete, settled⟩

end

end JoinTree
end Sift
