import Sift.Proofs.Sql.Parsing
import Mathlib.Data.List.Nodup

/-!
# Rows of sources

A source gives each combination of rows once, and only for its own tables. What its
rows satisfy can be put together from what those of its parts satisfy: for a join,
that both sides fit and the condition holds, and for an outer one else that the right
side is missing and nothing would fit there.
-/
namespace Sift

namespace Sql

namespace Assignment

/-- The assignment has rows for some names only. -/
def Within (a : Assignment) (names : List String) : Prop := ∀ n, n ∉ names → a n = none

/-- The rows for some names. -/
def only (a : Assignment) (names : List String) : Assignment := fun n => if n ∈ names then a n else none

/-- Two assignments have the same rows for some names. -/
def AgreeOn (names : List String) (a b : Assignment) : Prop := ∀ n ∈ names, a n = b n

theorem within_only (a : Assignment) (names : List String) : (a.only names).Within names :=
  fun _ absent => if_neg absent

theorem agreeOn_only (a : Assignment) {names : List String} {some : List String}
    (sub : ∀ n ∈ names, n ∈ some) : AgreeOn names a (a.only some) :=
  fun n member => (if_pos (sub n member)).symm

theorem AgreeOn.symm {names : List String} {a b : Assignment} (agree : AgreeOn names a b) :
    AgreeOn names b a := fun n member => (agree n member).symm

theorem AgreeOn.trans {names : List String} {a b c : Assignment} (first : AgreeOn names a b)
    (second : AgreeOn names b c) : AgreeOn names a c :=
  fun n member => (first n member).trans (second n member)

theorem AgreeOn.mono {names more : List String} {a b : Assignment} (agree : AgreeOn more a b)
    (sub : ∀ n ∈ names, n ∈ more) : AgreeOn names a b := fun n member => agree n (sub n member)

theorem Within.mono {a : Assignment} {names more : List String} (within : a.Within names)
    (sub : ∀ n ∈ names, n ∈ more) : a.Within more :=
  fun n absent => within n fun member => absent (sub n member)

theorem within_merge {a b : Assignment} {names more : List String} (left : a.Within names)
    (right : b.Within more) : (a.merge b).Within (names ++ more) := by
  intro n absent
  rw [List.mem_append, not_or] at absent
  rw [merge, left n absent.1, right n absent.2]
  rfl

/-- What lies outside of the second assignment is that of the first one. -/
theorem merge_left {a b : Assignment} {more : List String} (right : b.Within more) {n : String}
    (other : n ∉ more) : a.merge b n = a n := by
  rw [merge, right n other, Option.or_none]

theorem merge_right {a b : Assignment} {names : List String} (left : a.Within names) {n : String}
    (other : n ∉ names) : a.merge b n = b n := by
  rw [merge, left n other, Option.none_or]

/-- Assignments with rows for some names are known by them. -/
theorem eq_of_agreeOn {a b : Assignment} {names : List String} (left : a.Within names)
    (right : b.Within names) (agree : AgreeOn names a b) : a = b := by
  funext n
  by_cases member : n ∈ names
  · exact agree n member
  · rw [left n member, right n member]

/-- Assignments that are put together of parts for different names are equal only in both parts. -/
theorem merge_inj {a b c d : Assignment} {names more : List String} (apart : names.Disjoint more)
    (first : a.Within names) (first' : c.Within names) (second : b.Within more) (second' : d.Within more)
    (same : a.merge b = c.merge d) : a = c ∧ b = d := by
  constructor
  · refine eq_of_agreeOn first first' fun n member => ?_
    have left : a.merge b n = a n := merge_left second (apart member)
    rw [← left, same, merge_left second' (apart member)]
  · refine eq_of_agreeOn second second' fun n member => ?_
    have other : n ∉ names := fun here => apart here member
    have right : a.merge b n = b n := merge_right first other
    rw [← right, same, merge_right first' other]

/-- An assignment is put together from its parts. -/
theorem merge_only {a : Assignment} {names more : List String} (within : a.Within (names ++ more)) :
    (a.only names).merge (a.only more) = a := by
  funext n
  by_cases first : n ∈ names
  · cases row : a n <;> simp [merge, only, first, row]
  · by_cases second : n ∈ more
    · simp [merge, only, first, second]
    · rw [within n (by simp [first, second])]
      simp [merge, only, first, second]

theorem within_single (name : String) (r : Row) : (single name r).Within [name] :=
  fun _ other => if_neg (by simpa using other)

@[simp] theorem single_self (name : String) (r : Row) : single name r name = some r := if_pos rfl

end Assignment

/-- A database lists different rows. -/
theorem Database.nodup_rows (db : Database) (table : String) : (db.rows table).Nodup := by
  refine List.Nodup.of_map Row.place ?_
  rw [rows, List.map_map]
  show ((db table).zipIdx.map Prod.snd).Nodup
  rw [List.zipIdx_map_snd]
  exact List.nodup_range' 

namespace From

variable {db : Database} {look : Lookup}

/-- Whether the condition of a join is true of rows of both sides. -/
def Fits (db : Database) (look : Lookup) (left right : From) (on : Expr) (a : Assignment) : Prop :=
  on.truth db (a.lookup (left.names ++ right.names) look) = some true

/-- The rows of a join that a row of its left side gives. -/
def extended (db : Database) (look : Lookup) (outer : Bool) (left right : From) (on : Expr)
    (a : Assignment) : List Assignment :=
  let partners := ((right.rows db look).map a.merge).filter fun m =>
    on.truth db (m.lookup (left.names ++ right.names) look) == some true
  if outer && partners.isEmpty then [a] else partners

theorem rows_join (outer : Bool) (left right : From) (on : Expr) :
    (join outer left right on).rows db look =
      (left.rows db look).flatMap (extended db look outer left right on) := rfl

theorem mem_extended {outer : Bool} {left right : From} {on : Expr} {a m : Assignment} :
    m ∈ extended db look outer left right on a ↔
      (∃ b ∈ right.rows db look, a.merge b = m ∧ Fits db look left right on m) ∨
        (outer = true ∧ m = a ∧ ∀ b ∈ right.rows db look, ¬Fits db look left right on (a.merge b)) := by
  have partners (m : Assignment) : m ∈ ((right.rows db look).map a.merge).filter (fun m =>
        on.truth db (m.lookup (left.names ++ right.names) look) == some true) ↔
      ∃ b ∈ right.rows db look, a.merge b = m ∧ Fits db look left right on m := by
    simp only [Fits, List.mem_filter, List.mem_map, beq_iff_eq]
    constructor
    · rintro ⟨⟨b, member, rfl⟩, fits⟩
      exact ⟨b, member, rfl, fits⟩
    · rintro ⟨b, member, rfl, fits⟩
      exact ⟨⟨b, member, rfl⟩, fits⟩
  simp only [extended]
  split
  next alone =>
    rw [Bool.and_eq_true, List.isEmpty_iff, List.eq_nil_iff_forall_not_mem] at alone
    have unfit (b : Assignment) (member : b ∈ right.rows db look) :
        ¬Fits db look left right on (a.merge b) := fun fits =>
      alone.2 _ ((partners _).mpr ⟨b, member, rfl, fits⟩)
    rw [List.mem_singleton]
    constructor
    · exact fun same => .inr ⟨alone.1, same, unfit⟩
    · rintro (⟨b, member, rfl, fits⟩ | ⟨-, same, -⟩)
      · exact absurd fits (unfit b member)
      · exact same
  next some =>
    rw [partners]
    refine ⟨.inl, ?_⟩
    rintro (fits | ⟨outer, -, unfit⟩)
    · exact fits
    · refine absurd ?_ some
      rw [Bool.and_eq_true, List.isEmpty_iff, List.eq_nil_iff_forall_not_mem]
      refine ⟨outer, fun m member => ?_⟩
      obtain ⟨b, given, rfl, fits⟩ := (partners m).mp member
      exact unfit b given fits

/-- A source gives rows for its own tables only. -/
theorem rows_within : ∀ {f : From} {a : Assignment}, a ∈ f.rows db look → a.Within f.names
  | table t name, a, member => by
    rw [rows, List.mem_map] at member
    obtain ⟨r, -, rfl⟩ := member
    exact Assignment.within_single name r
  | join outer left right on, m, member => by
    rw [rows_join, List.mem_flatMap] at member
    obtain ⟨a, first, extends_⟩ := member
    obtain ⟨b, second, rfl, -⟩ | ⟨-, rfl, -⟩ := mem_extended.mp extends_
    · exact Assignment.within_merge (rows_within first) (rows_within second)
    · exact (rows_within first).mono fun n given => List.mem_append_left _ given

/-- A row of a join tells the row of its left side. -/
theorem agreeOn_of_extended {outer : Bool} {left right : From} {on : Expr} {a m : Assignment}
    (apart : left.names.Disjoint right.names) (member : m ∈ extended db look outer left right on a) :
    Assignment.AgreeOn left.names m a := by
  intro n given
  obtain ⟨b, other, rfl, -⟩ | ⟨-, rfl, -⟩ := mem_extended.mp member
  · exact Assignment.merge_left (rows_within other) (apart given)
  · rfl

/-- A source whose tables have different names gives no combination of rows twice. -/
theorem nodup_rows : ∀ {f : From}, f.names.Nodup → (f.rows db look).Nodup
  | table t name, _ => by
    rw [rows]
    refine (db.nodup_rows t).map fun r s same => ?_
    have row := congrFun same name
    rw [Assignment.single_self, Assignment.single_self] at row
    exact Option.some.inj row
  | join outer left right on, distinct => by
    obtain ⟨first, second, apart⟩ := List.nodup_append'.mp distinct
    rw [rows_join, List.nodup_flatMap]
    constructor
    · intro a given
      simp only [extended]
      split
      · exact List.nodup_singleton a
      · refine ((nodup_rows second).map_on fun b fits c fits' same => ?_).filter _
        exact (Assignment.merge_inj apart (rows_within given) (rows_within given) (rows_within fits)
          (rows_within fits') same).2
    · refine (nodup_rows first).pairwise_of_forall_ne fun a given b given' differ => ?_
      intro m first second
      refine differ (Assignment.eq_of_agreeOn (rows_within given) (rows_within given') ?_)
      exact fun n member => (agreeOn_of_extended apart first n member).symm.trans
        (agreeOn_of_extended apart second n member)

/-! ## What rows satisfy -/

/-- A source gives the assignments for its tables with a property, which depends on the rows for
these tables only. -/
structure Gives (db : Database) (look : Lookup) (f : From) (P : Assignment → Prop) : Prop where
  mem : ∀ a, a ∈ f.rows db look ↔ a.Within f.names ∧ P a
  of_agreeOn : ∀ a b, Assignment.AgreeOn f.names a b → P a → P b

theorem Gives.congr {f : From} {P Q : Assignment → Prop} (gives : Gives db look f P)
    (same : ∀ a, P a ↔ Q a) : Gives db look f Q := by
  have equal : P = Q := funext fun a => propext (same a)
  exact equal ▸ gives

/-- The rows of a source for its own tables. -/
theorem Gives.only_mem {f : From} {P : Assignment → Prop} (gives : Gives db look f P) {a : Assignment}
    (property : P a) : a.only f.names ∈ f.rows db look :=
  (gives.mem _).mpr ⟨a.within_only f.names,
    gives.of_agreeOn a _ (a.agreeOn_only fun _ member => member) property⟩

theorem gives_table (table_ name : String) :
    Gives db look (table table_ name) fun a => ∃ r ∈ db.rows table_, a name = some r where
  mem a := by
    rw [rows, List.mem_map]
    constructor
    · rintro ⟨r, member, rfl⟩
      exact ⟨Assignment.within_single name r, r, member, Assignment.single_self name r⟩
    · rintro ⟨within, r, member, given⟩
      refine ⟨r, member, Assignment.eq_of_agreeOn (Assignment.within_single name r) within ?_⟩
      intro n same
      rw [List.mem_singleton.mp same, given, Assignment.single_self]
  of_agreeOn a b agree property := by
    obtain ⟨r, member, given⟩ := property
    exact ⟨r, member, by rw [← given, agree name (List.mem_singleton_self name)]⟩

/-- A condition depends on the rows for the tables that it sees. -/
theorem fits_of_agreeOn {left right : From} {on : Expr} {a b : Assignment}
    (agree : Assignment.AgreeOn (left.names ++ right.names) a b) (fits : Fits db look left right on a) :
    Fits db look left right on b := by
  have same : a.lookup (left.names ++ right.names) look = b.lookup (left.names ++ right.names) look := by
    funext c
    rw [Assignment.lookup, Assignment.lookup]
    cases c.table with
    | none => rfl
    | some t =>
      by_cases member : t ∈ left.names ++ right.names
      · simp only [if_pos member, agree t member]
      · simp only [if_neg member]
  rwa [Fits, ← same]

variable {left right : From} {on : Expr} {P Q : Assignment → Prop}

/-- An inner join gives what fits on both sides. -/
theorem Gives.inner (first : Gives db look left P) (second : Gives db look right Q)
    (apart : left.names.Disjoint right.names) :
    Gives db look (join false left right on) fun m => P m ∧ Q m ∧ Fits db look left right on m where
  mem m := by
    rw [rows_join, List.mem_flatMap]
    constructor
    · rintro ⟨a, given, extends_⟩
      have agree := agreeOn_of_extended apart extends_
      obtain ⟨b, other, rfl, fits⟩ | ⟨outer, -, -⟩ := mem_extended.mp extends_
      · refine ⟨Assignment.within_merge (rows_within given) (rows_within other), ?_, ?_, fits⟩
        · exact first.of_agreeOn a _ agree.symm ((first.mem a).mp given).2
        · refine second.of_agreeOn b _ (fun n member => ?_) ((second.mem b).mp other).2
          exact (Assignment.merge_right (rows_within given) fun here => apart here member).symm
      · cases outer
    · rintro ⟨within, p, q, fits⟩
      refine ⟨m.only left.names, first.only_mem p, mem_extended.mpr (.inl ?_)⟩
      exact ⟨m.only right.names, second.only_mem q, Assignment.merge_only within, fits⟩
  of_agreeOn a b agree property := by
    obtain ⟨p, q, fits⟩ := property
    refine ⟨first.of_agreeOn a b ?_ p, second.of_agreeOn a b ?_ q, fits_of_agreeOn agree fits⟩
    · exact agree.mono fun n member => List.mem_append_left _ member
    · exact agree.mono fun n member => List.mem_append_right _ member

/-- An outer join gives what fits on both sides, and the rows of its left side for which nothing
does. -/
theorem Gives.outer (first : Gives db look left P) (second : Gives db look right Q)
    (apart : left.names.Disjoint right.names) :
    Gives db look (join true left right on) fun m => P m ∧ (Q m ∧ Fits db look left right on m ∨
      (∀ n ∈ right.names, m n = none) ∧
        ∀ b, Assignment.AgreeOn left.names m b → Q b → ¬Fits db look left right on b) where
  mem m := by
    rw [rows_join, List.mem_flatMap]
    constructor
    · rintro ⟨a, given, extends_⟩
      have agree := agreeOn_of_extended apart extends_
      have p := first.of_agreeOn a m agree.symm ((first.mem a).mp given).2
      obtain ⟨b, other, rfl, fits⟩ | ⟨-, rfl, unfit⟩ := mem_extended.mp extends_
      · refine ⟨Assignment.within_merge (rows_within given) (rows_within other), p, .inl ⟨?_, fits⟩⟩
        refine second.of_agreeOn b _ (fun n member => ?_) ((second.mem b).mp other).2
        exact (Assignment.merge_right (rows_within given) fun here => apart here member).symm
      · have within : m.Within left.names := rows_within given
        refine ⟨within.mono fun n member => List.mem_append_left _ member, p, .inr ⟨?_, ?_⟩⟩
        · exact fun n member => within n fun here => apart here member
        · intro b same q fits
          refine unfit _ (second.only_mem q) (fits_of_agreeOn (fun n member => ?_) fits)
          by_cases here : n ∈ left.names
          · rw [Assignment.merge_left (b.within_only right.names) (apart here), same n here]
          · rw [Assignment.merge_right within here]
            exact b.agreeOn_only (fun _ member => member) n ((List.mem_append.mp member).resolve_left here)
    · rintro ⟨within, p, ⟨q, fits⟩ | ⟨missing, unfit⟩⟩
      · refine ⟨m.only left.names, first.only_mem p, mem_extended.mpr (.inl ?_)⟩
        exact ⟨m.only right.names, second.only_mem q, Assignment.merge_only within, fits⟩
      · have inside : m.Within left.names := by
          intro n other
          by_cases member : n ∈ right.names
          · exact missing n member
          · exact within n fun here => (List.mem_append.mp here).elim other member
        refine ⟨m, (first.mem m).mpr ⟨inside, p⟩, mem_extended.mpr (.inr ⟨rfl, rfl, ?_⟩)⟩
        intro b other
        refine unfit _ (fun n member => ?_) (second.of_agreeOn b _ (fun n member => ?_)
          ((second.mem b).mp other).2)
        · exact (Assignment.merge_left (rows_within other) (apart member)).symm
        · exact (Assignment.merge_right inside fun here => apart here member).symm
  of_agreeOn a b agree property := by
    have left_agree := agree.mono fun n member => List.mem_append_left right.names member
    have right_agree := agree.mono fun n member => List.mem_append_right left.names member
    obtain ⟨p, ⟨q, fits⟩ | ⟨missing, unfit⟩⟩ := property
    · exact ⟨first.of_agreeOn a b left_agree p, .inl
        ⟨second.of_agreeOn a b right_agree q, fits_of_agreeOn agree fits⟩⟩
    · refine ⟨first.of_agreeOn a b left_agree p, .inr ⟨fun n member => ?_, fun c other => ?_⟩⟩
      · rw [← right_agree n member, missing n member]
      · exact unfit c fun n member => (left_agree n member).trans (other n member)

end From
end Sql
end Sift
