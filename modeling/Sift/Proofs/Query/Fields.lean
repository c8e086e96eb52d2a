import Sift.Proofs.Event
import Sift.Query
import Mathlib.Data.List.Nodup

/-!
# Restrictions by column

A query that is built by its operations has one entry for each restricted column,
with at least one restriction. So its entries say no more than which restrictions
each column has.
-/
namespace Sift

/-- With distinct keys, the value of a key is that of its entry. -/
theorem lookup_eq_some_iff {β : Type} {key : String} {value : β} {entries : List (String × β)}
    (distinct : (entries.map (·.1)).Nodup) : entries.lookup key = some value ↔ (key, value) ∈ entries := by
  induction entries with
  | nil => simp
  | cons e rest ih =>
    obtain ⟨k, v⟩ := e
    obtain ⟨new, distinct⟩ := List.nodup_cons.mp distinct
    by_cases same : key = k
    · subst same
      have absent : (key, value) ∉ rest := fun member => new (List.mem_map.mpr ⟨_, member, rfl⟩)
      simp [absent, eq_comm]
    · simp [List.lookup_cons, beq_false_of_ne same, ih distinct, same]

namespace Conditions

/-- One entry for each restricted column, with at least one restriction. -/
structure Grouped (c : Conditions) : Prop where
  distinct : (c.fields.map (·.1)).Nodup
  nonempty : ∀ f ∈ c.fields, f.2 ≠ []

variable {c : Conditions} {column : String}

/-- The entries are the columns that have restrictions, each with all of them. -/
theorem Grouped.mem_iff (grouped : c.Grouped) {xs : List Restriction} :
    (column, xs) ∈ c.fields ↔ xs ≠ [] ∧ c.of column = xs := by
  rw [← lookup_eq_some_iff grouped.distinct, of]
  constructor
  · intro found
    have member := (lookup_eq_some_iff grouped.distinct).mp found
    exact ⟨grouped.nonempty _ member, by rw [found]; rfl⟩
  · rintro ⟨some_, same⟩
    cases found : c.fields.lookup column with
    | none => rw [found] at same; exact absurd same.symm some_
    | some ys => rw [found] at same; rw [← same]; rfl

theorem Grouped.mem_columns_iff (grouped : c.Grouped) : column ∈ c.fields.map (·.1) ↔ c.of column ≠ [] := by
  constructor
  · intro member
    obtain ⟨⟨_, xs⟩, entry, rfl⟩ := List.mem_map.mp member
    obtain ⟨some_, same⟩ := grouped.mem_iff.mp entry
    rwa [same]
  · intro some_
    exact List.mem_map.mpr ⟨_, grouped.mem_iff.mpr ⟨some_, rfl⟩, rfl⟩

/-! ## Building -/

theorem grouped_empty : Conditions.empty.Grouped := ⟨List.nodup_nil, nofun⟩

theorem mem_columns_pushField {fields : List (String × List Restriction)} {x : Restriction} {other : String} :
    other ∈ (pushField column x fields).map (·.1) ↔ other = column ∨ other ∈ fields.map (·.1) := by
  induction fields with
  | nil => simp [pushField]
  | cons f rest ih =>
    obtain ⟨k, xs⟩ := f
    rw [pushField]
    split
    next same => simp [same]
    next => rw [List.map_cons, List.mem_cons, ih, List.map_cons, List.mem_cons]; tauto

theorem nodup_pushField {fields : List (String × List Restriction)} {x : Restriction}
    (distinct : (fields.map (·.1)).Nodup) : ((pushField column x fields).map (·.1)).Nodup := by
  induction fields with
  | nil => simp [pushField]
  | cons f rest ih =>
    obtain ⟨k, xs⟩ := f
    obtain ⟨new, later⟩ := List.nodup_cons.mp distinct
    rw [pushField]
    split
    next => exact distinct
    next other =>
      refine List.nodup_cons.mpr ⟨?_, ih later⟩
      rw [mem_columns_pushField]
      exact not_or.mpr ⟨other, new⟩

theorem nonempty_pushField {fields : List (String × List Restriction)} {x : Restriction}
    (nonempty : ∀ f ∈ fields, f.2 ≠ []) : ∀ f ∈ pushField column x fields, f.2 ≠ [] := by
  induction fields with
  | nil => simp [pushField]
  | cons f rest ih =>
    obtain ⟨k, xs⟩ := f
    obtain ⟨first, later⟩ := List.forall_mem_cons.mp nonempty
    rw [pushField]
    split
    · exact List.forall_mem_cons.mpr ⟨List.append_ne_nil_of_right_ne_nil _ (List.cons_ne_nil _ _), later⟩
    · exact List.forall_mem_cons.mpr ⟨first, ih later⟩

theorem Grouped.push (grouped : c.Grouped) (column : String) (x : Restriction) : (c.push column x).Grouped :=
  ⟨nodup_pushField grouped.distinct, nonempty_pushField grouped.nonempty⟩

theorem lookup_pushField (column : String) (x : Restriction) (fields : List (String × List Restriction))
    (other : String) : ((pushField column x fields).lookup other).getD [] =
      (fields.lookup other).getD [] ++ if other = column then [x] else [] := by
  induction fields with
  | nil => by_cases same : other = column <;> simp [pushField, List.lookup_cons, same, beq_false_of_ne]
  | cons f rest ih =>
    obtain ⟨k, xs⟩ := f
    rw [pushField]
    by_cases here : k = column
    · subst here
      rw [if_pos rfl]
      by_cases same : other = k <;> simp [List.lookup_cons, same, beq_false_of_ne]
    · rw [if_neg here]
      by_cases same : other = k
      · subst same
        simp [here]
      · simpa [List.lookup_cons, beq_false_of_ne same] using ih

/-- A restriction is appended to those of its column. -/
theorem of_push (c : Conditions) (column : String) (x : Restriction) (other : String) :
    (c.push column x).of other = c.of other ++ if other = column then [x] else [] :=
  lookup_pushField column x c.fields other

/-- Negating keeps every column and the number of its restrictions. -/
theorem Grouped.negateLatest (grouped : c.Grouped) : c.negateLatest.Grouped := by
  rw [Conditions.negateLatest]
  split
  · exact grouped
  next place number _ =>
    rcases Nat.lt_or_ge place c.fields.length with inside | outside
    · obtain ⟨before, f, after, split, -, negated⟩ := List.exists_of_modify
        (fun f : String × List Restriction => (f.1, f.2.modify number Restriction.negate)) inside
      have distinct := grouped.distinct
      have nonempty := grouped.nonempty
      rw [split] at distinct nonempty
      refine ⟨?_, fun g member => ?_⟩
      · show ((c.fields.modify place _).map (·.1)).Nodup
        rw [negated]
        simpa using distinct
      · obtain member : g ∈ c.fields.modify place _ := member
        rw [negated, List.mem_append, List.mem_cons] at member
        rcases member with before | rfl | after
        · exact nonempty g (List.mem_append_left _ before)
        · have some_ := nonempty f (List.mem_append_right _ List.mem_cons_self)
          simpa using some_
        · exact nonempty g (List.mem_append_right _ (List.mem_cons_of_mem _ after))
    · rw [List.modify_eq_self outside]
      exact grouped

end Conditions

/-- The queries that are built by restricting the query of all rows. -/
inductive Query.Built {r : RowType} : Query r → Prop where
  | all : Built .all
  | restrict {q : Query r} (built : Built q) (f : Field r) (x : Restriction) : Built (q.restrict f x)
  | negateLatest {q : Query r} (built : Built q) : Built q.negateLatest

theorem Query.Built.grouped {r : RowType} {q : Query r} (built : q.Built) : q.conditions.Grouped := by
  induction built with
  | all => exact Conditions.grouped_empty
  | restrict _ f x ih => exact ih.push f.column x
  | negateLatest _ ih => exact ih.negateLatest

end Sift
