import Sift.Proofs.Filter
import Sift.Proofs.Query.Fields
import Sift.Proofs.Statement.Counting
import Sift.Proofs.Statement.Paging

/-!
# Queries from filters

A filter reaches the column that its name resolves to, and no other one. Filters
are applied in order up to the first bad one; a name that resolves to no column is
reported before a payload that does not fit. A query that filters have extended is
compiled like the query before.
-/
namespace Sift

variable {r : RowType}

/-! ## Names of columns -/

namespace RowType

/-- The first column with a field name, or with no such field the first one with that column name. -/
inductive Resolves (r : RowType) (name : String) : Column → Prop where
  | field {before after : List Column} {c : Column} (columns : r.columns = before ++ c :: after)
      (named : c.field = name) (first : ∀ b ∈ before, b.field ≠ name) : Resolves r name c
  | column {before after : List Column} {c : Column} (unknown : ∀ b ∈ r.columns, b.field ≠ name)
      (columns : r.columns = before ++ c :: after) (named : c.name = name) (first : ∀ b ∈ before, b.name ≠ name) :
      Resolves r name c

/-- Whether a name is the field name or the column name of a column. -/
def Knows (r : RowType) (name : String) : Prop := ∃ c ∈ r.columns, c.field = name ∨ c.name = name

theorem resolve?_eq_some_iff {name : String} {c : Column} : r.resolve? name = some c ↔ r.Resolves name c := by
  rw [resolve?, column?, Option.or_eq_some_iff, List.find?_eq_some_iff_append, List.find?_eq_none,
    List.find?_eq_some_iff_append]
  simp only [beq_iff_eq, Bool.not_eq_true', beq_eq_false_iff_ne]
  constructor
  · rintro (⟨named, before, after, columns, first⟩ | ⟨unknown, named, before, after, columns, first⟩)
    · exact .field columns named first
    · exact .column unknown columns named first
  · rintro (⟨columns, named, first⟩ | ⟨unknown, columns, named, first⟩)
    · exact .inl ⟨named, _, _, columns, first⟩
    · exact .inr ⟨unknown, named, _, _, columns, first⟩

theorem resolve?_eq_none_iff {name : String} : r.resolve? name = none ↔ ¬r.Knows name := by
  rw [resolve?, column?, Option.or_eq_none_iff, List.find?_eq_none, List.find?_eq_none, Knows]
  simp only [beq_iff_eq, not_exists, not_and, not_or]
  exact ⟨fun both c member => ⟨both.1 c member, both.2 c member⟩,
    fun each => ⟨fun c member => (each c member).1, fun c member => (each c member).2⟩⟩

theorem Resolves.mem {name : String} {c : Column} (resolves : r.Resolves name c) : c ∈ r.columns := by
  cases resolves with
  | field columns => rw [columns]; exact List.mem_append_right _ List.mem_cons_self
  | column _ columns => rw [columns]; exact List.mem_append_right _ List.mem_cons_self

theorem Resolves.knows {name : String} {c : Column} (resolves : r.Resolves name c) : r.Knows name := by
  refine ⟨c, resolves.mem, ?_⟩
  cases resolves with
  | field _ named _ => exact .inl named
  | column _ _ named _ => exact .inr named

theorem field_eq_ok_iff {name : String} {f : Field r} :
    r.field name = .ok f ↔ ∃ c, r.Resolves name c ∧ f = ⟨c.name⟩ := by
  rw [field, resolve]
  cases found : r.resolve? name with
  | none =>
    refine iff_of_false nofun ?_
    rintro ⟨c, resolves, -⟩
    rw [resolve?_eq_some_iff.mpr resolves] at found
    cases found
  | some c =>
    have resolves := resolve?_eq_some_iff.mp found
    constructor
    · intro same
      exact ⟨c, resolves, (Except.ok.inj same).symm⟩
    · rintro ⟨d, resolves', rfl⟩
      rw [resolve?_eq_some_iff.mpr resolves'] at found
      rw [Option.some.inj found]
      rfl

theorem exists_field {name : String} (knows : r.Knows name) : ∃ f, r.field name = .ok f := by
  cases found : r.resolve? name with
  | none => exact absurd knows (resolve?_eq_none_iff.mp found)
  | some c => exact ⟨⟨c.name⟩, field_eq_ok_iff.mpr ⟨c, resolve?_eq_some_iff.mp found, rfl⟩⟩

theorem field_of_unknown {name : String} (unknown : ¬r.Knows name) :
    r.field name = .error (.unknownField r.table name) := by
  rw [field, resolve, resolve?_eq_none_iff.mpr unknown]
  rfl

end RowType

/-! ## One filter -/

namespace Filter

/-- Whether a filter names a column and its payload fits. -/
def Fits (r : RowType) (f : Filter) : Prop := r.Knows f.field ∧ ∃ x, f.toRestriction = .ok x

/-- The error of a bad filter: that of its name, or of its payload if it names a column. -/
inductive Refused (r : RowType) (f : Filter) : Error → Prop where
  | name (unknown : ¬r.Knows f.field) : Refused r f (.unknownField r.table f.field)
  | payload {cause : ArgumentError} (knows : r.Knows f.field) (bad : f.toRestriction = .error (.argument cause)) :
      Refused r f (.argument cause)

/-- The error of the first bad one of filters. -/
inductive FirstRefused (r : RowType) : List Filter → Error → Prop where
  | here {f : Filter} {fs : List Filter} {e : Error} (refused : f.Refused r e) : FirstRefused r (f :: fs) e
  | later {f : Filter} {fs : List Filter} {e : Error} (fits : f.Fits r) (rest : FirstRefused r fs e) :
      FirstRefused r (f :: fs) e

/-- What a filter adds to a query: the column that its name resolves to, and its restriction. -/
def Adds (r : RowType) (f : Filter) (step : Column × Restriction) : Prop :=
  r.Resolves f.field step.1 ∧ f.toRestriction = .ok step.2

/-- Only columns of the row type are reached. -/
theorem mem_of_adds {fs : List Filter} {steps : List (Column × Restriction)}
    (adds : List.Forall₂ (Adds r) fs steps) : ∀ step ∈ steps, step.1 ∈ r.columns := by
  induction adds with
  | nil => exact fun _ member => absurd member List.not_mem_nil
  | cons first _ ih => exact List.forall_mem_cons.mpr ⟨first.1.mem, ih⟩

end Filter

namespace Query

/-- The query with restrictions of columns added in order. -/
def addAll (q : Query r) (steps : List (Column × Restriction)) : Query r :=
  steps.foldl (fun q step => q.restrict ⟨step.1.name⟩ step.2) q

variable {q p : Query r}

/-- A filter that is applied restricts the column of its name. -/
theorem applyFilter_eq_ok_iff {f : Filter} : q.applyFilter f = .ok p ↔ ∃ step, f.Adds r step ∧ p = q.addAll [step] := by
  unfold applyFilter
  constructor
  · intro done
    obtain ⟨field, found, done⟩ := ok_of_bind done
    obtain ⟨c, resolves, rfl⟩ := RowType.field_eq_ok_iff.mp found
    obtain ⟨x, fits, done⟩ := ok_of_bind done
    exact ⟨(c, x), ⟨resolves, fits⟩, (Except.ok.inj done).symm⟩
  · rintro ⟨⟨c, x⟩, ⟨resolves, fits⟩, rfl⟩
    rw [RowType.field_eq_ok_iff.mpr ⟨c, resolves, rfl⟩]
    show (f.toRestriction >>= fun x => _) = _
    rw [fits]
    rfl

/-- A filter that is not applied is refused by its name before its payload. -/
theorem applyFilter_eq_error_iff {f : Filter} {e : Error} : q.applyFilter f = .error e ↔ f.Refused r e := by
  unfold applyFilter
  by_cases knows : r.Knows f.field
  · obtain ⟨field, found⟩ := RowType.exists_field knows
    rw [found]
    show (f.toRestriction >>= fun x => _) = _ ↔ _
    cases read : f.toRestriction with
    | error e' =>
      obtain ⟨cause, rfl⟩ := f.refuses_toRestriction e' read
      constructor
      · intro same
        cases same
        exact .payload knows read
      · intro refused
        cases refused with
        | name unknown => exact absurd knows unknown
        | payload _ bad => rw [read] at bad; cases bad; rfl
    | ok x =>
      refine iff_of_false nofun ?_
      intro refused
      cases refused with
      | name unknown => exact unknown knows
      | payload _ bad => rw [read] at bad; cases bad
  · rw [RowType.field_of_unknown knows]
    constructor
    · intro same
      cases same
      exact .name knows
    · intro refused
      cases refused with
      | name _ => rfl
      | payload known _ => exact absurd known knows

theorem exists_applyFilter_iff {f : Filter} : (∃ p, q.applyFilter f = .ok p) ↔ f.Fits r := by
  constructor
  · rintro ⟨p, done⟩
    obtain ⟨⟨c, x⟩, ⟨resolves, fits⟩, -⟩ := applyFilter_eq_ok_iff.mp done
    exact ⟨resolves.knows, x, fits⟩
  · rintro ⟨knows, x, fits⟩
    obtain ⟨field, found⟩ := RowType.exists_field knows
    obtain ⟨c, resolves, rfl⟩ := RowType.field_eq_ok_iff.mp found
    exact ⟨_, applyFilter_eq_ok_iff.mpr ⟨(c, x), ⟨resolves, fits⟩, rfl⟩⟩

/-! ## Lists of filters -/

theorem applyFilters_cons (q : Query r) (f : Filter) (fs : List Filter) :
    q.applyFilters (f :: fs) = q.applyFilter f >>= fun p => p.applyFilters fs := rfl

/-- Filters that are applied add their restrictions in order. -/
theorem applyFilters_eq_ok_iff {fs : List Filter} : q.applyFilters fs = .ok p ↔
    ∃ steps, List.Forall₂ (Filter.Adds r) fs steps ∧ p = q.addAll steps := by
  induction fs generalizing q with
  | nil =>
    constructor
    · intro done
      exact ⟨[], .nil, (Except.ok.inj done).symm⟩
    · rintro ⟨steps, adds, rfl⟩
      cases adds
      rfl
  | cons f fs ih =>
    rw [applyFilters_cons]
    constructor
    · intro done
      obtain ⟨q', first, later⟩ := ok_of_bind done
      obtain ⟨step, adds, rfl⟩ := applyFilter_eq_ok_iff.mp first
      obtain ⟨steps, rest, rfl⟩ := ih.mp later
      exact ⟨step :: steps, .cons adds rest, rfl⟩
    · rintro ⟨steps, adds, rfl⟩
      cases adds with
      | cons first rest =>
        rw [applyFilter_eq_ok_iff.mpr ⟨_, first, rfl⟩]
        exact ih.mpr ⟨_, rest, rfl⟩

/-- Filters are applied if every one of them fits. -/
theorem exists_applyFilters_iff {fs : List Filter} : (∃ p, q.applyFilters fs = .ok p) ↔ ∀ f ∈ fs, f.Fits r := by
  induction fs generalizing q with
  | nil => exact iff_of_true ⟨q, rfl⟩ nofun
  | cons f fs ih =>
    rw [applyFilters_cons, List.forall_mem_cons]
    constructor
    · rintro ⟨p, done⟩
      obtain ⟨q', first, later⟩ := ok_of_bind done
      exact ⟨exists_applyFilter_iff.mp ⟨q', first⟩, ih.mp ⟨p, later⟩⟩
    · rintro ⟨fits, rest⟩
      obtain ⟨q', first⟩ := exists_applyFilter_iff.mpr fits
      rw [first]
      exact ih.mpr rest

/-- Filters that are not applied fail with the error of the first bad one. -/
theorem applyFilters_eq_error_iff {fs : List Filter} {e : Error} :
    q.applyFilters fs = .error e ↔ Filter.FirstRefused r fs e := by
  induction fs generalizing q with
  | nil => exact iff_of_false nofun nofun
  | cons f fs ih =>
    rw [applyFilters_cons]
    cases first : q.applyFilter f with
    | error e' =>
      constructor
      · intro same
        cases same
        exact .here (applyFilter_eq_error_iff.mp first)
      · intro bad
        cases bad with
        | here refused =>
          rw [applyFilter_eq_error_iff.mpr refused] at first
          rw [Except.error.inj first]
          rfl
        | later fits _ =>
          obtain ⟨p, done⟩ := exists_applyFilter_iff.mpr fits
          rw [first] at done
          cases done
    | ok q' =>
      show q'.applyFilters fs = _ ↔ _
      rw [ih]
      constructor
      · exact .later (exists_applyFilter_iff.mp ⟨q', first⟩)
      · intro bad
        cases bad with
        | here refused =>
          rw [applyFilter_eq_error_iff.mpr refused] at first
          cases first
        | later _ rest => exact rest

/-! ## The extended query -/

/-- The restrictions of a column are followed by those that were added to it, in order. -/
theorem of_addAll (q : Query r) (steps : List (Column × Restriction)) (column : String) :
    (q.addAll steps).conditions.of column =
      q.conditions.of column ++ (steps.filter fun step => step.1.name == column).map (·.2) := by
  induction steps generalizing q with
  | nil => simp [addAll]
  | cons step steps ih =>
    rw [addAll, List.foldl_cons, ← addAll, ih]
    show (q.conditions.push step.1.name step.2).of column ++ _ = _
    rw [Conditions.of_push, List.append_assoc]
    by_cases here : step.1.name = column
    · simp [here]
    · simp [here, Ne.symm here]

/-- Only declared columns are restricted. -/
theorem check_addAll {steps : List (Column × Restriction)} (declared : ∀ step ∈ steps, step.1 ∈ r.columns)
    (checked : q.conditions.check r = .ok ()) : (q.addAll steps).conditions.check r = .ok () := by
  induction steps generalizing q with
  | nil => exact checked
  | cons step steps ih =>
    obtain ⟨first, later⟩ := List.forall_mem_cons.mp declared
    refine ih later ?_
    rw [JoinPlan.check_conditions_iff] at checked ⊢
    intro f member
    rcases Conditions.mem_columns_pushField.mp (List.mem_map.mpr ⟨f, member, rfl⟩) with same | before
    · rw [same]
      exact RowType.hasColumn_iff.mpr ⟨step.1, first, rfl⟩
    · obtain ⟨g, there, same⟩ := List.mem_map.mp before
      rw [← same]
      exact checked g there

end Query

namespace Statement

variable {q : Query r}

/-- A query of declared columns is selected from without order and window. -/
theorem exists_selectAll (cfg : Config) (valid : r.validate = .ok ()) (checked : q.conditions.check r = .ok ()) :
    ∃ s, (selectAll cfg q .none).result = .ok s := by
  have whole : (clamp cfg .all).result = .ok .all := by
    unfold clamp
    cases cfg.maxPageSize <;> rfl
  exact ⟨_, result_select rfl valid rfl whole checked rfl⟩

/-- A query of declared columns is selected from, deleted by and counted. -/
theorem compiles_of_check (cfg : Config) (valid : r.validate = .ok ()) (checked : q.conditions.check r = .ok ()) :
    (∃ scope, scopeOf cfg r (some q) = .ok scope) ∧ (∃ s, (selectAll cfg q .none).result = .ok s) ∧
      (∃ s, (delete cfg q).result = .ok s) ∧ ∃ s, (count cfg r (some q)).result = .ok s := by
  refine ⟨⟨_, scopeOf_eq_ok valid checked⟩, ?_, ?_, ⟨_, result_count valid checked⟩⟩
  · exact exists_selectAll cfg valid checked
  · by_cases vacuous : q.conditions.Vacuous
    · exact ⟨_, (result_delete_of_vacuous cfg valid checked vacuous).2⟩
    · obtain ⟨w, -, done⟩ := result_delete_of_effective cfg valid checked vacuous
      exact ⟨_, done⟩

end Statement

/-- A query of declared columns is extended by filters exactly if each of them names a column and its payload fits;
otherwise the error is that of the first bad filter, which refuses its name before its payload and a payload as an
argument. The extended query has the restrictions of the filters after those that it had, in order and each on the
column that its filter resolves to. Its columns are declared, so that it is compiled without failure. -/
theorem filters_reach_declared_columns (valid : r.validate = .ok ()) {q : Query r}
    (declared : q.conditions.check r = .ok ()) (fs : List Filter) :
    ((∃ p, q.applyFilters fs = .ok p) ↔
      ∀ f ∈ fs, (∃ c ∈ r.columns, c.field = f.field ∨ c.name = f.field) ∧ ∃ x, f.toRestriction = .ok x) ∧
    (∀ e, q.applyFilters fs = .error e ↔ Filter.FirstRefused r fs e) ∧
    ∀ p, q.applyFilters fs = .ok p →
      (∃ steps, List.Forall₂ (Filter.Adds r) fs steps ∧ p = q.addAll steps ∧
        ∀ column, p.conditions.of column =
          q.conditions.of column ++ (steps.filter fun step => step.1.name == column).map (·.2)) ∧
      ∀ cfg : Config,
        (∃ scope, Statement.scopeOf cfg r (some p) = .ok scope) ∧
        (∃ s, (Statement.selectAll cfg p .none).result = .ok s) ∧
        (∃ s, (Statement.delete cfg p).result = .ok s) ∧
        ∃ s, (Statement.count cfg r (some p)).result = .ok s := by
  refine ⟨Query.exists_applyFilters_iff, fun e => Query.applyFilters_eq_error_iff, fun p done => ?_⟩
  obtain ⟨steps, adds, rfl⟩ := Query.applyFilters_eq_ok_iff.mp done
  have checked := Query.check_addAll (Filter.mem_of_adds adds) declared
  exact ⟨⟨steps, adds, rfl, Query.of_addAll q steps⟩, fun cfg => Statement.compiles_of_check cfg valid checked⟩

/-- A name that is the field name of one column and the column name of another one reaches the former. The latter is
reached by its own field name. -/
theorem filters_reach_declared_columns_of_shared_name :
    let r : RowType := ⟨"Book", "books", [⟨"title", "name", true⟩, ⟨"name", "code", true⟩], "code", none, []⟩
    let fs : List Filter := [⟨"name", .eq, .str "A1", false⟩, ⟨"title", .like, .str "A%", true⟩]
    ∃ p : Query r, Query.all.applyFilters fs = .ok p ∧
      p.conditions.fields =
        [("code", [.of (.equals (.text "A1"))]), ("name", [(Restriction.of (.like "A%")).negate])] ∧
      ∀ cfg : Config, ∃ s, (Statement.delete cfg p).result = .ok s := by
  intro r fs
  have valid : r.validate = .ok () := ok_of_isOk (by decide +kernel)
  have declared : (Query.all : Query r).conditions.check r = .ok () := rfl
  refine ⟨_, rfl, rfl, fun cfg => ?_⟩
  exact (((filters_reach_declared_columns valid declared fs).2.2 _ rfl).2 cfg).2.2.1

end Sift
