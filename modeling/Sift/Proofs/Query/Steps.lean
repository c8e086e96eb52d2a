import Sift.Proofs.Query.Congruence
import Mathlib.Data.List.ModifyLast

/-!
# Queries and the order in which they were restricted

A query is built by adding restrictions, each to a column, and by negating the one that was
added last. The steps say the same of a flat list of restrictions with their columns: one is
appended to the end, or the last one is negated. The query is this list grouped by column, so
what the steps do to it is seen on the list.
-/
namespace Sift

/-- Restrictions with their columns, in the order in which they were added. -/
abbrev Trail := List (String × Restriction)

namespace Trail

def push (l : Trail) (column : String) (x : Restriction) : Trail := l ++ [(column, x)]

/-- Negates the last restriction; without one, nothing changes. -/
def negateLatest (l : Trail) : Trail := l.modifyLast fun a => (a.1, a.2.negate)

/-- The restrictions of a column. -/
def of (l : Trail) (column : String) : List Restriction := (l.filter (·.1 == column)).map (·.2)

/-- The columns, each where it comes first. -/
def columns (l : Trail) : List String := (l.map (·.1)).eraseDups

/-- Each column with its restrictions, where the column comes first. -/
def grouped (l : Trail) : List (String × List Restriction) := l.columns.map fun column => (column, l.of column)

/-- The conditions that the list describes; the last restriction is the last one of its column. -/
def conditions (l : Trail) : Conditions :=
  ⟨l.grouped, l.getLast?.map fun a => (l.columns.idxOf a.1, (l.of a.1).length - 1)⟩

variable {l : Trail} {column : String} {x : Restriction}

theorem of_push (l : Trail) (column : String) (x : Restriction) (other : String) :
    (l.push column x).of other = l.of other ++ if other = column then [x] else [] := by
  by_cases same : column = other
  · simp [push, of, same]
  · simp [push, of, same, Ne.symm same]

theorem mem_columns_iff : column ∈ l.columns ↔ column ∈ l.map (·.1) := List.mem_eraseDups

theorem of_eq_nil (new : column ∉ l.columns) : l.of column = [] := by
  rw [mem_columns_iff] at new
  rw [of, List.map_eq_nil_iff, List.filter_eq_nil_iff]
  intro a member same
  exact new (List.mem_map.mpr ⟨a, member, eq_of_beq same⟩)

theorem columns_push (l : Trail) (column : String) (x : Restriction) :
    (l.push column x).columns = if column ∈ l.columns then l.columns else l.columns ++ [column] := by
  have next : (l.push column x).columns = l.columns ++ ([column].removeAll (l.map (·.1))).eraseDups := by
    rw [columns, push, List.map_append, List.eraseDups_append, columns]
    rfl
  rw [next]
  split
  next known => simp [List.removeAll, List.mem_map.mp (mem_columns_iff.mp known)]
  next new => simp [List.removeAll, mt mem_columns_iff.mpr new, List.eraseDups_cons]

theorem nodup_columns (l : Trail) : l.columns.Nodup := by
  induction l using List.reverseRecOn with
  | nil => exact List.nodup_nil
  | append_singleton l a ih =>
    rw [← push, columns_push]
    split
    · exact ih
    next new => exact ih.append (List.nodup_singleton _) (by simpa using new)

theorem negateLatest_push : (l.push column x).negateLatest = l.push column x.negate :=
  List.modifyLast_concat _ _ _

end Trail

namespace Conditions

/-- Pushing to columns that are listed once, each with its restrictions. -/
theorem pushField_map {columns : List String} (distinct : columns.Nodup) {f : String → List Restriction}
    {column : String} (unknown : column ∉ columns → f column = []) (x : Restriction) :
    pushField column x (columns.map fun c => (c, f c)) =
      (if column ∈ columns then columns else columns ++ [column]).map fun c =>
        (c, f c ++ if c = column then [x] else []) := by
  induction columns with
  | nil => simp [pushField, unknown]
  | cons c rest ih =>
    obtain ⟨new, distinct⟩ := List.nodup_cons.mp distinct
    rw [List.map_cons, pushField]
    by_cases here : c = column
    · subst here
      -- no later entry is of the column, since each column stands once
      have others : ∀ d ∈ rest, (d, f d) = (d, f d ++ if d = c then [x] else []) := by
        intro d member
        rw [if_neg (ne_of_mem_of_not_mem member new), List.append_nil]
      rw [if_pos rfl, if_pos List.mem_cons_self, List.map_cons, if_pos rfl, List.map_congr_left others]
    · have absent (later : column ∉ rest) : column ∉ c :: rest := by simp [later, Ne.symm here]
      rw [if_neg here, ih distinct fun later => unknown (absent later)]
      by_cases later : column ∈ rest
      · rw [if_pos later, if_pos (List.mem_cons_of_mem c later), List.map_cons, if_neg here, List.append_nil]
      · rw [if_neg later, if_neg (absent later), List.cons_append, List.map_cons, if_neg here, List.append_nil]

/-- The restriction that was pushed last stands where it was put. -/
theorem modify_pushField (column : String) (x : Restriction) (fields : List (String × List Restriction)) :
    (pushField column x fields).modify (fields.findIdx (·.1 == column))
        (fun f => (f.1, f.2.modify ((fields.lookup column).getD []).length Restriction.negate)) =
      pushField column x.negate fields := by
  induction fields with
  | nil => rfl
  | cons f rest ih =>
    obtain ⟨c, xs⟩ := f
    by_cases here : c = column
    · subst here
      have last : (xs ++ [x]).modify xs.length Restriction.negate = xs ++ [x.negate] := by
        rw [List.modify_eq_take_drop]
        simp
      simp [pushField, List.findIdx_cons, last]
    · rw [pushField, if_neg here, pushField, if_neg here, List.findIdx_cons, beq_false_of_ne here, List.lookup_cons,
        beq_false_of_ne (Ne.symm here), ← ih]
      rfl

theorem negateLatest_push (c : Conditions) (column : String) (x : Restriction) :
    (c.push column x).negateLatest = c.push column x.negate :=
  congrArg (Conditions.mk · _) (modify_pushField column x c.fields)

end Conditions

namespace Trail

variable {l : Trail} {column : String} {x : Restriction}

theorem of_conditions (l : Trail) (column : String) : l.conditions.of column = l.of column := by
  have found (columns : List String) : ((columns.map fun c => (c, l.of c)).lookup column).getD [] =
      if column ∈ columns then l.of column else [] := by
    induction columns with
    | nil => rfl
    | cons c rest ih =>
      by_cases here : column = c
      · simp [here]
      · simpa [List.lookup_cons, beq_false_of_ne here, here] using ih
  refine (found l.columns).trans ?_
  split
  · rfl
  next new => exact (of_eq_nil new).symm

/-- A restriction goes to the end of the list and to the end of its column. -/
theorem conditions_push (l : Trail) (column : String) (x : Restriction) :
    (l.push column x).conditions = l.conditions.push column x := by
  have fields : (l.push column x).grouped = Conditions.pushField column x l.grouped := by
    rw [grouped, columns_push, grouped, Conditions.pushField_map l.nodup_columns of_eq_nil]
    simp only [of_push]
  have place : (l.push column x).columns.idxOf column = l.grouped.findIdx (·.1 == column) := by
    have listed : l.grouped.findIdx (·.1 == column) = l.columns.idxOf column := by
      rw [grouped, List.findIdx_map]
      rfl
    rw [listed, columns_push]
    split
    · rfl
    next new => rw [List.idxOf_append_of_notMem new, List.idxOf_of_notMem new]; simp
  have number : ((l.push column x).of column).length - 1 = (l.conditions.of column).length := by
    rw [of_push, if_pos rfl, of_conditions, List.length_append, List.length_singleton, Nat.add_sub_cancel]
  have latest : (l.push column x).getLast? = some (column, x) := List.getLast?_concat
  rw [conditions, fields, latest, Conditions.push, ← number]
  show _ = Conditions.mk _ (some (l.grouped.findIdx (·.1 == column), _))
  rw [← place]
  rfl

/-- Each column stands once. -/
theorem nodup_conditions (l : Trail) : (l.conditions.fields.map (·.1)).Nodup := by
  simpa [conditions, grouped, Function.comp_def] using l.nodup_columns

/-- What is kept of the last restriction of the list is where it stands. -/
theorem exists_latest (l : Trail) {a : String × Restriction} (last : l.getLast? = some a) :
    ∃ place number xs, l.conditions.latest = some (place, number) ∧
      l.conditions.fields[place]? = some (a.1, xs) ∧ xs[number]? = some a.2 := by
  have column : a.1 ∈ l.columns := mem_columns_iff.mpr (List.mem_map_of_mem (List.mem_of_getLast? last))
  obtain ⟨before, rfl⟩ : ∃ before : Trail, l = before.push a.1 a.2 := List.getLast?_eq_some_iff.mp last
  refine ⟨_, _, (before.push a.1 a.2).of a.1, congrArg (Option.map _) last, ?_, ?_⟩
  · show (List.map _ _)[_]? = _
    rw [List.getElem?_map, List.getElem?_eq_getElem (List.idxOf_lt_length_of_mem column), List.getElem_idxOf]
    rfl
  · simp [of_push]

/-- The last restriction of the list is the last one of its column, wherever the column stands. -/
theorem conditions_negateLatest (l : Trail) : l.negateLatest.conditions = l.conditions.negateLatest := by
  induction l using List.reverseRecOn with
  | nil => rfl
  | append_singleton l a =>
    rw [← push, negateLatest_push, conditions_push, conditions_push, Conditions.negateLatest_push]

end Trail

/-! ## Steps -/

/-- Folds whose steps agree under a map agree under it. -/
theorem foldlM_map_eq {ε α β γ : Type} {step : α → γ → Except ε α} {step' : β → γ → Except ε β} {f : α → β}
    (each : ∀ a c, step' (f a) c = (step a c).map f) (cs : List γ) (a : α) :
    cs.foldlM step' (f a) = (cs.foldlM step a).map f := by
  induction cs generalizing a with
  | nil => rfl
  | cons c cs ih =>
    rw [List.foldlM_cons, List.foldlM_cons, each]
    cases step a c with
    | error e => rfl
    | ok b => exact ih b

namespace Query

variable {r : RowType}

/-- What is done to a query while it is built. Shorthands restrict by what a constructor of restrictions gives, which
can be that it refuses its operands. -/
inductive Step (r : RowType) where
  | restrict (f : Field r) (x : Except Error Restriction)
  | restrictByName (name : String) (x : Restriction)
  | applyFilter (f : Filter)
  | applyFilters (fs : List Filter)
  | negateLatest

/-- A step on the query. -/
def step (q : Query r) : Step r → Except Error (Query r)
  | .restrict f x => x.map (q.restrict f)
  | .restrictByName name x => q.restrictByName name x
  | .applyFilter f => q.applyFilter f
  | .applyFilters fs => q.applyFilters fs
  | .negateLatest => .ok q.negateLatest

/-- The query that steps build, up to the first one that fails. -/
def build (steps : List (Step r)) : Except Error (Query r) := steps.foldlM step .all

/-- The query that restricts what a list does. -/
def ofTrail (l : Trail) : Query r := ⟨l.conditions⟩

end Query

namespace Trail

variable {r : RowType}

/-- Appends the restriction of a filter. -/
def applyFilter (r : RowType) (l : Trail) (f : Filter) : Except Error Trail := do
  let field ← r.field f.field
  return l.push field.column (← f.toRestriction)

/-- A step on the flat list. -/
def step (l : Trail) : Query.Step r → Except Error Trail
  | .restrict f x => x.map (l.push f.column)
  | .restrictByName name x => (r.field name).map fun f => l.push f.column x
  | .applyFilter f => l.applyFilter r f
  | .applyFilters fs => fs.foldlM (applyFilter r) l
  | .negateLatest => .ok l.negateLatest

/-- The list that steps build, up to the first one that fails. -/
def build (steps : List (Query.Step r)) : Except Error Trail := steps.foldlM step []

end Trail

namespace Query

variable {r : RowType}

theorem ofTrail_push (l : Trail) (f : Field r) (x : Restriction) :
    ofTrail (l.push f.column x) = (ofTrail l).restrict f x :=
  congrArg Query.mk (l.conditions_push f.column x)

theorem applyFilter_ofTrail (l : Trail) (f : Filter) :
    (ofTrail l : Query r).applyFilter f = (l.applyFilter r f).map ofTrail := by
  unfold applyFilter Trail.applyFilter
  cases r.field f.field with
  | error e => rfl
  | ok field =>
    show (f.toRestriction >>= fun x => _) = Except.map _ (f.toRestriction >>= fun x => _)
    cases f.toRestriction with
    | error e => rfl
    | ok x => exact congrArg Except.ok (ofTrail_push l field x).symm

/-- A step does to the query what it does to the list. -/
theorem step_ofTrail (l : Trail) (s : Step r) : (ofTrail l).step s = (l.step s).map ofTrail := by
  cases s with
  | restrict f x =>
    cases x with
    | error e => rfl
    | ok x => exact congrArg Except.ok (ofTrail_push l f x).symm
  | restrictByName name x =>
    show (r.field name).map _ = ((r.field name).map _).map _
    cases r.field name with
    | error e => rfl
    | ok f => exact congrArg Except.ok (ofTrail_push l f x).symm
  | applyFilter f => exact applyFilter_ofTrail l f
  | applyFilters fs => exact foldlM_map_eq applyFilter_ofTrail fs l
  | negateLatest => exact congrArg (Except.ok ∘ Query.mk) l.conditions_negateLatest.symm

/-- The query that steps build restricts what the list does that they build. -/
theorem build_eq (steps : List (Step r)) : build steps = (Trail.build steps).map ofTrail :=
  foldlM_map_eq step_ofTrail steps []

theorem eq_ofTrail {steps : List (Step r)} {q : Query r} {l : Trail} (done : build steps = .ok q)
    (listed : Trail.build steps = .ok l) : q = ofTrail l := by
  rw [build_eq, listed] at done
  exact (Except.ok.inj done).symm

theorem built_ofTrail (l : Trail) : (ofTrail l : Query r).Built := by
  induction l using List.reverseRecOn with
  | nil => exact .all
  | append_singleton l a ih =>
    have next : ofTrail (l ++ [a]) = (ofTrail l : Query r).restrict ⟨a.1⟩ a.2 := ofTrail_push l ⟨a.1⟩ a.2
    rw [next]
    exact ih.restrict _ _

theorem built_of_build {steps : List (Step r)} {q : Query r} (done : build steps = .ok q) : q.Built := by
  rw [build_eq] at done
  obtain ⟨l, -, rfl⟩ := ok_of_map done
  exact built_ofTrail l

end Query

/-- A query is the flat list of its restrictions by columns. Steps that restrict a column, apply filters or negate the
latest restriction build a query exactly if they build a list, and fail by the same error otherwise. The query has
the columns of the list, each once and where it comes first, with the restrictions of the column in their order. The
place that it keeps of the latest restriction is that of the last one of the list, and to negate the latest restriction
is to negate the last one of the list. Two queries are equal exactly if the restrictions
of each column are, in whatever order the columns were restricted, and equality is an equivalence if every number in a
document is one, as in the documents that are read. Equal queries are satisfied by the same rows, and both or neither
are predicted to be empty. -/
theorem queries_group_trails {r : RowType} (steps steps' : List (Query.Step r)) :
    (Query.build steps).map (·.conditions.fields) = (Trail.build steps).map Trail.grouped ∧
    (∀ q l, Query.build steps = .ok q → Trail.build steps = .ok l →
      (q.conditions.fields.map (·.1)).Nodup ∧
      (∀ a, l.getLast? = some a → ∃ place number xs, q.conditions.latest = some (place, number) ∧
        q.conditions.fields[place]? = some (a.1, xs) ∧ xs[number]? = some a.2) ∧
      q.negateLatest.conditions.fields = l.negateLatest.grouped ∧
      ∀ q' l', Query.build steps' = .ok q' → Trail.build steps' = .ok l' →
        ((q == q') = true ↔ ∀ column, (l.of column == l'.of column) = true) ∧
        ((q == q') = true → (∀ row, q.holds row = q'.holds row) ∧ q.predictsEmpty = q'.predictsEmpty)) ∧
    Equivalence fun p q : {q : Query r // (∃ steps, Query.build steps = .ok q) ∧ q.IsNumeric} =>
      (p.1 == q.1) = true := by
  refine ⟨?_, ?_, ?_⟩
  · rw [Query.build_eq]
    cases Trail.build steps <;> rfl
  · intro q l done listed
    obtain rfl := Query.eq_ofTrail done listed
    refine ⟨l.nodup_conditions, fun _ => l.exists_latest, congrArg (·.fields) l.conditions_negateLatest.symm, ?_⟩
    intro q' l' done' listed'
    obtain rfl := Query.eq_ofTrail done' listed'
    have left := (Query.built_ofTrail (r := r) l).grouped
    have right := (Query.built_ofTrail (r := r) l').grouped
    have equal := Conditions.beq_iff left right
    simp only [Query.ofTrail, Trail.of_conditions] at equal
    exact ⟨equal, Conditions.answers_congr left right⟩
  · have built (q : {q : Query r // (∃ steps, Query.build steps = .ok q) ∧ q.IsNumeric}) :
        q.1.Built ∧ q.1.IsNumeric := by
      obtain ⟨q, ⟨steps, done⟩, numeric⟩ := q
      exact ⟨Query.built_of_build done, numeric⟩
    exact (Query.equivalence r).comap fun q => ⟨q.1, built q⟩

/-- A restriction is negated whose column was restricted before another one. -/
theorem queries_group_trails_of_interleaved :
    let r : RowType := ⟨"Order", "orders", [⟨"status", "status", true⟩, ⟨"total", "total", false⟩], "total", none, []⟩
    let steps : List (Query.Step r) :=
      [.restrict ⟨"status"⟩ (.ok (.equals (.text "open"))), .restrict ⟨"total"⟩ (Restriction.greater (.int 5)),
        .restrict ⟨"status"⟩ (.ok (.startsWith "o")), .negateLatest]
    let steps' : List (Query.Step r) :=
      [.restrictByName "total" (.of (.greater (.int 5))),
        .applyFilters [⟨"status", .eq, .str "open", false⟩, ⟨"status", .startsWith, .str "o", true⟩]]
    let xs : List Restriction := [.equals (.text "open"), (Restriction.startsWith "o").negate]
    let ys : List Restriction := [.of (.greater (.int 5))]
    let q : Query r := ⟨[("status", xs), ("total", ys)], some (0, 1)⟩
    let q' : Query r := ⟨[("total", ys), ("status", xs)], some (1, 1)⟩
    Query.build steps = .ok q ∧ Query.build steps' = .ok q' ∧ (q == q') = true ∧ ∀ row, q.holds row = q'.holds row := by
  intro r steps steps' xs ys q q'
  have done : Query.build steps = .ok q := rfl
  have done' : Query.build steps' = .ok q' := rfl
  have same : (q == q') = true := by decide +kernel
  have agree := ((queries_group_trails steps steps').2.1 q _ done rfl).2.2.2 q' _ done' rfl
  exact ⟨done, done', same, (agree.2 same).1⟩

end Sift
