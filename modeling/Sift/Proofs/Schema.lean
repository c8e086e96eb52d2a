import Mathlib.Data.List.Nodup
import Sift.Proofs.RowType
import Sift.Schema

/-!
# Registrations

A table belongs to the first valid row type that is registered for it. What is
registered later for a table succeeds only for the same row type and changes nothing,
so the order of registrations matters only if one of them fails.
-/
namespace Sift

namespace Schema

/-- A call to register a row type: its answer, and the schema after it. A call that fails gives no other schema. -/
def call (s : Schema) (r : RowType) : Except Error Unit × Schema :=
  match s.register r with
  | .ok t => (.ok (), t)
  | .error e => (.error e, s)

/-- The schema after calls. -/
def after (s : Schema) (calls : List RowType) : Schema := calls.foldl (fun s r => (s.call r).2) s

/-- The first valid row type for a table. -/
def first (calls : List RowType) (table : String) : Option RowType :=
  calls.find? fun r => r.table == table && r.validate.isOk

/-- Each entry is valid, and no other one has its table. -/
structure Keyed (s : Schema) : Prop where
  tables : (s.rows.map (·.table)).Nodup
  valid : ∀ r ∈ s.rows, r.validate = .ok ()

/-- Row types of one name are the same row type. -/
def NamesIdentify (rows : List RowType) : Prop := ∀ x ∈ rows, ∀ y ∈ rows, x.name = y.name → x = y

/-- Whether every call succeeds on the schema after those before it. -/
def AllSucceed (calls : List RowType) : Prop :=
  ∀ front r, front ++ [r] <+: calls → ((empty.after front).call r).1 = .ok ()

variable {s t : Schema} {r x : RowType} {calls : List RowType}

/-! ## One call -/

theorem get?_append (rows : List RowType) (table : String) :
    get? ⟨rows ++ [r]⟩ table = (get? ⟨rows⟩ table).or (if r.table = table then some r else none) := by
  rw [get?, get?, List.find?_append, List.find?_singleton]
  simp only [beq_iff_eq]

/-- What a registration does: it checks the row type, and takes up one whose table is free. -/
theorem register_cases (s : Schema) (r : RowType) :
    (∃ e, r.validate = .error e ∧ s.register r = .error e) ∨
    r.validate = .ok () ∧
      ((∃ x, s.get? r.table = some x ∧ x.name = r.name ∧ s.register r = .ok s) ∨
        (∃ x, s.get? r.table = some x ∧ x.name ≠ r.name ∧
          s.register r = .error (.identifier (.tableTaken r.table))) ∨
        s.get? r.table = none ∧ s.register r = .ok ⟨s.rows ++ [r]⟩) := by
  rw [register]
  cases checked : r.validate with
  | error e => exact .inl ⟨e, rfl, rfl⟩
  | ok _ =>
    refine .inr ⟨rfl, ?_⟩
    cases held : s.get? r.table with
    | none => exact .inr (.inr ⟨rfl, rfl⟩)
    | some x =>
      by_cases same : x.name = r.name
      · exact .inl ⟨x, rfl, same, if_pos same⟩
      · exact .inr (.inl ⟨x, rfl, same, if_neg same⟩)

/-- What a call answers, and what it leaves. -/
theorem call_cases (s : Schema) (r : RowType) :
    (∃ e, r.validate = .error e ∧ s.call r = (.error e, s)) ∨
    r.validate = .ok () ∧
      ((∃ x, s.get? r.table = some x ∧ x.name = r.name ∧ s.call r = (.ok (), s)) ∨
        (∃ x, s.get? r.table = some x ∧ x.name ≠ r.name ∧
          s.call r = (.error (.identifier (.tableTaken r.table)), s)) ∨
        s.get? r.table = none ∧ s.call r = (.ok (), ⟨s.rows ++ [r]⟩)) := by
  rcases s.register_cases r with ⟨e, invalid, done⟩ | ⟨valid, ⟨x, held, same, done⟩ | ⟨x, held, other, done⟩ | ⟨free, done⟩⟩
  · exact .inl ⟨e, invalid, by rw [call, done]⟩
  · exact .inr ⟨valid, .inl ⟨x, held, same, by rw [call, done]⟩⟩
  · exact .inr ⟨valid, .inr (.inl ⟨x, held, other, by rw [call, done]⟩)⟩
  · exact .inr ⟨valid, .inr (.inr ⟨free, by rw [call, done]⟩)⟩

/-- The answer of a call, by what holds the table before it. -/
theorem call_ok_iff :
    (s.call r).1 = .ok () ↔ r.validate = .ok () ∧ ∀ x, s.get? r.table = some x → x.name = r.name := by
  rcases s.call_cases r with ⟨e, invalid, done⟩ | ⟨valid, ⟨x, held, same, done⟩ | ⟨x, held, other, done⟩ | ⟨free, done⟩⟩
  · simp [done, invalid]
  · simp [done, valid, held, same]
  · simp [done, held, other]
  · simp [done, valid, free]

/-- A call that fails leaves the schema as it is. -/
theorem call_of_error {e : Error} (failed : (s.call r).1 = .error e) : s.call r = (.error e, s) := by
  rw [call] at failed ⊢
  split at failed
  · cases failed
  · cases failed
    rfl

theorem call_fails_iff :
    (∃ e, (s.call r).1 = .error e) ↔ r.validate ≠ .ok () ∨ ∃ x, s.get? r.table = some x ∧ x.name ≠ r.name := by
  have fails : (∃ e, (s.call r).1 = .error e) ↔ (s.call r).1 ≠ .ok () := by
    cases (s.call r).1 with
    | error e => simp
    | ok _ => simp
  rw [fails, ne_eq, call_ok_iff, not_and_or]
  push Not
  rfl

/-! ## The first row type of a table -/

theorem first_append (front back : List RowType) (table : String) :
    first (front ++ back) table = (first front table).or (first back table) := List.find?_append

theorem first_singleton_of_valid (valid : r.validate = .ok ()) (table : String) :
    first [r] table = if r.table = table then some r else none := by
  simp [first, List.find?_singleton, valid, Except.isOk, Except.toBool]

theorem first_singleton_of_invalid {e : Error} (invalid : r.validate = .error e) (table : String) :
    first [r] table = none := by
  simp [first, invalid, Except.isOk, Except.toBool]

theorem of_first {table : String} (found : first calls table = some x) :
    x ∈ calls ∧ x.table = table ∧ x.validate = .ok () := by
  have passed := List.find?_some found
  rw [Bool.and_eq_true, beq_iff_eq] at passed
  exact ⟨List.mem_of_find?_eq_some found, passed.1, ok_of_isOk passed.2⟩

theorem exists_first {table : String} (member : r ∈ calls) (at_table : r.table = table) (valid : r.validate = .ok ()) :
    ∃ x, first calls table = some x := by
  rw [← Option.isSome_iff_exists, first, List.find?_isSome]
  exact ⟨r, member, by simp [at_table, valid, Except.isOk, Except.toBool]⟩

/-- A call takes up a valid row type for a table that is free, and changes the row type of no other table. -/
theorem get?_call (s : Schema) (r : RowType) (table : String) :
    (s.call r).2.get? table = (s.get? table).or (first [r] table) := by
  have kept {x : RowType} (valid : r.validate = .ok ()) (held : s.get? r.table = some x) :
      s.get? table = (s.get? table).or (first [r] table) := by
    rw [first_singleton_of_valid valid]
    by_cases same : r.table = table
    · subst same
      rw [held, Option.some_or]
    · rw [if_neg same, Option.or_none]
  rcases s.call_cases r with ⟨e, invalid, done⟩ | ⟨valid, ⟨x, held, -, done⟩ | ⟨x, held, -, done⟩ | ⟨-, done⟩⟩
  · rw [done, first_singleton_of_invalid invalid, Option.or_none]
  · rw [done, ← kept valid held]
  · rw [done, ← kept valid held]
  · rw [done, first_singleton_of_valid valid]
    exact get?_append s.rows table

/-- A table keeps its row type, else it gets the first valid one. -/
theorem get?_after (s : Schema) (calls : List RowType) (table : String) :
    (s.after calls).get? table = (s.get? table).or (first calls table) := by
  induction calls generalizing s with
  | nil => exact (Option.or_none).symm
  | cons r calls ih =>
    calc
      (s.after (r :: calls)).get? table = ((s.call r).2.after calls).get? table := rfl
      _ = ((s.get? table).or (first [r] table)).or (first calls table) := by rw [ih, get?_call]
      _ = (s.get? table).or (first (r :: calls) table) := by
        rw [Option.or_assoc, ← first_append, List.singleton_append]

theorem get?_empty_after (calls : List RowType) (table : String) :
    (empty.after calls).get? table = first calls table := get?_after empty calls table

/-! ## Entries -/

theorem table_of_get? {table : String} (found : s.get? table = some x) : x ∈ s.rows ∧ x.table = table := by
  have named := List.find?_some found
  exact ⟨List.mem_of_find?_eq_some found, beq_iff_eq.mp named⟩

theorem Keyed.empty : Keyed empty := ⟨List.nodup_nil, fun _ member => absurd member List.not_mem_nil⟩

theorem Keyed.call (keyed : s.Keyed) (r : RowType) : (s.call r).2.Keyed := by
  rcases s.call_cases r with ⟨e, -, done⟩ | ⟨valid, ⟨x, -, -, done⟩ | ⟨x, -, -, done⟩ | ⟨free, done⟩⟩
  · rwa [done]
  · rwa [done]
  · rwa [done]
  · rw [done]
    rw [get?, List.find?_eq_none] at free
    constructor
    · have fresh : r.table ∉ s.rows.map (·.table) := by simpa using free
      rw [List.map_append, List.map_singleton]
      exact keyed.tables.append (List.nodup_singleton _) (by simpa using fresh)
    · intro x member
      rcases List.mem_append.mp member with earlier | last
      · exact keyed.valid x earlier
      · rwa [List.mem_singleton.mp last]

theorem Keyed.after (keyed : s.Keyed) (calls : List RowType) : (s.after calls).Keyed := by
  induction calls generalizing s with
  | nil => exact keyed
  | cons r calls ih => exact ih (keyed.call r)

/-- An entry is found by its table. -/
theorem Keyed.get?_iff (keyed : s.Keyed) {table : String} : s.get? table = some x ↔ x ∈ s.rows ∧ x.table = table := by
  constructor
  · exact table_of_get?
  · rintro ⟨member, rfl⟩
    cases found : s.get? x.table with
    | none =>
      rw [get?, List.find?_eq_none] at found
      exact absurd (beq_self_eq_true _) (found x member)
    | some y =>
      obtain ⟨held, same⟩ := table_of_get? found
      rw [List.inj_on_of_nodup_map keyed.tables held member same]

/-- Registering an entry again changes nothing. -/
theorem Keyed.call_of_mem (keyed : s.Keyed) (member : r ∈ s.rows) : s.call r = (.ok (), s) := by
  have valid := keyed.valid r member
  have held : s.get? r.table = some r := keyed.get?_iff.mpr ⟨member, rfl⟩
  rw [Schema.call, register, valid]
  simp only [bind, Except.bind, held, if_pos]
  rfl

/-! ## Runs without a failure -/

/-- If every call succeeds, each row type has the name of the one that its table belongs to. -/
theorem name_of_allSucceed (all : AllSucceed calls) (member : r ∈ calls) :
    r.validate = .ok () ∧ ∃ x, first calls r.table = some x ∧ x.name = r.name := by
  obtain ⟨front, back, rfl⟩ := List.append_of_mem member
  obtain ⟨valid, same⟩ := call_ok_iff.mp (all front r ⟨back, by simp⟩)
  refine ⟨valid, ?_⟩
  rw [first_append]
  cases before : first front r.table with
  | none =>
    refine ⟨r, ?_, rfl⟩
    rw [Option.none_or, ← List.singleton_append, first_append, first_singleton_of_valid valid, if_pos rfl, Option.some_or]
  | some x => exact ⟨x, rfl, same x (by rw [get?_empty_after, before])⟩

/-- Every call succeeds exactly when all row types are valid and those of a table have one name. -/
theorem allSucceed_iff :
    AllSucceed calls ↔ (∀ r ∈ calls, r.validate = .ok ()) ∧
      ∀ x ∈ calls, ∀ y ∈ calls, x.table = y.table → x.name = y.name := by
  constructor
  · intro all
    refine ⟨fun r member => (name_of_allSucceed all member).1, fun x left y right same => ?_⟩
    obtain ⟨-, z, found, named⟩ := name_of_allSucceed all left
    obtain ⟨-, w, again, named'⟩ := name_of_allSucceed all right
    rw [same, again] at found
    cases found
    rw [← named, named']
  · rintro ⟨valid, agree⟩ front r early
    have part := early.subset
    refine call_ok_iff.mpr ⟨valid r (part (by simp)), fun x held => ?_⟩
    rw [get?_empty_after] at held
    obtain ⟨member, same, -⟩ := of_first held
    exact agree x (part (List.mem_append_left _ member)) r (part (by simp)) same

theorem allSucceed_append :
    AllSucceed (calls ++ [r]) ↔ AllSucceed calls ∧ ((empty.after calls).call r).1 = .ok () := by
  constructor
  · intro all
    exact ⟨fun front x early => all front x (early.trans (List.prefix_append calls [r])), all calls r List.prefix_rfl⟩
  · rintro ⟨all, last⟩ front x early
    rcases List.prefix_concat_iff.mp early with whole | early
    · obtain ⟨rfl, same⟩ := List.append_inj' whole rfl
      cases same
      exact last
    · exact all front x early

theorem after_append (s : Schema) (calls : List RowType) (r : RowType) :
    s.after (calls ++ [r]) = ((s.after calls).call r).2 := by
  rw [after, List.foldl_append]
  rfl

theorem register_eq_ok_iff : s.register r = .ok t ↔ (s.call r).1 = .ok () ∧ (s.call r).2 = t := by
  rw [call]
  cases s.register r with
  | error e => simp
  | ok u => simp

/-- Row types are registered together exactly when every call succeeds. -/
theorem ofRows_eq_ok_iff : ofRows calls = .ok s ↔ AllSucceed calls ∧ empty.after calls = s := by
  have start : AllSucceed [] := fun front r early => absurd (List.prefix_nil.mp early) (by simp)
  have each (front : List RowType) (r : RowType) (all : AllSucceed front) (t : Schema) :
      (empty.after front).register r = .ok t ↔ AllSucceed (front ++ [r]) ∧ empty.after (front ++ [r]) = t := by
    rw [register_eq_ok_iff, allSucceed_append, after_append, and_iff_right all]
  exact foldlM_eq_ok_iff start (fun front r all => (allSucceed_append.mp all).1) each calls s

theorem AllSucceed.of_perm {others : List RowType} (all : AllSucceed calls) (perm : others.Perm calls) :
    AllSucceed others := by
  obtain ⟨valid, agree⟩ := allSucceed_iff.mp all
  exact allSucceed_iff.mpr ⟨fun r member => valid r (perm.subset member),
    fun x left y right => agree x (perm.subset left) y (perm.subset right)⟩

/-- Where every call succeeds, their order does not matter for the name of the row type of a table. -/
theorem AllSucceed.names_of_perm {others : List RowType} (all : AllSucceed calls) (perm : others.Perm calls)
    (table : String) : (first others table).map (·.name) = (first calls table).map (·.name) := by
  obtain ⟨-, agree⟩ := allSucceed_iff.mp all
  cases left : first others table with
  | none =>
    cases right : first calls table with
    | none => rfl
    | some y =>
      obtain ⟨member, same, valid⟩ := of_first right
      obtain ⟨x, found⟩ := exists_first (perm.symm.subset member) same valid
      rw [left] at found
      cases found
  | some x =>
    obtain ⟨member, same, valid⟩ := of_first left
    obtain ⟨y, right⟩ := exists_first (perm.subset member) same valid
    obtain ⟨other, same', -⟩ := of_first right
    rw [right]
    exact congrArg some (agree x (perm.subset member) y other (same.trans same'.symm))

theorem AllSucceed.first_of_perm {others : List RowType} (all : AllSucceed calls) (identify : NamesIdentify calls)
    (perm : others.Perm calls) (table : String) : first others table = first calls table := by
  have names := all.names_of_perm perm table
  cases left : first others table with
  | none =>
    rw [left, Option.map_none, eq_comm, Option.map_eq_none_iff] at names
    exact names.symm
  | some x =>
    rw [left, Option.map_some, eq_comm, Option.map_eq_some_iff] at names
    obtain ⟨y, right, same⟩ := names
    rw [right, identify y (of_first right).1 x (perm.subset (of_first left).1) same]

/-! ## References -/

theorem hasTable_iff {table : String} : s.hasTable table = true ↔ ∃ y ∈ s.rows, y.table = table := by
  rw [hasTable, get?, List.find?_isSome]
  simp only [beq_iff_eq]

theorem checkReferences_iff :
    s.checkReferences = .ok () ↔ ∀ x ∈ s.rows, ∀ f ∈ x.references, ∃ y ∈ s.rows, y.table = f.target := by
  rw [checkReferences, forM_ok_iff]
  refine forall₂_congr fun x _ => ?_
  rw [forM_ok_iff]
  refine forall₂_congr fun f _ => ?_
  rw [← hasTable_iff]
  cases s.hasTable f.target <;> simp

/-- The schemas of two runs with the same row type for each table have the same entries. -/
theorem Keyed.rows_perm (left : s.Keyed) (right : t.Keyed) (same : ∀ table, s.get? table = t.get? table) :
    s.rows.Perm t.rows := by
  refine (List.perm_ext_iff_of_nodup (.of_map _ left.tables) (.of_map _ right.tables)).mpr fun x => ?_
  have here : x ∈ s.rows ↔ s.get? x.table = some x := by simp [left.get?_iff]
  have there : x ∈ t.rows ↔ t.get? x.table = some x := by simp [right.get?_iff]
  rw [here, there, same]

theorem checkReferences_of_perm (perm : s.rows.Perm t.rows) :
    s.checkReferences = .ok () ↔ t.checkReferences = .ok () := by
  simp only [checkReferences_iff, perm.mem_iff]

/-- What calls to register row types leave, in any order and with failures between them: the first valid row type
of each table. A call fails if its row type is invalid or its table belongs to another one, and then changes
nothing. Where none fails, their order does not matter. -/
theorem registrations_keep_first (calls : List RowType) :
    (empty.after calls).Keyed ∧
    (∀ table x, (empty.after calls).get? table = some x → x.table = table) ∧
    (∀ table, (empty.after calls).get? table = calls.find? fun r => r.table == table && r.validate.isOk) ∧
    (∀ r,
      ((∃ e, ((empty.after calls).call r).1 = .error e) ↔
        r.validate ≠ .ok () ∨ ∃ x, (empty.after calls).get? r.table = some x ∧ x.name ≠ r.name) ∧
      (((empty.after calls).call r).1 ≠ .ok () → ((empty.after calls).call r).2 = empty.after calls) ∧
      (r ∈ (empty.after calls).rows → (empty.after calls).call r = (.ok (), empty.after calls))) ∧
    ((empty.after calls).checkReferences = .ok () ↔
      ∀ x ∈ (empty.after calls).rows, ∀ f ∈ x.references, ∃ y ∈ (empty.after calls).rows, y.table = f.target) ∧
    (∀ s, ofRows calls = .ok s ↔ AllSucceed calls ∧ empty.after calls = s) ∧
    (AllSucceed calls → ∀ others : List RowType, others.Perm calls →
      AllSucceed others ∧
      (∀ table, ((empty.after others).get? table).map (·.name) = ((empty.after calls).get? table).map (·.name)) ∧
      (NamesIdentify calls →
        (∀ table, (empty.after others).get? table = (empty.after calls).get? table) ∧
        (empty.after others).rows.Perm (empty.after calls).rows ∧
        ((empty.after others).checkReferences = .ok () ↔ (empty.after calls).checkReferences = .ok ()))) := by
  have keyed (run : List RowType) : (empty.after run).Keyed := Keyed.empty.after run
  refine ⟨keyed calls, fun table x found => (table_of_get? found).2, get?_empty_after calls, fun r => ?_,
    checkReferences_iff, fun _ => ofRows_eq_ok_iff, fun all others perm => ?_⟩
  · refine ⟨call_fails_iff, fun failed => ?_, (keyed calls).call_of_mem⟩
    cases answer : ((empty.after calls).call r).1 with
    | ok _ => exact absurd answer failed
    | error e => rw [call_of_error answer]
  · simp only [get?_empty_after]
    refine ⟨all.of_perm perm, all.names_of_perm perm, fun identify => ?_⟩
    have same := all.first_of_perm identify perm
    have entries : (empty.after others).rows.Perm (empty.after calls).rows := by
      refine (keyed others).rows_perm (keyed calls) fun table => ?_
      rw [get?_empty_after, get?_empty_after, same]
    exact ⟨same, entries, checkReferences_of_perm entries⟩

/-- Orders hold their table after a draft without columns and against tickets. Lines, which refer to them, may as well
be registered before them. -/
theorem registrations_keep_first_of_orders :
    let id : Column := ⟨"id", "id", false⟩
    let order : RowType := ⟨"Order", "orders", [id], "id", none, []⟩
    let line : RowType := ⟨"Line", "lines", [id, ⟨"order", "order_id", false⟩], "id", none, [⟨"order_id", "orders"⟩]⟩
    let draft : RowType := { order with name := "Draft", columns := [] }
    let ticket : RowType := { order with name := "Ticket" }
    let s := empty.after [draft, order, ticket]
    let t := empty.after [line, order]
    s.get? "orders" = some order ∧ (∃ e, (s.call ticket).1 = .error e) ∧ (s.call ticket).2 = s ∧
      s.call order = (.ok (), s) ∧ AllSucceed [order, line] ∧ NamesIdentify [order, line] ∧
      [line, order].Perm [order, line] ∧ AllSucceed [line, order] ∧
      t.get? "orders" = (empty.after [order, line]).get? "orders" ∧ t.checkReferences = .ok () := by
  intro id order line draft ticket s t
  have valid : ∀ r ∈ [order, line], r.validate = .ok () := by
    rw [List.forall_mem_cons, List.forall_mem_singleton]
    exact ⟨ok_of_isOk (by decide +kernel), ok_of_isOk (by decide +kernel)⟩
  have all : AllSucceed [order, line] := allSucceed_iff.mpr ⟨valid, by decide⟩
  have identify : NamesIdentify [order, line] := by
    unfold NamesIdentify
    decide
  have perm : [line, order].Perm [order, line] := .swap order line []
  obtain ⟨-, -, held, step, -⟩ := registrations_keep_first [draft, order, ticket]
  obtain ⟨fails, kept, -⟩ := step ticket
  obtain ⟨-, -, again⟩ := step order
  have owned : s.get? "orders" = some order := by
    rw [held]
    decide +kernel
  have failed : ∃ e, (s.call ticket).1 = .error e := fails.mpr (.inr ⟨order, owned, by decide⟩)
  obtain ⟨-, -, -, -, -, -, orderless⟩ := registrations_keep_first [order, line]
  obtain ⟨all', -, same⟩ := orderless all [line, order] perm
  obtain ⟨found, -, references⟩ := same identify
  refine ⟨owned, failed, kept ?_, again (table_of_get? owned).1, all, identify, perm, all', found _,
    references.mpr (ok_of_isOk (by decide +kernel))⟩
  obtain ⟨e, failed⟩ := failed
  rw [failed]
  nofun

end Schema
end Sift
