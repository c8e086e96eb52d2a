import Sift.Declaration.Derived
import Sift.Proofs.RowType
import Mathlib.Data.List.Nodup

/-!
# What row types can be derived from

A declaration has a row type exactly when it says which table and which columns it
stands for. The options and the fields are read one by one; what was read up to some
place is told by the options and the fields up to there, and not by the order of the
checks. The row type that is derived passes the checks that are made when it is used.
-/
namespace Sift

/-! ## Names -/

/-- A text that is a plain identifier but for the blanks around it. -/
def NamesPlain (s : String) : Prop := Identifier.isPlain (trimBlanks s) = true

instance (s : String) : Decidable (NamesPlain s) := inferInstanceAs (Decidable (_ = true))

/-- A name is read exactly if it is plain but for the blanks around it, which are left out. -/
theorem NameUse.read_eq_ok_iff {use : NameUse} {s name : String} :
    use.read s = .ok name ↔ NamesPlain s ∧ trimBlanks s = name := by
  by_cases plain : Identifier.isPlain (trimBlanks s) = true
  · have read : use.read s = .ok (trimBlanks s) := by
      rw [NameUse.read, if_neg (Identifier.isEmpty_of_isPlain plain), if_pos plain]
    rw [read, Except.ok.injEq]
    exact ⟨fun same => ⟨plain, same⟩, And.right⟩
  · have refused : ∃ e, use.read s = .error e := by
      rw [NameUse.read, if_neg plain]
      split <;> exact ⟨_, rfl⟩
    obtain ⟨e, refused⟩ := refused
    rw [refused]
    exact ⟨nofun, fun read => absurd read.1 plain⟩

/-! ## Options -/

/-- The options that a field may have: marks that stand alone, and names that are texts. -/
def RowOption.Fits (x : RowOption) : Prop :=
  (x.name = "id" ∨ x.name = "modified_at") ∧ x.value = none ∨
    (x.name = "column" ∨ x.name = "references") ∧ ∃ s, x.value = some (.text s)

def RowOption.text? (x : RowOption) : Option String :=
  match x.value with
  | some (.text s) => some s
  | _ => none

namespace FieldOptions

/-- The text that the last option of a name has. -/
def lastText? (name : String) (xs : List RowOption) : Option String :=
  (xs.filter (·.name == name)).getLast?.bind RowOption.text?

/-- What options say together. -/
def given (xs : List RowOption) : FieldOptions :=
  ⟨xs.any (·.name == "id"), xs.any (·.name == "modified_at"), lastText? "column" xs, lastText? "references" xs⟩

theorem lastText_concat (name : String) (xs : List RowOption) (x : RowOption) :
    lastText? name (xs ++ [x]) = if x.name = name then x.text? else lastText? name xs := by
  by_cases named : x.name = name
  · simp [lastText?, named]
  · simp [lastText?, named]

theorem error_of_unknown {o : FieldOptions} {x : RowOption} (id : x.name ≠ "id") (modifiedAt : x.name ≠ "modified_at")
    (column : x.name ≠ "column") (references : x.name ≠ "references") : ∃ e, o.add x = .error e := by
  unfold add
  by_cases reserved : TypeSyntax.reservedWords.contains x.name = true
  · rw [if_pos reserved]
    exact ⟨_, rfl⟩
  · rw [if_neg reserved]
    split
    case h_1 named => exact absurd named id
    case h_2 named => exact absurd named modifiedAt
    case h_3 named => exact absurd named column
    case h_4 named => exact absurd named references
    case h_5 => exact ⟨_, rfl⟩

/-- An option is added to what the options before it say exactly if it fits. -/
theorem add_eq_ok_iff {xs : List RowOption} {x : RowOption} {o : FieldOptions} :
    (given xs).add x = .ok o ↔ x.Fits ∧ given (xs ++ [x]) = o := by
  obtain ⟨name, value⟩ := x
  simp only [given, lastText_concat, List.any_append, List.any_cons, List.any_nil, Bool.or_false]
  by_cases id : name = "id"
  · subst id
    have free : "id" ∉ TypeSyntax.reservedWords := by decide
    cases value <;> simp [add, free, flag, RowOption.Fits, bind, Except.bind, pure, Except.pure]
  by_cases modifiedAt : name = "modified_at"
  · subst modifiedAt
    have free : "modified_at" ∉ TypeSyntax.reservedWords := by decide
    cases value <;> simp [add, free, flag, RowOption.Fits, bind, Except.bind, pure, Except.pure]
  by_cases column : name = "column"
  · subst column
    have free : "column" ∉ TypeSyntax.reservedWords := by decide
    rcases value with _ | s | _ <;>
      simp [add, free, text, RowOption.Fits, RowOption.text?, bind, Except.bind, pure, Except.pure]
  by_cases references : name = "references"
  · subst references
    have free : "references" ∉ TypeSyntax.reservedWords := by decide
    rcases value with _ | s | _ <;>
      simp [add, free, text, RowOption.Fits, RowOption.text?, bind, Except.bind, pure, Except.pure]
  obtain ⟨e, refused⟩ := @error_of_unknown ⟨_, _, _, _⟩ ⟨name, value⟩ id modifiedAt column references
  rw [refused]
  simp [RowOption.Fits, id, modifiedAt, column, references]

/-- Options are read exactly when each of them fits. -/
theorem foldlM_add_eq_ok_iff {xs : List RowOption} {o : FieldOptions} :
    xs.foldlM add .none = .ok o ↔ (∀ x ∈ xs, x.Fits) ∧ given xs = o := by
  have start : FieldOptions.none = given [] := rfl
  rw [start]
  refine @foldlM_eq_ok_iff _ _ _ add given (fun xs => ∀ x ∈ xs, x.Fits) ?_ ?_ ?_ xs o
  · exact fun _ member => nomatch member
  · exact fun xs x fits y member => fits y (List.mem_append_left _ member)
  · intro xs x fits s
    rw [add_eq_ok_iff, List.forall_mem_append, List.forall_mem_singleton]
    exact and_congr_left fun _ => ⟨fun last => ⟨fits, last⟩, And.right⟩

end FieldOptions

/-! ## Fields -/

namespace DeclaredField

def isMarked (f : DeclaredField) (mark : String) : Bool := f.options.flatten.any (·.name == mark)

/-- The text of the column: of the options that name one the last, else the name of the field. -/
def columnText (f : DeclaredField) : String := (FieldOptions.lastText? "column" f.options.flatten).getD f.plainName

/-- The text of the table that the field refers to: of the options that name one the last. -/
def targetText? (f : DeclaredField) : Option String := FieldOptions.lastText? "references" f.options.flatten

def columnName (f : DeclaredField) : String := trimBlanks f.columnText

def target? (f : DeclaredField) : Option String := f.targetText?.map trimBlanks

/-- A field whose options fit and name a column and, if any, a table. -/
structure Readable (f : DeclaredField) : Prop where
  options : ∀ x ∈ f.options.flatten, x.Fits
  column : NamesPlain f.columnText
  target : ∀ s, f.targetText? = some s → NamesPlain s

/-- Two fields of one record: they have different columns, and share no mark. -/
structure Apart (f g : DeclaredField) : Prop where
  column : f.columnName ≠ g.columnName
  id : ¬ (f.isMarked "id" = true ∧ g.isMarked "id" = true)
  modifiedAt : ¬ (f.isMarked "modified_at" = true ∧ g.isMarked "modified_at" = true)

theorem readOptions_eq_ok_iff {f : DeclaredField} {o : FieldOptions} :
    f.readOptions = .ok o ↔ (∀ x ∈ f.options.flatten, x.Fits) ∧ FieldOptions.given f.options.flatten = o :=
  FieldOptions.foldlM_add_eq_ok_iff

theorem column_eq_ok_iff {f : DeclaredField} {column : String} :
    f.column (FieldOptions.given f.options.flatten) = .ok column ↔ NamesPlain f.columnText ∧ f.columnName = column :=
  NameUse.read_eq_ok_iff

end DeclaredField

open DeclaredField

namespace DeclaredColumns

/-- Fields that may stand in one record. -/
structure Admitted (fs : List DeclaredField) : Prop where
  readable : ∀ f ∈ fs, f.Readable
  apart : fs.Pairwise Apart

/-- The column of the field with a mark. -/
def marked? (mark : String) (fs : List DeclaredField) : Option String :=
  (fs.find? (·.isMarked mark)).map columnName

/-- What fields say together. -/
def said (fs : List DeclaredField) : DeclaredColumns where
  columns := fs.map fun f => ⟨f.plainName, f.columnName, TypeSyntax.isOptional f.type⟩
  id := marked? "id" fs
  modifiedAt := marked? "modified_at" fs
  references := fs.flatMap fun f => f.target?.toList.map fun t => ⟨f.columnName, t⟩

theorem marked_concat (mark : String) (fs : List DeclaredField) (f : DeclaredField) :
    marked? mark (fs ++ [f]) = (marked? mark fs).or (if f.isMarked mark then some f.columnName else Option.none) := by
  rw [marked?, marked?, List.find?_append, Option.map_or, List.find?_singleton]
  split <;> rfl

theorem marked_eq_none_iff {mark : String} {fs : List DeclaredField} :
    marked? mark fs = Option.none ↔ ∀ g ∈ fs, ¬ g.isMarked mark = true := by
  rw [marked?, Option.map_eq_none_iff, List.find?_eq_none]

/-- A mark is taken over exactly if no field has it already. -/
theorem role_eq_ok_iff {fs : List DeclaredField} {f : DeclaredField} {mark : String} {error : DeclarationError}
    {r : Option String} :
    role (marked? mark fs) (f.isMarked mark) f.columnName error = .ok r ↔
      (∀ g ∈ fs, ¬ (g.isMarked mark = true ∧ f.isMarked mark = true)) ∧ marked? mark (fs ++ [f]) = r := by
  rw [role, marked_concat]
  by_cases marked : f.isMarked mark = true
  · cases before : marked? mark fs with
    | none =>
      have free := marked_eq_none_iff.mp before
      simp only [marked]
      constructor
      · intro done
        exact ⟨fun g member both => free g member both.1, Except.ok.inj done⟩
      · rintro ⟨-, rfl⟩
        rfl
    | some column =>
      have taken : ¬ ∀ g ∈ fs, ¬ g.isMarked mark = true := by
        rw [← marked_eq_none_iff, before]
        exact nofun
      constructor
      · intro done
        simp [marked] at done
      · rintro ⟨free, -⟩
        exact absurd (fun g member both => free g member ⟨both, marked⟩) taken
  · simp [marked]

theorem target_eq_ok_iff {f : DeclaredField} {r : Option String} :
    f.targetText?.mapM NameUse.references.read = .ok r ↔
      (∀ s, f.targetText? = some s → NamesPlain s) ∧ f.target? = r := by
  rw [target?]
  cases f.targetText? with
  | none => simp [pure, Except.pure]
  | some s =>
    rw [Option.mapM_some]
    constructor
    · intro done
      obtain ⟨t, read, rfl⟩ := ok_of_map done
      obtain ⟨plain, rfl⟩ := NameUse.read_eq_ok_iff.mp read
      exact ⟨fun _ same => Option.some.inj same ▸ plain, rfl⟩
    · rintro ⟨plain, rfl⟩
      rw [NameUse.read_eq_ok_iff.mpr ⟨plain s rfl, rfl⟩]
      rfl

theorem any_columns_iff {fs : List DeclaredField} {column : String} :
    ((said fs).columns.any fun c => c.name == column) = true ↔ ∃ g ∈ fs, g.columnName = column := by
  simp [said]

theorem said_concat (fs : List DeclaredField) (f : DeclaredField) :
    said (fs ++ [f]) = ⟨(said fs).columns ++ [⟨f.plainName, f.columnName, TypeSyntax.isOptional f.type⟩],
      marked? "id" (fs ++ [f]), marked? "modified_at" (fs ++ [f]),
      (said fs).references ++ f.target?.toList.map fun t => ⟨f.columnName, t⟩⟩ := by
  simp [said]

/-- A field is added to what the fields before it say exactly if it is readable and apart from them. -/
theorem add_eq_ok_iff {fs : List DeclaredField} {f : DeclaredField} {c : DeclaredColumns} :
    (said fs).add f = .ok c ↔ (f.Readable ∧ ∀ g ∈ fs, g.Apart f) ∧ said (fs ++ [f]) = c := by
  rw [add]
  constructor
  · intro done
    obtain ⟨o, options, done⟩ := ok_of_bind done
    obtain ⟨fits, rfl⟩ := readOptions_eq_ok_iff.mp options
    obtain ⟨column, named, done⟩ := ok_of_bind done
    obtain ⟨plain, rfl⟩ := column_eq_ok_iff.mp named
    obtain ⟨fresh, done⟩ := ok_of_guard done
    obtain ⟨id, one, done⟩ := ok_of_bind done
    obtain ⟨ids, rfl⟩ := role_eq_ok_iff.mp one
    obtain ⟨modifiedAt, one, done⟩ := ok_of_bind done
    obtain ⟨modifiedAts, rfl⟩ := role_eq_ok_iff.mp one
    obtain ⟨target, read, done⟩ := ok_of_bind done
    obtain ⟨targets, rfl⟩ := target_eq_ok_iff.mp read
    refine ⟨⟨⟨fits, plain, targets⟩, fun g member => ⟨?_, ids g member, modifiedAts g member⟩⟩, ?_⟩
    · exact fun same => fresh (any_columns_iff.mpr ⟨g, member, same⟩)
    · rw [said_concat]
      exact Except.ok.inj done
  · rintro ⟨⟨readable, apart⟩, rfl⟩
    have options := readOptions_eq_ok_iff.mpr ⟨readable.options, rfl⟩
    have named := column_eq_ok_iff.mpr ⟨readable.column, rfl⟩
    have fresh : ¬ ((said fs).columns.any fun c => c.name == f.columnName) = true := by
      rw [any_columns_iff]
      rintro ⟨g, member, same⟩
      exact (apart g member).column same
    have id : role (said fs).id (FieldOptions.given f.options.flatten).isId f.columnName .twoIds = .ok _ :=
      role_eq_ok_iff.mpr ⟨fun g member => (apart g member).id, rfl⟩
    have modifiedAt : role (said fs).modifiedAt (FieldOptions.given f.options.flatten).isModifiedAt f.columnName
        .twoModifiedAt = .ok _ :=
      role_eq_ok_iff.mpr ⟨fun g member => (apart g member).modifiedAt, rfl⟩
    have target : (FieldOptions.given f.options.flatten).references.mapM NameUse.references.read = .ok f.target? :=
      target_eq_ok_iff.mpr ⟨readable.target, rfl⟩
    simp only [options, named, fresh, id, modifiedAt, target, said_concat, bind, Except.bind, pure, Except.pure]
    rfl

theorem admitted_concat {fs : List DeclaredField} {f : DeclaredField} :
    Admitted (fs ++ [f]) ↔ Admitted fs ∧ f.Readable ∧ ∀ g ∈ fs, g.Apart f := by
  constructor
  · rintro ⟨readable, apart⟩
    rw [List.forall_mem_append, List.forall_mem_singleton] at readable
    obtain ⟨earlier, -, last⟩ := List.pairwise_append.mp apart
    exact ⟨⟨readable.1, earlier⟩, readable.2, fun g member => last g member f List.mem_cons_self⟩
  · rintro ⟨⟨readable, earlier⟩, last, apart⟩
    refine ⟨?_, List.pairwise_append.mpr ⟨earlier, List.pairwise_singleton .., ?_⟩⟩
    · rw [List.forall_mem_append, List.forall_mem_singleton]
      exact ⟨readable, last⟩
    · intro g member other same
      rw [List.mem_singleton.mp same]
      exact apart g member

/-- Fields are read exactly if each is readable and they are apart from each other. -/
theorem foldlM_add_eq_ok_iff {fs : List DeclaredField} {c : DeclaredColumns} :
    fs.foldlM add .none = .ok c ↔ Admitted fs ∧ said fs = c := by
  refine @foldlM_eq_ok_iff _ _ _ add said Admitted ?_ ?_ ?_ fs c
  · exact ⟨fun _ member => (nomatch member), .nil⟩
  · exact fun fs f admitted => (admitted_concat.mp admitted).1
  · intro fs f admitted c
    rw [add_eq_ok_iff, admitted_concat]
    exact and_congr_left fun _ => ⟨fun last => ⟨admitted, last⟩, And.right⟩

end DeclaredColumns

/-! ## Declarations -/

namespace Declaration

open DeclaredColumns

theorem table_eq_ok_iff {d : Declaration} {t : String} :
    d.table = .ok t ↔
      ∃ s more, d.options = [⟨"table", some (.text s)⟩] :: more ∧ NamesPlain s ∧ trimBlanks s = t := by
  rw [table]
  split
  case h_1 none => simp [none]
  case h_2 empty => simp [empty]
  case h_3 x others more given =>
    rw [given]
    constructor
    · intro done
      replace done := (ok_of_guard done).2
      split at done
      case h_2 => cases done
      case h_1 v value =>
      obtain ⟨alone, rest⟩ := ok_of_guard done
      clear done
      obtain ⟨named, last⟩ := ok_of_guard rest
      clear rest
      cases v with
      | other => cases last
      | text s =>
        obtain ⟨name, _⟩ := x
        obtain rfl : others = [] := by simpa using alone
        obtain rfl : name = "table" := by simpa using named
        obtain rfl : _ = some (OptionValue.text s) := value
        exact ⟨s, more, rfl, NameUse.read_eq_ok_iff.mp last⟩
    · rintro ⟨s, _, same, plain, rfl⟩
      obtain ⟨⟨rfl, rfl⟩, rfl⟩ : (x = ⟨"table", some (.text s)⟩ ∧ others = []) ∧ more = _ := by simpa using same
      have free : TypeSyntax.reservedWords.contains "table" = false := by decide
      have named : isNamed ⟨"table", some (.text s)⟩ = true := by rw [isNamed, free]; rfl
      have read : NameUse.table.read s = .ok (trimBlanks s) := NameUse.read_eq_ok_iff.mpr ⟨plain, rfl⟩
      simp [named, read]

theorem fields_eq_ok_iff {d : Declaration} {derived : Derivation} {fs : List DeclaredField} :
    d.fields derived = .ok fs ↔ d.shape = .record fs := by
  rw [fields]
  cases d.shape <;> simp

/-- A declaration of a row type: of one record without parameters, its first options name the table, and its
fields name the columns and say which of them identifies the rows. -/
structure Derivable (d : Declaration) (table : String) (fs : List DeclaredField) : Prop where
  single : TypeSyntax.hasParameters d.generics = false
  first : ∃ more, d.options = [⟨"table", some (.text table)⟩] :: more
  plain : NamesPlain table
  shape : d.shape = .record fs
  options : ∀ f ∈ fs, ∀ x ∈ f.options.flatten, x.Fits
  columns : ∀ f ∈ fs, NamesPlain f.columnText
  targets : ∀ f ∈ fs, ∀ s, f.targetText? = some s → NamesPlain s
  distinct : (fs.map columnName).Nodup
  oneId : (fs.filter (·.isMarked "id")).length ≤ 1
  oneModifiedAt : (fs.filter (·.isMarked "modified_at")).length ≤ 1
  identified : ∃ f ∈ fs, f.isMarked "id" = true ∨ f.columnName = "id"

/-- The row type of a table that fields describe. -/
def describe (d : Declaration) (table : String) (fs : List DeclaredField) : RowType where
  name := d.name
  table := table
  columns := (said fs).columns
  id := (marked? "id" fs).getD "id"
  modifiedAt := marked? "modified_at" fs
  references := (said fs).references

/-- At most one element has a property if no two do. -/
theorem pairwise_iff_length_filter_le {mark : String} {fs : List DeclaredField} :
    fs.Pairwise (fun f g => ¬ (f.isMarked mark = true ∧ g.isMarked mark = true)) ↔
      (fs.filter (·.isMarked mark)).length ≤ 1 := by
  induction fs with
  | nil => simp
  | cons f fs ih =>
    rw [List.pairwise_cons, ih, List.filter_cons]
    by_cases marked : f.isMarked mark = true
    · have alone : (∀ g ∈ fs, ¬ g.isMarked mark = true) ↔ fs.filter (·.isMarked mark) = [] :=
        List.filter_eq_nil_iff.symm
      simp only [marked, true_and, if_true, alone, List.length_cons, ← List.length_eq_zero_iff]
      omega
    · simp [marked]

theorem admitted_iff {fs : List DeclaredField} : Admitted fs ↔
    (∀ f ∈ fs, f.Readable) ∧ (fs.map columnName).Nodup ∧ (fs.filter (·.isMarked "id")).length ≤ 1 ∧
      (fs.filter (·.isMarked "modified_at")).length ≤ 1 := by
  rw [List.Nodup, List.pairwise_map, ← pairwise_iff_length_filter_le, ← pairwise_iff_length_filter_le]
  constructor
  · rintro ⟨readable, apart⟩
    exact ⟨readable, apart.imp Apart.column, apart.imp Apart.id, apart.imp Apart.modifiedAt⟩
  · rintro ⟨readable, columns, ids, modifiedAts⟩
    refine ⟨readable, (columns.and (ids.and modifiedAts)).imp ?_⟩
    rintro f g ⟨column, id, modifiedAt⟩
    exact ⟨column, id, modifiedAt⟩

theorem identified_of_marked {fs : List DeclaredField} {id : String} (found : marked? "id" fs = some id) :
    ∃ f ∈ fs, f.isMarked "id" = true ∨ f.columnName = "id" := by
  obtain ⟨f, found, -⟩ := Option.map_eq_some_iff.mp found
  have marked := List.find?_some found
  exact ⟨f, List.mem_of_find?_eq_some found, .inl marked⟩

theorem derivable_of_rowType {d : Declaration} {r : RowType} (done : d.rowType = .ok r) :
    ∃ s fs, d.Derivable s fs ∧ d.describe (trimBlanks s) fs = r := by
  rw [rowType] at done
  -- each step that succeeded gives one demand
  obtain ⟨single, done⟩ := ok_of_guard done
  obtain ⟨table, named, done⟩ := ok_of_bind done
  obtain ⟨s, more, first, plain, rfl⟩ := table_eq_ok_iff.mp named
  obtain ⟨fs, shape, done⟩ := ok_of_bind done
  obtain ⟨c, read, done⟩ := ok_of_bind done
  obtain ⟨admitted, rfl⟩ := DeclaredColumns.foldlM_add_eq_ok_iff.mp read
  obtain ⟨readable, distinct, ids, modifiedAts⟩ := admitted_iff.mp admitted
  have derivable (identified : ∃ f ∈ fs, f.isMarked "id" = true ∨ f.columnName = "id") : d.Derivable s fs :=
    ⟨by simpa using single, ⟨more, first⟩, plain, fields_eq_ok_iff.mp shape,
      fun f member => (readable f member).options, fun f member => (readable f member).column,
      fun f member => (readable f member).target, distinct, ids, modifiedAts, identified⟩
  split at done
  case h_1 id found =>
    cases done
    have marked : marked? "id" fs = some id := found
    exact ⟨s, fs, derivable (identified_of_marked marked), by rw [describe, marked]; rfl⟩
  case h_2 missing =>
    have unmarked : marked? "id" fs = Option.none := missing
    split at done
    case isFalse => cases done
    case isTrue named =>
      cases done
      obtain ⟨f, member, same⟩ := any_columns_iff.mp named
      exact ⟨s, fs, derivable ⟨f, member, .inr same⟩, by rw [describe, unmarked]; rfl⟩

theorem Derivable.admitted {d : Declaration} {s : String} {fs : List DeclaredField}
    (derivable : d.Derivable s fs) : Admitted fs :=
  admitted_iff.mpr ⟨fun f member => ⟨derivable.options f member, derivable.columns f member,
    derivable.targets f member⟩, derivable.distinct, derivable.oneId, derivable.oneModifiedAt⟩

theorem Derivable.rowType {d : Declaration} {s : String} {fs : List DeclaredField}
    (derivable : d.Derivable s fs) : d.rowType = .ok (d.describe (trimBlanks s) fs) := by
  obtain ⟨more, first⟩ := derivable.first
  have table : d.table = .ok (trimBlanks s) := table_eq_ok_iff.mpr ⟨s, more, first, derivable.plain, rfl⟩
  have fields : d.fields .rowType = .ok fs := fields_eq_ok_iff.mpr derivable.shape
  have read : fs.foldlM add .none = .ok (said fs) :=
    DeclaredColumns.foldlM_add_eq_ok_iff.mpr ⟨derivable.admitted, rfl⟩
  simp only [Declaration.rowType, derivable.single, table, fields, read, bind, Except.bind]
  cases found : marked? "id" fs with
  | some id =>
    have role : (said fs).id = some id := found
    simp only [role]
    rw [describe, found]
    rfl
  | none =>
    have role : (said fs).id = Option.none := found
    have named : ((said fs).columns.any fun c => c.name == "id") = true := by
      obtain ⟨f, member, marked | same⟩ := derivable.identified
      · exact absurd marked (marked_eq_none_iff.mp found f member)
      · exact any_columns_iff.mpr ⟨f, member, same⟩
    simp only [role, named, if_true]
    rw [describe, found]
    rfl

/-- A row type is derived exactly from a declaration of one, and is the one that its fields describe. -/
theorem rowType_eq_ok_iff {d : Declaration} {r : RowType} :
    d.rowType = .ok r ↔ ∃ s fs, d.Derivable s fs ∧ d.describe (trimBlanks s) fs = r := by
  refine ⟨derivable_of_rowType, ?_⟩
  rintro ⟨s, fs, derivable, rfl⟩
  exact derivable.rowType

/-! ## The derived row type -/

section

variable {d : Declaration} {table : String} {fs : List DeclaredField}

theorem hasColumn_describe {name : String} :
    (d.describe table fs).hasColumn name = true ↔ ∃ f ∈ fs, f.columnName = name := by
  simp [RowType.hasColumn_iff, describe, said]

theorem hasColumn_of_marked {mark name : String} (found : marked? mark fs = some name) :
    (d.describe table fs).hasColumn name = true := by
  obtain ⟨f, found, named⟩ := Option.map_eq_some_iff.mp found
  exact hasColumn_describe.mpr ⟨f, List.mem_of_find?_eq_some found, named⟩

theorem hasColumn_id (identified : ∃ f ∈ fs, f.isMarked "id" = true ∨ f.columnName = "id") :
    (d.describe table fs).hasColumn (d.describe table fs).id = true := by
  show (d.describe table fs).hasColumn ((marked? "id" fs).getD "id") = true
  cases found : marked? "id" fs with
  | some id => exact hasColumn_of_marked found
  | none =>
    obtain ⟨f, member, marked | same⟩ := identified
    · exact absurd marked (marked_eq_none_iff.mp found f member)
    · exact hasColumn_describe.mpr ⟨f, member, same⟩

theorem mem_references {x : Reference} :
    x ∈ (d.describe table fs).references ↔
      ∃ f ∈ fs, ∃ s, f.targetText? = some s ∧ ⟨f.columnName, trimBlanks s⟩ = x := by
  simp [describe, said, target?]

theorem hasColumn_of_mem_references {x : Reference} (member : x ∈ (d.describe table fs).references) :
    (d.describe table fs).hasColumn x.column = true := by
  obtain ⟨f, declared, _, -, rfl⟩ := mem_references.mp member
  exact hasColumn_describe.mpr ⟨f, declared, rfl⟩

/-- A derived row type passes the checks that are made of it when it is used. -/
theorem validate_describe {s : String} (derivable : d.Derivable s fs) :
    (d.describe (trimBlanks s) fs).validate = .ok () := by
  refine RowType.validate_eq_ok derivable.plain ?_ (hasColumn_id derivable.identified) ?_ ?_
  · intro c member
    obtain ⟨f, declared, rfl⟩ := List.mem_map.mp member
    exact derivable.columns f declared
  · exact fun m marked => hasColumn_of_marked marked
  · intro x member
    refine ⟨hasColumn_of_mem_references member, ?_⟩
    obtain ⟨f, declared, target, given, rfl⟩ := mem_references.mp member
    exact derivable.targets f declared target given

/-- A field is found by its name, also where another field has a column of that name. -/
theorem field_describe (names : (fs.map plainName).Nodup) {f : DeclaredField} (member : f ∈ fs) :
    (d.describe table fs).field f.plainName = .ok ⟨f.columnName⟩ := by
  have found : fs.find? (fun g => g.plainName == f.plainName) = some f := by
    have present : (fs.find? fun g => g.plainName == f.plainName).isSome = true :=
      List.find?_isSome.mpr ⟨f, member, beq_self_eq_true f.plainName⟩
    obtain ⟨g, found⟩ := Option.isSome_iff_exists.mp present
    have same : g.plainName = f.plainName := by simpa using List.find?_some found
    rw [found, List.inj_on_of_nodup_map names (List.mem_of_find?_eq_some found) member same]
  have resolved : (d.describe table fs).resolve? f.plainName =
      some ⟨f.plainName, f.columnName, TypeSyntax.isOptional f.type⟩ := by
    have composed : ((fun c : Column => c.field == f.plainName) ∘ fun g : DeclaredField =>
        (⟨g.plainName, g.columnName, TypeSyntax.isOptional g.type⟩ : Column)) =
        fun g => g.plainName == f.plainName := rfl
    rw [RowType.resolve?, describe, said, List.find?_map, composed, found]
    rfl
  rw [RowType.field, RowType.resolve, resolved]
  rfl

/-- The fields are read from the columns that the row type has for them. -/
theorem recordFields_eq_ok {s : String} (derivable : d.Derivable s fs) :
    d.recordFields = .ok (fs.map fun f => (f.name, f.columnName)) := by
  have fields : d.fields .record = .ok fs := fields_eq_ok_iff.mpr derivable.shape
  rw [recordFields, fields]
  refine mapM_eq_ok fun f member => ?_
  have options := readOptions_eq_ok_iff.mpr ⟨derivable.options f member, rfl⟩
  have named := column_eq_ok_iff.mpr ⟨derivable.columns f member, rfl⟩
  simp only [options, named, bind, Except.bind]
  rfl

end

/-- A row type is derived from exactly the declarations that say what it needs. It passes the checks that are
made when it is used; it has the columns of the fields in their order, among them all that have a role; and each
field is found by its name and read from a record in its own column. -/
theorem derived_row_type_is_valid (d : Declaration) :
    ((∃ r, d.rowType = .ok r) ↔ ∃ table fs, d.Derivable table fs) ∧
    ∀ r, d.rowType = .ok r → ∃ fs, d.shape = .record fs ∧
      r.validate = .ok () ∧
      r.columns.map (fun c => (c.field, c.name)) = fs.map (fun f => (f.plainName, f.columnName)) ∧
      r.hasColumn r.id = true ∧
      (∀ m, r.modifiedAt = some m → r.hasColumn m = true) ∧
      (∀ x ∈ r.references, r.hasColumn x.column = true) ∧
      ((fs.map plainName).Nodup → ∀ f ∈ fs, r.field f.plainName = .ok ⟨f.columnName⟩) ∧
      d.recordFields = .ok (fs.map fun f => (f.name, f.columnName)) := by
  refine ⟨⟨?_, ?_⟩, ?_⟩
  · rintro ⟨r, done⟩
    obtain ⟨table, fs, derivable, -⟩ := rowType_eq_ok_iff.mp done
    exact ⟨table, fs, derivable⟩
  · rintro ⟨table, fs, derivable⟩
    exact ⟨_, rowType_eq_ok_iff.mpr ⟨table, fs, derivable, rfl⟩⟩
  · intro r done
    obtain ⟨table, fs, derivable, rfl⟩ := rowType_eq_ok_iff.mp done
    refine ⟨fs, derivable.shape, validate_describe derivable, ?_, hasColumn_id derivable.identified,
      fun m marked => hasColumn_of_marked marked, fun x member => hasColumn_of_mem_references member,
      fun names f member => field_describe names member, recordFields_eq_ok derivable⟩
    simp [describe, said]

/-- A field whose name is the column of another field. -/
theorem derived_row_type_of_exchanged_names :
    let first : DeclaredField := ⟨"title", "String", [[⟨"column", some (.text " name ")⟩]]⟩
    let second : DeclaredField := ⟨"name", "String", [[⟨"id", none⟩], [⟨"column", some (.text "key")⟩]]⟩
    let d : Declaration := ⟨"Item", "", [[⟨"table", some (.text "items")⟩]], .record [first, second]⟩
    ∃ r, d.rowType = .ok r ∧ r.validate = .ok () ∧ r.field "title" = .ok ⟨"name"⟩ ∧ r.field "name" = .ok ⟨"key"⟩ := by
  intro first second d
  have plainNames : first.plainName = "title" ∧ second.plainName = "name" := by decide +kernel
  have columnNames : first.columnName = "name" ∧ second.columnName = "key" := by decide +kernel
  have derivable : d.Derivable "items" [first, second] := by
    refine ⟨by decide +kernel, ⟨[], rfl⟩, by decide +kernel, rfl, ?_, ?_, ?_, by decide +kernel, by decide +kernel,
      by decide +kernel, second, by simp, .inl (by decide +kernel)⟩
    · simp [first, second, RowOption.Fits, forall_and]
    · decide +kernel
    · have none : first.targetText? = Option.none ∧ second.targetText? = Option.none := by decide +kernel
      simp [none]
  obtain ⟨r, done⟩ := (derived_row_type_is_valid d).1.mpr ⟨_, _, derivable⟩
  obtain ⟨fs, shape, valid, -, -, -, -, found, -⟩ := (derived_row_type_is_valid d).2 r done
  cases shape
  have names : ([first, second].map plainName).Nodup := by decide +kernel
  refine ⟨r, done, valid, ?_, ?_⟩
  · rw [← plainNames.1, ← columnNames.1]
    exact found names first List.mem_cons_self
  · rw [← plainNames.2, ← columnNames.2]
    exact found names second (List.mem_cons_of_mem _ List.mem_cons_self)

end Declaration
end Sift
