import Sift.Proofs.Event
import Sift.Query

/-!
# Valid row types

What the checks of row types and conditions guarantee: the names that a statement
writes need no quotes, and restricted columns are declared.
-/
namespace Sift

theorem Identifier.isPlain_of_check {s what : String} (checked : checkPlain s what = .ok ()) :
    isPlain s = true := by
  rw [checkPlain] at checked
  split at checked
  · cases checked
  · split at checked
    next plain => exact plain
    next => cases checked

theorem Identifier.isEmpty_of_isPlain {s : String} (plain : isPlain s = true) : ¬ s.isEmpty = true := by
  intro empty
  rw [String.isEmpty_iff.mp empty] at plain
  cases plain

theorem Identifier.check_of_isPlain {s : String} (what : String) (plain : isPlain s = true) :
    checkPlain s what = .ok () := by
  rw [checkPlain, if_neg (isEmpty_of_isPlain plain), if_pos plain]

namespace RowType

/-- The names of a row type are identifiers and refer to its columns. -/
structure Valid (r : RowType) : Prop where
  table : Identifier.isPlain r.table = true
  columns : ∀ c ∈ r.columns, Identifier.isPlain c.name = true
  id : r.hasColumn r.id = true
  references : ∀ f ∈ r.references, r.hasColumn f.column = true

theorem hasColumn_iff {r : RowType} {name : String} :
    r.hasColumn name = true ↔ ∃ c ∈ r.columns, c.name = name := by
  rw [hasColumn, column?, List.find?_isSome]
  simp only [beq_iff_eq]

theorem hasColumn_of_check {r : RowType} {name : String} (checked : r.checkColumn name = .ok ()) :
    r.hasColumn name = true := by
  rw [checkColumn] at checked
  split at checked
  next declared => exact declared
  next => cases checked

theorem valid_of_validate {r : RowType} (done : r.validate = .ok ()) : r.Valid := by
  unfold validate at done
  obtain ⟨_, table, done⟩ := ok_of_bind done
  obtain ⟨-, done⟩ := ok_of_guard done
  obtain ⟨_, columns, done⟩ := ok_of_bind done
  obtain ⟨id, done⟩ := ok_of_guard done
  have references : r.references.forM r.checkReference = .ok () := by
    split at done
    · exact (ok_of_guard done).2
    · exact done
  refine ⟨Identifier.isPlain_of_check table, ?_, by simpa using id, ?_⟩
  · exact fun c member => Identifier.isPlain_of_check (forM_ok_iff.mp columns c member)
  · intro f member
    have checked := forM_ok_iff.mp references f member
    unfold checkReference at checked
    simpa using (ok_of_guard checked).1

/-- The checks that a row type passes, among them those of `Valid`. -/
theorem validate_eq_ok {r : RowType} (table : Identifier.isPlain r.table = true)
    (columns : ∀ c ∈ r.columns, Identifier.isPlain c.name = true) (id : r.hasColumn r.id = true)
    (modifiedAt : ∀ m, r.modifiedAt = some m → r.hasColumn m = true)
    (references : ∀ f ∈ r.references, r.hasColumn f.column = true ∧ Identifier.isPlain f.target = true) :
    r.validate = .ok () := by
  have present : ¬ r.columns.isEmpty = true := by
    obtain ⟨c, member, -⟩ := hasColumn_iff.mp id
    simpa using List.ne_nil_of_mem member
  have named : r.columns.forM (fun c => Identifier.checkPlain c.name "column name") = .ok () :=
    forM_ok_iff.mpr fun c member => Identifier.check_of_isPlain "column name" (columns c member)
  have referred : r.references.forM r.checkReference = .ok () := by
    refine forM_ok_iff.mpr fun f member => ?_
    obtain ⟨column, target⟩ := references f member
    rw [checkReference, column]
    exact Identifier.check_of_isPlain "referenced table" target
  simp only [validate, Identifier.check_of_isPlain "table name" table, present, named, id, referred, bind, Except.bind]
  cases marked : r.modifiedAt with
  | none => rfl
  | some m =>
    simp only [modifiedAt m marked]
    rfl

/-- A declared column of a valid row type needs no quotes. -/
theorem Valid.isPlain {r : RowType} (valid : r.Valid) {name : String}
    (declared : r.hasColumn name = true) : Identifier.isPlain name = true := by
  rw [hasColumn, Option.isSome_iff_exists] at declared
  obtain ⟨c, found⟩ := declared
  have named := List.find?_some found
  rw [← beq_iff_eq.mp named]
  exact valid.columns c (List.mem_of_find?_eq_some found)

theorem Valid.hasColumn_of_reference {r : RowType} (valid : r.Valid) {column : String} {f : Reference}
    (found : r.reference? column = some f) : r.hasColumn column = true := by
  have named := List.find?_some found
  rw [← beq_iff_eq.mp named]
  exact valid.references f (List.mem_of_find?_eq_some found)

end RowType

/-- Restricted columns are declared. -/
theorem Conditions.hasColumn_of_check {c : Conditions} {r : RowType} (checked : c.check r = .ok ())
    {column : String} {xs : List Restriction} (member : (column, xs) ∈ c.fields) :
    r.hasColumn column = true :=
  RowType.hasColumn_of_check (forM_ok_iff.mp checked _ member)

end Sift
