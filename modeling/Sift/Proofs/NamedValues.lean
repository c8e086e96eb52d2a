import Sift.Proofs.Binding

/-!
# Maps in the order of insertion

A map is filled by insertions, one by one or with all entries of another map. Whatever
they were, each name has one entry, where it was first inserted, and the value that
was inserted last.
-/
namespace Sift
namespace NamedValues

variable {m : NamedValues} {entries : List (String × Value)}

theorem lookup_eq_none_iff_notMem {name : String} : entries.lookup name = none ↔ name ∉ entries.map (·.1) := by
  rw [List.lookup_eq_none_iff, List.mem_map, not_exists]
  refine forall_congr' fun e => ?_
  rw [bne_iff_ne, not_and, ne_comm]

/-! ## One insertion -/

theorem map_insertEntry (name : String) (value : Value) (entries : List (String × Value)) :
    (insertEntry name value entries).map (·.1) =
      if name ∈ entries.map (·.1) then entries.map (·.1) else entries.map (·.1) ++ [name] := by
  by_cases known : name ∈ entries.map (·.1)
  · rw [if_pos known]
    induction entries with
    | nil => cases known
    | cons e rest ih =>
      rw [insertEntry]
      by_cases same : name = e.1
      · rw [if_pos same, List.map_cons, List.map_cons]
      · rw [if_neg same, List.map_cons, List.map_cons, ih ((List.mem_cons.mp known).resolve_left same)]
  · rw [if_neg known, insertEntry_of_notMem value known, List.map_append, List.map_singleton]

/-- A known name keeps its place, and a new one comes last. -/
theorem names_insert (m : NamedValues) (name : String) (value : Value) :
    (m.insert name value).names = if name ∈ m.names then m.names else m.names ++ [name] :=
  map_insertEntry name value m.entries

/-- The entry of a known name is given another value, and no other entry changes. -/
theorem insertEntry_of_known {name : String} (value : Value) (distinct : (entries.map (·.1)).Nodup)
    (known : name ∈ entries.map (·.1)) :
    insertEntry name value entries = entries.map fun e => (e.1, if e.1 = name then value else e.2) := by
  induction entries with
  | nil => cases known
  | cons e rest ih =>
    obtain ⟨single, distinct⟩ := List.nodup_cons.mp distinct
    rw [insertEntry, List.map_cons]
    by_cases same : name = e.1
    · have untouched : ∀ f ∈ rest, (f.1, if f.1 = name then value else f.2) = f := by
        intro f member
        have other : f.1 ≠ name := fun here => single (List.mem_map.mpr ⟨f, member, here.trans same⟩)
        rw [if_neg other]
      rw [if_pos same, if_pos same.symm, List.map_congr_left untouched, List.map_id']
    · rw [if_neg same, if_neg (Ne.symm same), ih distinct ((List.mem_cons.mp known).resolve_left same)]

/-! ## Insertions in a row -/

theorem insertAll_append (m : NamedValues) (entries others : List (String × Value)) :
    m.insertAll (entries ++ others) = (m.insertAll entries).insertAll others :=
  List.foldl_append

/-- A map that insertions filled: every name stands once, where it was first inserted, with the value that was
inserted last. -/
structure FilledBy (m : NamedValues) (insertions : List (String × Value)) : Prop where
  distinct : m.names.Nodup
  order : m.names = (insertions.map (·.1)).eraseDups
  last : ∀ name, m.get? name = insertions.reverse.lookup name

theorem filledBy_empty : empty.FilledBy [] := ⟨.nil, rfl, fun _ => rfl⟩

theorem FilledBy.mem_names_iff (filled : m.FilledBy entries) {name : String} :
    name ∈ m.names ↔ name ∈ entries.map (·.1) := by
  rw [filled.order, List.mem_eraseDups]

theorem FilledBy.insert (filled : m.FilledBy entries) (name : String) (value : Value) :
    (m.insert name value).FilledBy (entries ++ [(name, value)]) := by
  refine ⟨?_, ?_, fun sought => ?_⟩
  · rw [names_insert]
    by_cases known : name ∈ m.names
    · rw [if_pos known]
      exact filled.distinct
    · rw [if_neg known, List.nodup_append]
      exact ⟨filled.distinct, List.nodup_singleton name, fun n old o new => by
        rw [List.mem_singleton.mp new]
        rintro rfl
        exact known old⟩
  · rw [names_insert, List.map_append, List.eraseDups_append, ← filled.order]
    by_cases known : name ∈ m.names
    · have seen := filled.mem_names_iff.mp known
      rw [if_pos known]
      simp [List.removeAll, seen]
    · have new := filled.mem_names_iff.not.mp known
      rw [if_neg known]
      simp [List.removeAll, new, List.eraseDups_cons]
  · rw [get?_insert, List.reverse_append, List.reverse_singleton, List.singleton_append, lookup_cons_eq, filled.last]

theorem FilledBy.insertAll (filled : m.FilledBy entries) (others : List (String × Value)) :
    (m.insertAll others).FilledBy (entries ++ others) := by
  induction others generalizing m entries with
  | nil => rwa [List.append_nil]
  | cons e rest ih =>
    have next := ih (filled.insert e.1 e.2)
    rwa [List.append_assoc, List.singleton_append] at next

/-- Entries with different names leave the names that are there, and add the others in their order. -/
theorem names_insertAll (distinct : (entries.map (·.1)).Nodup) (m : NamedValues) :
    (m.insertAll entries).names = m.names ++ (entries.map (·.1)).filter fun name => name ∉ m.names := by
  induction entries generalizing m with
  | nil => simp [NamedValues.insertAll]
  | cons e rest ih =>
    obtain ⟨single, distinct⟩ := List.nodup_cons.mp distinct
    show ((m.insert e.1 e.2).insertAll rest).names = _
    rw [ih distinct, names_insert, List.map_cons]
    by_cases known : e.1 ∈ m.names
    · rw [if_pos known, List.filter_cons_of_neg (by simpa using known)]
    · have apart : (rest.map (·.1)).filter (fun name => name ∉ m.names ++ [e.1]) =
          (rest.map (·.1)).filter fun name => name ∉ m.names := by
        refine List.filter_congr fun name member => ?_
        have other : name ≠ e.1 := by
          rintro rfl
          exact single member
        simp [other]
      rw [if_neg known, List.filter_cons_of_pos (by simpa using known), apart, List.append_assoc,
        List.singleton_append]

/-- Entries with different names give their values, and the other names keep theirs. -/
theorem get?_insertAll (distinct : (entries.map (·.1)).Nodup) (m : NamedValues) (name : String) :
    (m.insertAll entries).get? name = (entries.lookup name).or (m.get? name) := by
  induction entries generalizing m with
  | nil => rfl
  | cons e rest ih =>
    obtain ⟨single, distinct⟩ := List.nodup_cons.mp distinct
    show ((m.insert e.1 e.2).insertAll rest).get? name = _
    rw [ih distinct, get?_insert, lookup_cons_eq]
    by_cases same : name = e.1
    · have later : rest.lookup name = none := by
        rw [lookup_eq_none_iff_notMem, same]
        exact single
      rw [later, if_pos same, if_pos same]
      rfl
    · rw [if_neg same, if_neg same]

/-! ## Changes -/

/-- A change of a map. -/
inductive Change where
  | insert (name : String) (value : Value)
  | extend (other : NamedValues)

namespace Change

def apply (m : NamedValues) : Change → NamedValues
  | .insert name value => m.insert name value
  | .extend other => m.extend other

/-- What a change inserts, in order. -/
def insertions : Change → List (String × Value)
  | .insert name value => [(name, value)]
  | .extend other => other.entries

theorem apply_eq_insertAll (m : NamedValues) (c : Change) : c.apply m = m.insertAll c.insertions := by
  cases c <;> rfl

end Change

/-- A map after changes. -/
def after (m : NamedValues) (changes : List Change) : NamedValues := changes.foldl (fun m c => c.apply m) m

/-- Changes come down to what they insert. -/
theorem after_eq_insertAll (m : NamedValues) (changes : List Change) :
    m.after changes = m.insertAll (changes.flatMap Change.insertions) := by
  induction changes generalizing m with
  | nil => rfl
  | cons c rest ih =>
    show (c.apply m).after rest = _
    rw [ih, c.apply_eq_insertAll, List.flatMap_cons, insertAll_append]

theorem filledBy_after (changes : List Change) :
    (empty.after changes).FilledBy (changes.flatMap Change.insertions) := by
  rw [after_eq_insertAll]
  exact filledBy_empty.insertAll (changes.flatMap Change.insertions)

/-- However a map was filled, each name stands once in it, in the order of first insertions, with the value that was
inserted last; names that were not inserted have no value. Inserting again sets one value in place. Extending a map
inserts the entries of the other one by one: its names keep their places, and those of the other that are new follow
in their order; the values of the other one count before its own. -/
theorem filled_in_order (changes : List Change) :
    (empty.after changes).FilledBy (changes.flatMap Change.insertions) ∧
    (∀ name, (empty.after changes).get? name = none ↔ name ∉ (changes.flatMap Change.insertions).map (·.1)) ∧
    (∀ name value, ((empty.after changes).insert name value).entries =
      if name ∈ (empty.after changes).names then
        (empty.after changes).entries.map fun e => (e.1, if e.1 = name then value else e.2)
      else (empty.after changes).entries ++ [(name, value)]) ∧
    ∀ others : List Change,
      (empty.after changes).extend (empty.after others) =
        (empty.after others).entries.foldl (fun m e => m.insert e.1 e.2) (empty.after changes) ∧
      ((empty.after changes).extend (empty.after others)).names =
        (empty.after changes).names ++
          (empty.after others).names.filter (fun name => name ∉ (empty.after changes).names) ∧
      ∀ name, ((empty.after changes).extend (empty.after others)).get? name =
        ((empty.after others).get? name).or ((empty.after changes).get? name) := by
  have filled := filledBy_after changes
  refine ⟨filled, fun name => ?_, fun name value => ?_, fun others => ?_⟩
  · rw [filled.last, lookup_eq_none_iff_notMem, List.map_reverse, List.mem_reverse]
  · by_cases known : name ∈ (empty.after changes).names
    · rw [if_pos known]
      exact insertEntry_of_known value filled.distinct known
    · rw [if_neg known]
      exact insertEntry_of_notMem value known
  · have distinct := (filledBy_after others).distinct
    exact ⟨rfl, names_insertAll distinct _, get?_insertAll distinct _⟩

/-- A known name keeps its place when the map is extended. -/
example :
    (empty.after [.insert "b" (.int 1), .extend (ofList [("a", .int 2), ("b", .int 3)])]).entries =
      [("b", .int 3), ("a", .int 2)] := rfl

end NamedValues
end Sift
