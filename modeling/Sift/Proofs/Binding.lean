import Sift.Sql.Binding
import Mathlib.Data.List.Nodup
import Mathlib.Data.List.Forall2

/-!
# Names and slots of parameters

A parameter's name ends in its number, so names with different numbers differ,
whatever they belong to. An action that prints a part of a statement emits a list
of bindings: it binds them in their order, and the slots of its text are their
names in the same order (`Emits`).
-/
namespace Sift

/-- The name of the parameter that belongs to `base` and has a given number. -/
def parameterName (base : String) (number : Nat) : String := base ++ "_" ++ toString number

theorem eq_of_append_cons_eq {α : Type} {mark : α} {front front' back back' : List α}
    (absent : mark ∉ back) (absent' : mark ∉ back')
    (same : front ++ mark :: back = front' ++ mark :: back') : back = back' := by
  rcases List.append_eq_append_iff.mp same with ⟨between, -, tail⟩ | ⟨between, -, tail⟩
  · cases between with
    | nil => exact (List.cons.inj tail).2
    | cons x xs =>
      have later := (List.cons.inj tail).2
      exact absurd (by rw [later]; simp) absent
  · cases between with
    | nil => exact (List.cons.inj tail).2.symm
    | cons x xs =>
      have later := (List.cons.inj tail).2
      exact absurd (by rw [later]; simp) absent'

/-- A name tells its number, even if what it belongs to ends like one. -/
theorem parameterName_number {base base' : String} {m n : Nat}
    (same : parameterName base m = parameterName base' n) : m = n := by
  have chars := congrArg String.toList same
  have shown (k : Nat) : (toString k).toList = Nat.toDigits 10 k := Nat.toList_repr
  simp only [parameterName, String.toList_append, List.append_assoc, shown] at chars
  have digits : Nat.toDigits 10 m = Nat.toDigits 10 n :=
    eq_of_append_cons_eq Nat.underscore_not_in_toDigits Nat.underscore_not_in_toDigits chars
  have read := congrArg (Nat.ofDigitChars 10 · 0) digits
  simpa only [Nat.ofDigitChars_ten_toDigits] using read

/-! ## Bindings -/

namespace Naming

/-- The names that bases get one after the other. -/
def names : Naming → List String → List String
  | _, [] => []
  | n, base :: rest => (n.next base).1 :: names (n.next base).2 rest

/-- A name given after some number has a greater number. -/
theorem number_of_mem_names {n : Naming} {bases : List String} {name : String}
    (member : name ∈ n.names bases) :
    ∃ base number, n.issued < number ∧ number ≤ n.issued + bases.length ∧
      name = parameterName base number := by
  induction bases generalizing n with
  | nil => simp [names] at member
  | cons base rest ih =>
    rcases List.mem_cons.mp member with first | later
    · exact ⟨base, n.issued + 1, by omega, by simp, first⟩
    · obtain ⟨base', number, greater, bounded, named⟩ := ih later
      simp only [next] at greater bounded
      exact ⟨base', number, by omega, by simp only [List.length_cons]; omega, named⟩

theorem names_nodup (n : Naming) (bases : List String) : (n.names bases).Nodup := by
  induction bases generalizing n with
  | nil => exact List.nodup_nil
  | cons base rest ih =>
    refine List.nodup_cons.mpr ⟨?_, ih _⟩
    intro again
    obtain ⟨base', number, greater, -, named⟩ := number_of_mem_names again
    have same : n.issued + 1 = number := parameterName_number named
    simp only [next] at greater
    omega

end Naming

namespace Binding

/-- The state after binding values in order, each for a base. -/
def bindAll (b : Binding) (bs : List (String × Value)) : Binding :=
  bs.foldl (fun b p => ((bindName p.1 p.2).run b).2) b

/-- The names under which values are bound. -/
def names (b : Binding) (bs : List (String × Value)) : List String :=
  b.naming.names (bs.map (·.1))

@[simp] theorem bindAll_nil (b : Binding) : b.bindAll [] = b := rfl

@[simp] theorem names_nil (b : Binding) : b.names [] = [] := rfl

theorem bindAll_append (b : Binding) (bs cs : List (String × Value)) :
    b.bindAll (bs ++ cs) = (b.bindAll bs).bindAll cs := List.foldl_append

theorem names_cons (b : Binding) (p : String × Value) (bs : List (String × Value)) :
    b.names (p :: bs) = (b.naming.next p.1).1 :: (b.bindAll [p]).names bs := rfl

theorem names_append (b : Binding) (bs cs : List (String × Value)) :
    b.names (bs ++ cs) = b.names bs ++ (b.bindAll bs).names cs := by
  induction bs generalizing b with
  | nil => rfl
  | cons p bs ih =>
    rw [List.cons_append, names_cons, names_cons, ih, List.cons_append]
    rfl

theorem length_names (b : Binding) (bs : List (String × Value)) :
    (b.names bs).length = bs.length := by
  induction bs generalizing b with
  | nil => rfl
  | cons p bs ih => rw [names_cons, List.length_cons, List.length_cons, ih]

/-- Every parameter has a name whose number is handed out already. -/
def Sound (b : Binding) : Prop :=
  ∀ name ∈ b.params.names, ∃ base number, number ≤ b.naming.issued ∧
    name = parameterName base number

theorem sound_start : Binding.start.Sound := by
  intro name member
  simp [start, NamedValues.names, NamedValues.empty] at member

end Binding

namespace NamedValues

/-- A new name is appended. -/
theorem insertEntry_of_notMem {name : String} {entries : List (String × Value)} (value : Value)
    (new : name ∉ entries.map (·.1)) : insertEntry name value entries = entries ++ [(name, value)] := by
  induction entries with
  | nil => rfl
  | cons e rest ih =>
    simp only [List.map_cons, List.mem_cons, not_or] at new
    simp only [insertEntry, new.1, if_false, List.cons_append, ih new.2]

theorem lookup_cons_eq (sought name : String) (value : Value) (entries : List (String × Value)) :
    ((name, value) :: entries).lookup sought =
      if sought = name then some value else entries.lookup sought := by
  by_cases same : sought = name
  · subst same; simp
  · simp [List.lookup_cons, beq_false_of_ne same, same]

theorem lookup_insertEntry (name : String) (value : Value) (entries : List (String × Value))
    (sought : String) : (insertEntry name value entries).lookup sought =
      if sought = name then some value else entries.lookup sought := by
  induction entries with
  | nil => exact lookup_cons_eq sought name value []
  | cons e rest ih =>
    obtain ⟨n, v⟩ := e
    by_cases first : name = n
    · subst first
      simp only [insertEntry, if_true, lookup_cons_eq]
      by_cases same : sought = name <;> simp only [same, if_true, if_false]
    · simp only [insertEntry, first, if_false, lookup_cons_eq, ih]
      by_cases same : sought = name
      · simp only [same, if_true, first, if_false]
      · simp only [same, if_false]

/-- An insertion sets the value of its name and of no other one. -/
theorem get?_insert (m : NamedValues) (name : String) (value : Value) (sought : String) :
    (m.insert name value).get? sought = if sought = name then some value else m.get? sought :=
  lookup_insertEntry name value m.entries sought

/-- Names have the values of a list, one by one. -/
def Resolve (m : NamedValues) (names : List String) (vs : List Value) : Prop :=
  List.Forall₂ (fun name v => m.get? name = some v) names vs

end NamedValues

namespace Binding

theorem issued_bindAll (b : Binding) (bs : List (String × Value)) :
    (b.bindAll bs).naming.issued = b.naming.issued + bs.length := by
  induction bs generalizing b with
  | nil => rfl
  | cons p bs ih =>
    show ((b.bindAll [p]).bindAll bs).naming.issued = _
    rw [ih, List.length_cons]
    show b.naming.issued + 1 + bs.length = _
    omega

/-- Binding leaves parameters with earlier numbers as they are. -/
theorem get?_bindAll_of_le (b : Binding) (bs : List (String × Value)) (base : String) {number : Nat}
    (early : number ≤ b.naming.issued) :
    (b.bindAll bs).params.get? (parameterName base number) =
      b.params.get? (parameterName base number) := by
  induction bs generalizing b with
  | nil => rfl
  | cons p bs ih =>
    show ((b.bindAll [p]).bindAll bs).params.get? _ = _
    rw [ih (b.bindAll [p]) (by rw [issued_bindAll]; omega)]
    show (b.params.insert (parameterName p.1 (b.naming.issued + 1)) p.2).get? _ = _
    rw [NamedValues.get?_insert, if_neg]
    intro same
    have := parameterName_number same
    omega

/-- After binding, every name has its value, whatever was bound before. -/
theorem resolve_bindAll (b : Binding) (bs : List (String × Value)) :
    (b.bindAll bs).params.Resolve (b.names bs) (bs.map (·.2)) := by
  induction bs generalizing b with
  | nil => exact List.Forall₂.nil
  | cons p bs ih =>
    rw [names_cons]
    refine List.Forall₂.cons ?_ (ih (b.bindAll [p]))
    show ((b.bindAll [p]).bindAll bs).params.get? (parameterName p.1 (b.naming.issued + 1)) = _
    rw [get?_bindAll_of_le (b.bindAll [p]) bs p.1 (by rw [issued_bindAll]; exact Nat.le_refl _)]
    show (b.params.insert (parameterName p.1 (b.naming.issued + 1)) p.2).get? _ = _
    rw [NamedValues.get?_insert, if_pos rfl]

theorem Sound.notMem {b : Binding} (sound : b.Sound) (base : String) :
    (b.naming.next base).1 ∉ b.params.names := by
  intro member
  obtain ⟨base', number, issued, named⟩ := sound _ member
  have := parameterName_number (m := b.naming.issued + 1) named
  omega

theorem Sound.entries_bind {b : Binding} (sound : b.Sound) (p : String × Value) :
    (b.bindAll [p]).params.entries = b.params.entries ++ [((b.naming.next p.1).1, p.2)] :=
  NamedValues.insertEntry_of_notMem p.2 (sound.notMem p.1)

theorem Sound.bind {b : Binding} (sound : b.Sound) (p : String × Value) : (b.bindAll [p]).Sound := by
  intro name member
  rw [NamedValues.names, sound.entries_bind, List.map_append, List.mem_append] at member
  rw [issued_bindAll]
  rcases member with old | new
  · obtain ⟨base, number, issued, named⟩ := sound name old
    exact ⟨base, number, by omega, named⟩
  · exact ⟨p.1, b.naming.issued + 1, Nat.le_refl _, List.mem_singleton.mp new⟩

/-- Bindings append their parameters in order. -/
theorem Sound.entries_bindAll {b : Binding} (sound : b.Sound) (bs : List (String × Value)) :
    (b.bindAll bs).params.entries = b.params.entries ++ (b.names bs).zip (bs.map (·.2)) := by
  induction bs generalizing b with
  | nil => simp
  | cons p bs ih =>
    show ((b.bindAll [p]).bindAll bs).params.entries = _
    rw [ih (sound.bind p), sound.entries_bind, names_cons, List.map_cons, List.zip_cons_cons,
      List.append_assoc, List.singleton_append]

/-- The parameters of a statement are what it binds, in order. -/
theorem names_bindAll_start (bs : List (String × Value)) :
    (start.bindAll bs).params.names = start.names bs := by
  rw [NamedValues.names, sound_start.entries_bindAll]
  show ((start.names bs).zip (bs.map (·.2))).map (·.1) = _
  exact List.map_fst_zip (Nat.le_of_eq (by rw [length_names, List.length_map]))

end Binding

/-! ## Actions that print -/

/-- An action that binds the values of a list in order, whose result has the slots `before`, then
those of the values in the same order. -/
def Emits {α : Type} (slots : α → List String) (before : List String) (m : Binder α)
    (bs : List (String × Value)) : Prop :=
  ∀ b, (m.run b).2 = b.bindAll bs ∧ slots (m.run b).1 = before ++ b.names bs

namespace Emits

variable {α β : Type} {slots : α → List String} {slots' : β → List String} {before : List String}

theorem pure {a : α} (same : slots a = before) : Emits slots before (Pure.pure a) [] :=
  fun b => ⟨rfl, by rw [Binding.names_nil, List.append_nil]; exact same⟩

/-- What a second action emits follows what the first one emits. -/
theorem bind {m : Binder α} {k : α → Binder β} {bs cs : List (String × Value)}
    (first : Emits slots [] m bs) (second : ∀ a, Emits slots' (before ++ slots a) (k a) cs) :
    Emits slots' before (m >>= k) (bs ++ cs) := by
  intro b
  obtain ⟨state, emitted⟩ := first b
  obtain ⟨state', emitted'⟩ := second (m.run b).1 (m.run b).2
  refine ⟨?_, ?_⟩
  · show ((k (m.run b).1).run (m.run b).2).2 = _
    rw [state', state, Binding.bindAll_append]
  · show slots' ((k (m.run b).1).run (m.run b).2).1 = _
    rw [emitted', emitted, state, Binding.names_append, List.nil_append, List.append_assoc]

/-- An action after which only the form of the text changes. -/
theorem map {m : Binder α} {f : α → β} {bs : List (String × Value)}
    (first : Emits slots [] m bs) (same : ∀ a, slots' (f a) = before ++ slots a) :
    Emits slots' before (m >>= fun a => Pure.pure (f a)) bs := by
  have both : Emits slots' before (m >>= fun a => Pure.pure (f a)) (bs ++ []) :=
    first.bind fun a => Emits.pure (same a)
  rwa [List.append_nil] at both

end Emits
end Sift
