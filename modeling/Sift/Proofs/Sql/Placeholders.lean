import Sift.Proofs.Sql.Printing

/-!
# What placeholders denote

A rendered text has a placeholder for each slot. Numbered placeholders denote values by
their numbers, the others denote values one after the other. Either way, the values
that the placeholders denote are those of the slots in whose places they stand.
-/
namespace Sift

open Sql

/-! ## Placeholders -/

/-- A placeholder denotes the value with its number, or the first value that none before it denotes. -/
inductive Placeholder where
  | numbered (number : Nat)
  | next

namespace Placeholder

/-- How a placeholder is written. -/
def text : Placeholder → String
  | numbered k => "$" ++ toString k
  | next => "?"

/-- The text of characters and placeholders. -/
def written (xs : List (Char ⊕ Placeholder)) : List Char :=
  xs.flatMap (Sum.elim (fun c => [c]) fun p => p.text.toList)

/-- The value with a number; the first one has the number 1. -/
def numberedValue? (values : List Value) : Nat → Option Value
  | 0 => none
  | k + 1 => values[k]?

/-- Characters, and values in the place of the placeholders that denote them. The values `left` are
those that no placeholder without a number has denoted yet. -/
def filled? (values : List Value) : List Value → List (Char ⊕ Placeholder) → Option (List (Char ⊕ Value))
  | _, [] => some []
  | left, .inl c :: xs => (filled? values left xs).map (.inl c :: ·)
  | left, .inr (.numbered k) :: xs =>
    (numberedValue? values k).bind fun v => (filled? values left xs).map (.inr v :: ·)
  | v :: left, .inr .next :: xs => (filled? values left xs).map (.inr v :: ·)
  | [], .inr .next :: _ => none

@[simp] theorem written_chars (cs : List Char) : written (cs.map .inl) = cs := by
  induction cs with
  | nil => rfl
  | cons c cs ih => exact congrArg (c :: ·) ih

@[simp] theorem written_append (xs ys : List (Char ⊕ Placeholder)) : written (xs ++ ys) = written xs ++ written ys :=
  List.flatMap_append

@[simp] theorem written_placeholder (p : Placeholder) (xs : List (Char ⊕ Placeholder)) :
    written (.inr p :: xs) = p.text.toList ++ written xs := rfl

theorem toList_numbered (k : Nat) : (numbered k).text.toList = '$' :: Nat.toDigits 10 k := by
  show ("$" ++ toString k).toList = _
  rw [String.toList_append, show (toString k).toList = Nat.toDigits 10 k from Nat.toList_repr]
  rfl

/-! ## Reading placeholders -/

/-- Characters and placeholders of a text with numbers, given the number that its first digits continue. -/
def readNumbered : Option Nat → List Char → List (Char ⊕ Placeholder)
  | none, [] => []
  | some k, [] => [.inr (.numbered k)]
  | none, c :: cs => if c = '$' then readNumbered (some 0) cs else .inl c :: readNumbered none cs
  | some k, c :: cs =>
    if c.isDigit then readNumbered (some (10 * k + (c.toNat - '0'.toNat))) cs
    else .inr (.numbered k) :: if c = '$' then readNumbered (some 0) cs else .inl c :: readNumbered none cs

/-- The characters and placeholders of a text. -/
def read : PlaceholderStyle → List Char → List (Char ⊕ Placeholder)
  | .dollar, cs => readNumbered none cs
  | .question, cs => cs.map fun c => if c = '?' then .inr .next else .inl c

theorem readNumbered_chars {cs : List Char} (plain : '$' ∉ cs) (rest : List Char) :
    readNumbered none (cs ++ rest) = cs.map .inl ++ readNumbered none rest := by
  induction cs with
  | nil => rfl
  | cons c cs ih =>
    obtain ⟨first, later⟩ := not_or.mp (List.mem_cons.not.mp plain)
    rw [List.cons_append, readNumbered, if_neg (Ne.symm first), ih later]
    rfl

/-- Digits are read into the number that they continue. -/
theorem readNumbered_digits {ds : List Char} (digits : ∀ d ∈ ds, d.isDigit = true) (k : Nat) (rest : List Char) :
    readNumbered (some k) (ds ++ rest) = readNumbered (some (Nat.ofDigitChars 10 ds k)) rest := by
  induction ds generalizing k with
  | nil => rfl
  | cons d ds ih =>
    obtain ⟨first, later⟩ := List.forall_mem_cons.mp digits
    rw [List.cons_append, readNumbered, if_pos first, ih later, Nat.ofDigitChars_cons]

/-- A number ends before any other character. -/
theorem readNumbered_end {rest : List Char} (ends : ∀ c ∈ rest.head?, c.isDigit = false) (k : Nat) :
    readNumbered (some k) rest = .inr (.numbered k) :: readNumbered none rest := by
  cases rest with
  | nil => rfl
  | cons c cs =>
    have other : ¬c.isDigit = true := by simp [ends c rfl]
    exact if_neg other

theorem readNumbered_placeholder {rest : List Char} (ends : ∀ c ∈ rest.head?, c.isDigit = false) (k : Nat) :
    readNumbered none ((numbered k).text.toList ++ rest) = .inr (.numbered k) :: readNumbered none rest := by
  have digits : ∀ d ∈ Nat.toDigits 10 k, d.isDigit = true :=
    fun d member => Nat.isDigit_of_mem_toDigits (by decide) (by decide) member
  rw [toList_numbered, List.cons_append, readNumbered, if_pos rfl, readNumbered_digits digits,
    Nat.ofDigitChars_ten_toDigits, readNumbered_end ends]

end Placeholder

open Placeholder

/-! ## Slots -/

/-- The characters and the values of the slots, if every slot has one. -/
def Sql.boundSymbols? (params : Params) : List Symbol → Option (List (Char ⊕ Value))
  | [] => some []
  | .char c :: xs => (boundSymbols? params xs).map (.inl c :: ·)
  | .slot name :: xs => (params.get? name).bind fun v => (boundSymbols? params xs).map (.inr v :: ·)

namespace SqlText

/-- The characters of the text and the values of its slots, if every slot has one. -/
def bound? (t : SqlText) (params : Params) : Option (List (Char ⊕ Value)) := boundSymbols? params t.symbols

/-- The number of a name among the different names of slots, in the order in which they first occur. -/
def number (t : SqlText) (name : String) : Nat := t.slotNames.eraseDups.idxOf name + 1

/-- The placeholder of the slots with a name. -/
def placeholder (t : SqlText) (name : String) : PlaceholderStyle → Placeholder
  | .dollar => .numbered (t.number name)
  | .question => .next

/-- A character, or the placeholder of a slot. -/
def placed (place : String → Placeholder) : Symbol → Char ⊕ Placeholder
  | .char c => .inl c
  | .slot name => .inr (place name)

/-- The text with a placeholder for each slot. -/
def positions (t : SqlText) (style : PlaceholderStyle) : List (Char ⊕ Placeholder) :=
  t.symbols.map (placed (t.placeholder · style))

/-- No character of the text is taken for a part of a placeholder. -/
def Unmistaken (t : SqlText) : PlaceholderStyle → Prop
  | .dollar => .char '$' ∉ t.symbols ∧ ∀ s ∈ t.slots, ∀ c ∈ s.2.toList.head?, c.isDigit = false
  | .question => .char '?' ∉ t.symbols

/-- The first of some names that has no value. -/
def FirstUnbound (params : Params) (names : List String) (name : String) : Prop :=
  ∃ before after, names = before ++ name :: after ∧ (∀ n ∈ before, (params.get? n).isSome = true) ∧
    params.get? name = none

/-- Slots as placeholders, each with the characters after it. -/
def slotPositions (place : String → Placeholder) (slots : List (String × String)) : List (Char ⊕ Placeholder) :=
  slots.flatMap fun s => .inr (place s.1) :: s.2.toList.map .inl

variable {params : Params} {slots : List (String × String)} {numbered : List String}

theorem map_placed_chars (place : String → Placeholder) (s : String) :
    (Sql.symbols s).map (placed place) = s.toList.map .inl := by
  rw [Sql.symbols, List.map_map]
  rfl

theorem positions_eq (t : SqlText) (style : PlaceholderStyle) :
    t.positions style = t.head.toList.map .inl ++ slotPositions (t.placeholder · style) t.slots := by
  rw [positions, symbols, List.map_append, map_placed_chars, List.map_flatMap]
  simp only [List.map_cons, map_placed_chars]
  rfl

/-! ## Numbers -/

/-- The names that have no number yet, each at its first occurrence. -/
def unnumbered (numbered names : List String) : List String := (names.removeAll numbered).eraseDups

theorem unnumbered_nil (names : List String) : unnumbered [] names = names.eraseDups := by
  rw [unnumbered, List.removeAll]
  simp

theorem unnumbered_cons_of_mem {name : String} (known : name ∈ numbered) (names : List String) :
    unnumbered numbered (name :: names) = unnumbered numbered names := by
  simp [unnumbered, List.removeAll, known]

theorem unnumbered_cons_of_notMem {name : String} (new : name ∉ numbered) (names : List String) :
    unnumbered numbered (name :: names) = name :: unnumbered (numbered ++ [name]) names := by
  have others : (name :: names).removeAll numbered = name :: names.removeAll numbered := by
    simp [List.removeAll, new]
  rw [unnumbered, others, List.eraseDups_cons, unnumbered]
  simp only [List.removeAll, List.filter_filter]
  congr 3
  funext n
  simp [Bool.and_comm, beq_eq_decide]

/-! ## Rendering -/

theorem written_slotPositions_cons (place : String → Placeholder) (name after : String)
    (slots : List (String × String)) : written (slotPositions place ((name, after) :: slots)) =
      (place name).text.toList ++ (after.toList ++ written (slotPositions place slots)) := by
  rw [slotPositions, List.flatMap_cons, List.cons_append, written_placeholder, written_append, written_chars]
  rfl

/-- Slots that have values are rendered without numbers, to one value for each slot. -/
theorem exists_renderSlots_question (bound : ∀ s ∈ slots, (params.get? s.1).isSome = true) (numbered : List String) :
    ∃ r, renderSlots .question params numbered slots = .ok r ∧
      r.sql.toList = written (slotPositions (fun _ => .next) slots) ∧
      params.Resolve (slots.map (·.1)) r.values := by
  induction slots with
  | nil => exact ⟨_, rfl, rfl, .nil⟩
  | cons s rest ih =>
    obtain ⟨name, after⟩ := s
    obtain ⟨first, later⟩ := List.forall_mem_cons.mp bound
    obtain ⟨v, value⟩ := Option.isSome_iff_exists.mp first
    obtain ⟨r, done, sql, resolved⟩ := ih later
    refine ⟨⟨"?" ++ after ++ r.sql, v :: r.values⟩, ?_, ?_, .cons value resolved⟩
    · simp only [renderSlots, value, done]
      rfl
    · rw [written_slotPositions_cons, String.toList_append, String.toList_append, sql, List.append_assoc]
      rfl

/-- The number of a name among names. -/
def numberIn (names : List String) (name : String) : Placeholder := .numbered (names.idxOf name + 1)

/-- Slots that have values are rendered with numbers, to one value for each name that had no number before. -/
theorem exists_renderSlots_dollar (bound : ∀ s ∈ slots, (params.get? s.1).isSome = true) (numbered : List String) :
    ∃ r, renderSlots .dollar params numbered slots = .ok r ∧
      r.sql.toList = written (slotPositions (numberIn (numbered ++ unnumbered numbered (slots.map (·.1)))) slots) ∧
      params.Resolve (unnumbered numbered (slots.map (·.1))) r.values := by
  induction slots generalizing numbered with
  | nil => exact ⟨_, rfl, rfl, .nil⟩
  | cons s rest ih =>
    obtain ⟨name, after⟩ := s
    obtain ⟨first, later⟩ := List.forall_mem_cons.mp bound
    obtain ⟨v, value⟩ := Option.isSome_iff_exists.mp first
    by_cases known : name ∈ numbered
    · obtain ⟨r, done, sql, resolved⟩ := ih later numbered
      have position : numbered.idxOf? name = some (numbered.idxOf name) := by
        obtain ⟨i, found⟩ := Option.isSome_iff_exists.mp (List.isSome_idxOf?.mpr known)
        rw [List.idxOf_eq_getD_idxOf?, found]
        rfl
      rw [List.map_cons, unnumbered_cons_of_mem known]
      refine ⟨⟨"$" ++ toString (numbered.idxOf name + 1) ++ after ++ r.sql, r.values⟩, ?_, ?_, resolved⟩
      · simp only [renderSlots, value, position, done]
        rfl
      · rw [written_slotPositions_cons, String.toList_append, String.toList_append, sql, List.append_assoc, numberIn,
          List.idxOf_append, if_pos known]
        rfl
    · obtain ⟨r, done, sql, resolved⟩ := ih later (numbered ++ [name])
      rw [List.map_cons, unnumbered_cons_of_notMem known]
      rw [List.append_assoc, List.singleton_append] at sql
      refine ⟨⟨"$" ++ toString (numbered.length + 1) ++ after ++ r.sql, v :: r.values⟩, ?_, ?_, .cons value resolved⟩
      · simp only [renderSlots, value, List.idxOf?_eq_none_iff.mpr known, done]
        rfl
      · rw [written_slotPositions_cons, String.toList_append, String.toList_append, sql, List.append_assoc, numberIn,
          List.idxOf_append, if_neg known, List.idxOf_cons_self, Nat.zero_add]
        rfl

/-! ## Unbound slots -/

theorem firstUnbound_cons_iff {n name : String} {names : List String} : FirstUnbound params (n :: names) name ↔
    params.get? n = none ∧ name = n ∨ (params.get? n).isSome = true ∧ FirstUnbound params names name := by
  constructor
  · rintro ⟨before, after, split, bound, unbound⟩
    cases before with
    | nil =>
      obtain ⟨rfl, -⟩ := List.cons.inj split
      exact .inl ⟨unbound, rfl⟩
    | cons b before =>
      obtain ⟨rfl, rest⟩ := List.cons.inj split
      obtain ⟨first, later⟩ := List.forall_mem_cons.mp bound
      exact .inr ⟨first, before, after, rest, later, unbound⟩
  · rintro (⟨unbound, rfl⟩ | ⟨first, before, after, rfl, later, unbound⟩)
    · exact ⟨[], names, rfl, nofun, unbound⟩
    · exact ⟨n :: before, after, rfl, List.forall_mem_cons.mpr ⟨first, later⟩, unbound⟩

/-- A slot that has a value does not fail by itself. -/
theorem renderSlots_cons_of_bound {name : String} {v : Value} (value : params.get? name = some v)
    (style : PlaceholderStyle) (numbered : List String) (after : String) (rest : List (String × String)) :
    ∃ (known : List String) (f : Rendered → Rendered),
      renderSlots style params numbered ((name, after) :: rest) = (renderSlots style params known rest).map f := by
  simp only [renderSlots, value]
  cases style with
  | question => exact ⟨numbered, fun r => ⟨"?" ++ after ++ r.sql, v :: r.values⟩, rfl⟩
  | dollar =>
    cases numbered.idxOf? name with
    | some i => exact ⟨numbered, fun r => ⟨"$" ++ toString (i + 1) ++ after ++ r.sql, r.values⟩, rfl⟩
    | none =>
      exact ⟨numbered ++ [name],
        fun r => ⟨"$" ++ toString (numbered.length + 1) ++ after ++ r.sql, v :: r.values⟩, rfl⟩

/-- Rendering fails at the first slot that has no value. -/
theorem renderSlots_eq_error_iff {style : PlaceholderStyle} {e : Error} :
    renderSlots style params numbered slots = .error e ↔
      ∃ name, FirstUnbound params (slots.map (·.1)) name ∧ e = .argument (.unboundParameter name) := by
  induction slots generalizing numbered with
  | nil =>
    refine iff_of_false nofun ?_
    rintro ⟨name, ⟨before, after, split, -⟩, -⟩
    cases before <;> cases split
  | cons s rest ih =>
    obtain ⟨n, after⟩ := s
    simp only [List.map_cons, firstUnbound_cons_iff]
    cases value : params.get? n with
    | none =>
      simp only [renderSlots, value, Except.error.injEq]
      simp [eq_comm]
    | some v =>
      obtain ⟨known, f, same⟩ := renderSlots_cons_of_bound value style numbered after rest
      have later := @ih known
      rw [same]
      simp only [reduceCtorEq, false_and, Option.isSome_some, true_and, false_or, ← later]
      cases renderSlots style params known rest <;> simp [Except.map]

/-! ## Values -/

/-- Values that numbers denote stand for the slots with these numbers. -/
theorem filled?_numbered {values : List Value} {number : String → Nat} {xs : List Symbol}
    (denoted : ∀ name, .slot name ∈ xs → numberedValue? values (number name) = params.get? name)
    (left : List Value) :
    filled? values left (xs.map (placed fun name => .numbered (number name))) = boundSymbols? params xs := by
  induction xs with
  | nil => rfl
  | cons x xs ih =>
    obtain later := ih fun name member => denoted name (List.mem_cons_of_mem _ member)
    cases x with
    | char c => exact congrArg (Option.map (.inl c :: ·)) later
    | slot name =>
      show (numberedValue? values (number name)).bind _ = _
      rw [denoted name List.mem_cons_self, later]
      rfl

/-- The names of slots among symbols. -/
def namesOf (xs : List Symbol) : List String :=
  xs.filterMap fun | .slot name => some name | .char _ => none

/-- Values in their order stand for the slots in their order. -/
theorem filled?_next {values left : List Value} {xs : List Symbol} (resolved : params.Resolve (namesOf xs) left) :
    filled? values left (xs.map (placed fun _ => .next)) = boundSymbols? params xs := by
  induction xs generalizing left with
  | nil => rfl
  | cons x xs ih =>
    cases x with
    | char c => exact congrArg (Option.map (.inl c :: ·)) (ih resolved)
    | slot name =>
      cases resolved with
      | @cons _ v _ left value resolved =>
        show (filled? values left _).map (.inr v :: ·) = (params.get? name).bind _
        rw [ih resolved, value]
        rfl

theorem namesOf_symbols (t : SqlText) : namesOf t.symbols = t.slotNames := by
  have chars (s : String) : namesOf (Sql.symbols s) = [] := by simp [namesOf, Sql.symbols]
  rw [symbols, namesOf, List.filterMap_append, ← namesOf, chars, List.nil_append, slotNames]
  induction t.slots with
  | nil => rfl
  | cons s rest ih =>
    rw [List.flatMap_cons, List.cons_append, List.filterMap_cons, List.filterMap_append, ← namesOf, chars, ih]
    rfl

theorem exists_boundSymbols? {xs : List Symbol} (bound : ∀ name ∈ namesOf xs, (params.get? name).isSome = true) :
    ∃ filled, boundSymbols? params xs = some filled := by
  induction xs with
  | nil => exact ⟨[], rfl⟩
  | cons x xs ih =>
    cases x with
    | char c =>
      obtain ⟨filled, rest⟩ := ih bound
      refine ⟨.inl c :: filled, ?_⟩
      rw [boundSymbols?, rest]
      rfl
    | slot name =>
      obtain ⟨first, later⟩ := List.forall_mem_cons.mp (show ∀ n ∈ name :: namesOf xs, _ from bound)
      obtain ⟨v, value⟩ := Option.isSome_iff_exists.mp first
      obtain ⟨filled, rest⟩ := ih later
      refine ⟨.inr v :: filled, ?_⟩
      rw [boundSymbols?, value, rest]
      rfl

/-- Names and values stand at the same places. -/
theorem getElem?_of_resolve {names : List String} {vs : List Value} (resolved : params.Resolve names vs) {i : Nat}
    {name : String} (place : names[i]? = some name) : vs[i]? = params.get? name := by
  induction resolved generalizing i with
  | nil => cases place
  | cons value _ ih =>
    cases i with
    | zero =>
      obtain rfl := Option.some.inj place
      exact value.symm
    | succ i => exact ih place

/-- The value with the number of a slot is that of the slot. -/
theorem numberedValue?_number {t : SqlText} {vs : List Value} (resolved : params.Resolve t.slotNames.eraseDups vs)
    {name : String} (member : name ∈ t.slotNames) : numberedValue? vs (t.number name) = params.get? name :=
  getElem?_of_resolve resolved (List.getElem?_idxOf (List.mem_eraseDups.mpr member))

/-! ## Read back -/

theorem read_next {xs : List Symbol} (plain : .char '?' ∉ xs) :
    read .question (written (xs.map (placed fun _ => .next))) = xs.map (placed fun _ => .next) := by
  induction xs with
  | nil => rfl
  | cons x xs ih =>
    obtain ⟨first, later⟩ := not_or.mp (List.mem_cons.not.mp plain)
    cases x with
    | char c =>
      have other : c ≠ '?' := fun same => first (same ▸ rfl)
      show (if c = '?' then _ else _) :: read .question (written (xs.map _)) = _
      rw [if_neg other, ih later]
      rfl
    | slot name =>
      rw [List.map_cons, placed, written_placeholder]
      exact congrArg (Sum.inr next :: ·) (ih later)

theorem read_numbered {number : String → Nat} {slots : List (String × String)} (plain : ∀ s ∈ slots, '$' ∉ s.2.toList)
    (apart : ∀ s ∈ slots, ∀ c ∈ s.2.toList.head?, c.isDigit = false) :
    readNumbered none (written (slotPositions (fun name => .numbered (number name)) slots)) =
      slotPositions (fun name => .numbered (number name)) slots := by
  induction slots with
  | nil => rfl
  | cons s rest ih =>
    obtain ⟨name, after⟩ := s
    obtain ⟨first, later⟩ := List.forall_mem_cons.mp plain
    obtain ⟨ends, laterEnds⟩ := List.forall_mem_cons.mp apart
    -- a number ends where the characters after the slot begin or, without any, at the next placeholder
    have ends : ∀ c ∈ (after.toList ++ written (slotPositions (fun name => .numbered (number name)) rest)).head?,
        c.isDigit = false := by
      cases chars : after.toList with
      | cons c cs => simpa [chars] using ends
      | nil =>
        cases rest with
        | nil => exact nofun
        | cons s rest =>
          rw [List.nil_append, written_slotPositions_cons, toList_numbered]
          intro c first
          obtain rfl := Option.some.inj first
          decide
    rw [written_slotPositions_cons, readNumbered_placeholder ends, readNumbered_chars first, ih later laterEnds]
    rfl

theorem read_positions {t : SqlText} {style : PlaceholderStyle} (clear : t.Unmistaken style) :
    read style (written (t.positions style)) = t.positions style := by
  cases style with
  | question => exact read_next clear
  | dollar =>
    obtain ⟨plain, apart⟩ := clear
    rw [symbols, List.mem_append, not_or] at plain
    obtain ⟨head, slots⟩ := plain
    have inChars {s : String} (member : '$' ∈ s.toList) : Symbol.char '$' ∈ Sql.symbols s :=
      List.mem_map.mpr ⟨_, member, rfl⟩
    have after : ∀ s ∈ t.slots, '$' ∉ s.2.toList := fun s member inside =>
      slots (List.mem_flatMap.mpr ⟨s, member, List.mem_cons_of_mem _ (inChars inside)⟩)
    rw [positions_eq, written_append, written_chars]
    show readNumbered none _ = _
    rw [readNumbered_chars fun inside => head (inChars inside)]
    exact congrArg (_ ++ ·) (read_numbered after apart)

/-- The names whose values a rendered text has, in their order. -/
def valueNames (t : SqlText) : PlaceholderStyle → List String
  | .dollar => t.slotNames.eraseDups
  | .question => t.slotNames

/-- A text whose slots have values is rendered. -/
theorem exists_render {t : SqlText} (bound : ∀ name ∈ t.slotNames, (params.get? name).isSome = true)
    (style : PlaceholderStyle) : ∃ r, t.render style params = .ok r ∧
      r.sql.toList = written (t.positions style) ∧ params.Resolve (t.valueNames style) r.values := by
  have bound : ∀ s ∈ t.slots, (params.get? s.1).isSome = true :=
    fun s member => bound s.1 (List.mem_map.mpr ⟨s, member, rfl⟩)
  obtain ⟨r, done, sql, resolved⟩ : ∃ r, renderSlots style params [] t.slots = .ok r ∧
      r.sql.toList = written (slotPositions (t.placeholder · style) t.slots) ∧
      params.Resolve (t.valueNames style) r.values := by
    cases style with
    | question => exact exists_renderSlots_question bound []
    | dollar =>
      obtain ⟨r, done, sql, resolved⟩ := exists_renderSlots_dollar bound []
      rw [List.nil_append, unnumbered_nil] at sql
      rw [unnumbered_nil] at resolved
      exact ⟨r, done, sql, resolved⟩
  refine ⟨⟨t.head ++ r.sql, r.values⟩, ?_, ?_, resolved⟩
  · rw [render, done]
    rfl
  · rw [String.toList_append, sql, positions_eq, written_append, written_chars]

theorem filled?_positions {t : SqlText} {style : PlaceholderStyle} {vs : List Value}
    (resolved : params.Resolve (t.valueNames style) vs) : filled? vs vs (t.positions style) = t.bound? params := by
  cases style with
  | question => exact filled?_next (by rwa [namesOf_symbols])
  | dollar =>
    refine filled?_numbered (fun name member => numberedValue?_number resolved ?_) vs
    rw [← namesOf_symbols]
    exact List.mem_filterMap.mpr ⟨_, member, rfl⟩

theorem render_eq_error_iff {t : SqlText} {style : PlaceholderStyle} {e : Error} :
    t.render style params = .error e ↔
      ∃ name, FirstUnbound params t.slotNames name ∧ e = .argument (.unboundParameter name) := by
  have slots : renderSlots style params [] t.slots = .error e ↔
      ∃ name, FirstUnbound params t.slotNames name ∧ e = .argument (.unboundParameter name) := renderSlots_eq_error_iff
  rw [← slots, render]
  cases renderSlots style params [] t.slots <;> simp [Except.map]

/-- What is rendered has values for all slots. -/
theorem bound_of_render {t : SqlText} {style : PlaceholderStyle} {r : Rendered} (done : t.render style params = .ok r) :
    ∀ name ∈ t.slotNames, (params.get? name).isSome = true := by
  have first {names : List String} {name : String} (member : name ∈ names) (unbound : params.get? name = none) :
      ∃ n, FirstUnbound params names n := by
    induction names with
    | nil => cases member
    | cons n names ih =>
      simp only [firstUnbound_cons_iff]
      cases value : params.get? n with
      | none => exact ⟨n, .inl ⟨rfl, rfl⟩⟩
      | some v =>
        have later : name ∈ names := by
          refine (List.mem_cons.mp member).resolve_left ?_
          rintro rfl
          rw [unbound] at value
          cases value
        obtain ⟨m, found⟩ := ih later
        exact ⟨m, .inr ⟨rfl, found⟩⟩
  intro name member
  by_contra unbound
  obtain ⟨n, found⟩ := first member (Option.not_isSome_iff_eq_none.mp unbound)
  rw [render_eq_error_iff.mpr ⟨n, found, rfl⟩] at done
  cases done

/-- Rendering fails exactly if some slot has no value, and its error names the first such slot. Otherwise, what is
rendered is the text with a placeholder for each slot. The values in the places of the placeholders that denote
them are those that the parameters have for the slots, and the placeholders are read back from the rendered text
if no other character is taken for a part of one. Without numbers there is one value for each slot; with numbers
there is one for each different name, in the order in which the names first occur, each slot has the number of
the value of its name, and different names have different numbers. -/
theorem placeholders_denote_slots (t : SqlText) (params : Params) :
    (∀ (style : PlaceholderStyle) (e : Error), t.render style params = .error e ↔
      ∃ name, FirstUnbound params t.slotNames name ∧ e = .argument (.unboundParameter name)) ∧
    (∀ style : PlaceholderStyle, (∃ r, t.render style params = .ok r) ↔
      ∀ name ∈ t.slotNames, (params.get? name).isSome = true) ∧
    (∀ (style : PlaceholderStyle) (r : Rendered), t.render style params = .ok r →
      r.sql.toList = written (t.positions style) ∧
      (∃ filled, t.bound? params = some filled ∧ filled? r.values r.values (t.positions style) = some filled) ∧
      (t.Unmistaken style → read style r.sql.toList = t.positions style)) ∧
    (∀ r, t.render .question params = .ok r → params.Resolve t.slotNames r.values) ∧
    ∀ r, t.render .dollar params = .ok r →
      params.Resolve t.slotNames.eraseDups r.values ∧
      ∀ name ∈ t.slotNames, 1 ≤ t.number name ∧ t.number name ≤ r.values.length ∧
        r.values[t.number name - 1]? = params.get? name ∧
        ∀ other ∈ t.slotNames, t.number other = t.number name ↔ other = name := by
  have rendered {style : PlaceholderStyle} {r : Rendered} (done : t.render style params = .ok r) :
      r.sql.toList = written (t.positions style) ∧ params.Resolve (t.valueNames style) r.values := by
    obtain ⟨r', done', shown⟩ := exists_render (bound_of_render done) style
    rw [done] at done'
    cases done'
    exact shown
  refine ⟨fun style e => render_eq_error_iff, fun style => ?_, fun style r done => ?_, fun r done => (rendered done).2,
    fun r done => ?_⟩
  · constructor
    · rintro ⟨r, done⟩
      exact bound_of_render done
    · intro bound
      obtain ⟨r, done, -⟩ := exists_render bound style
      exact ⟨r, done⟩
  · obtain ⟨sql, resolved⟩ := rendered done
    refine ⟨sql, ?_, fun clear => ?_⟩
    · rw [filled?_positions resolved, bound?]
      have bound : ∀ name ∈ namesOf t.symbols, (params.get? name).isSome = true := by
        rw [namesOf_symbols]
        exact bound_of_render done
      obtain ⟨filled, found⟩ := exists_boundSymbols? bound
      exact ⟨filled, found, found⟩
    · rw [sql]
      exact read_positions clear
  · obtain ⟨-, resolved⟩ := rendered done
    refine ⟨resolved, fun name member => ⟨Nat.le_add_left 1 _, ?_, ?_, fun other member' => ?_⟩⟩
    · rw [← resolved.length_eq]
      exact List.idxOf_lt_length_iff.mpr (List.mem_eraseDups.mpr member)
    · exact numberedValue?_number resolved member
    · rw [number, number, Nat.add_right_cancel_iff]
      exact List.idxOf_inj (List.mem_eraseDups.mpr member')

/-- A name between two slots of another one, with parameters in the other order. -/
theorem placeholders_denote_slots_of_repeated :
    let t : SqlText := ⟨"a = ", [("a_1", " AND (b = "), ("b_2", " OR c = "), ("a_1", ")")]⟩
    let params : Params := .ofList [("b_2", .text "x"), ("a_1", .int 1)]
    ∃ r, t.render .dollar params = .ok r ∧ r.sql = "a = $1 AND (b = $2 OR c = $1)" ∧
      params.Resolve ["a_1", "b_2"] r.values ∧ read .dollar r.sql.toList = t.positions .dollar ∧
      t.number "b_2" = 2 ∧ r.values[1]? = some (.text "x") := by
  intro t params
  have done : t.render .dollar params =
      .ok ⟨"a = $1 AND (b = $2 OR c = $1)", [.int 1, .text "x"]⟩ := by rfl
  have clear : t.Unmistaken .dollar := by
    refine ⟨?_, ?_⟩
    · simp [t, symbols, Sql.symbols]
    · simp [t]
  obtain ⟨-, -, substituted, -, numbered⟩ := placeholders_denote_slots t params
  obtain ⟨resolved, each⟩ := numbered _ done
  refine ⟨_, done, rfl, resolved, (substituted .dollar _ done).2.2 clear, rfl, ?_⟩
  exact (each "b_2" (by decide)).2.2.1

end SqlText
end Sift
