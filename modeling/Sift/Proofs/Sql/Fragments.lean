import Sift.Proofs.Sql.Printing
import Mathlib.Data.List.Chain

/-!
# Texts as fragments

A text can be put together from fragments, strings of characters and slots, each of
which is added to the last ones. Characters that meet become one fragment, so what is
put together is in a canonical form that its characters and slots decide. The texts
are these lists of fragments.
-/
namespace Sift

/-- Characters, or a slot. -/
inductive Fragment where
  | chars (s : String)
  | slot (name : String)
deriving DecidableEq

/-- A text that is put together, as the list of its fragments. -/
abbrev Fragments := List Fragment

/-- A call that makes a text longer, with other texts that are given to it. -/
inductive TextCall (τ : Type) where
  | push (sql : String)
  | pushSlot (name : String)
  | pushText (other : τ)
  | pushJoined (items : List τ) (separator : String)

/-! ## Putting fragments together -/

namespace Fragments

/-- Characters join those that stand last. Without characters nothing is added. -/
def push (t : Fragments) (sql : String) : Fragments :=
  if sql.isEmpty then t
  else match t.getLast? with
    | some (.chars last) => t.dropLast ++ [.chars (last ++ sql)]
    | _ => t ++ [.chars sql]

def pushSlot (t : Fragments) (name : String) : Fragments := t ++ [.slot name]

def add (t : Fragments) : Fragment → Fragments
  | .chars s => t.push s
  | .slot name => t.pushSlot name

/-- The fragments of another text are added one by one. -/
def pushText (t other : Fragments) : Fragments := other.foldl add t

/-- Texts with a separator before each but the first. -/
def pushJoined (t : Fragments) (separator : String) : List Fragments → Fragments
  | [] => t
  | first :: rest => rest.foldl (fun t item => (t.push separator).pushText item) (t.pushText first)

def call (t : Fragments) : TextCall Fragments → Fragments
  | .push sql => t.push sql
  | .pushSlot name => t.pushSlot name
  | .pushText other => t.pushText other
  | .pushJoined items separator => t.pushJoined separator items

/-- A new text with what calls add to it. -/
def built (initial : String) (calls : List (TextCall Fragments)) : Fragments :=
  calls.foldl call (push [] initial)

/-- No fragment is without characters, and no two fragments of characters meet. -/
structure Canonical (t : Fragments) : Prop where
  nonempty : .chars "" ∉ t
  merged : t.IsChain fun f g => ∀ a b, f = .chars a → g ≠ .chars b

end Fragments

namespace SqlText

def call (t : SqlText) : TextCall SqlText → SqlText
  | .push sql => t ++ raw sql
  | .pushSlot name => t ++ slot name
  | .pushText other => t ++ other
  | .pushJoined items separator => t ++ join separator items

/-- A new text with what calls add to it. -/
def built (initial : String) (calls : List (TextCall SqlText)) : SqlText := calls.foldl call (raw initial)

/-- The characters of a string as a fragment, if there are any. -/
def ofChars (s : String) : Fragments := if s.isEmpty then [] else [.chars s]

/-- The fragments of a text. -/
def fragments (t : SqlText) : Fragments :=
  ofChars t.head ++ t.slots.flatMap fun s => .slot s.1 :: ofChars s.2

end SqlText

/-! ## Characters and slots -/

namespace Sql

variable {xs ys : List Symbol}

theorem map_char_append_inj {cs ds : List Char} (ends : ∀ c rest, xs ≠ .char c :: rest)
    (ends' : ∀ c rest, ys ≠ .char c :: rest) (same : cs.map Symbol.char ++ xs = ds.map .char ++ ys) :
    cs = ds ∧ xs = ys := by
  induction cs generalizing ds with
  | nil =>
    cases ds with
    | nil => exact ⟨rfl, same⟩
    | cons d ds => exact absurd same (ends d _)
  | cons c cs ih =>
    cases ds with
    | nil => exact absurd same.symm (ends' c _)
    | cons d ds =>
      obtain ⟨first, rest⟩ := List.cons.inj same
      obtain ⟨chars, rest⟩ := ih rest
      exact ⟨by rw [Symbol.char.inj first, chars], rest⟩

/-- Characters up to a slot or the end are told from what follows them. -/
theorem symbols_append_inj {s r : String} (ends : ∀ c rest, xs ≠ .char c :: rest)
    (ends' : ∀ c rest, ys ≠ .char c :: rest) (same : symbols s ++ xs = symbols r ++ ys) : s = r ∧ xs = ys := by
  obtain ⟨chars, rest⟩ := map_char_append_inj ends ends' same
  exact ⟨String.toList_inj.mp chars, rest⟩

end Sql

def Fragment.symbols : Fragment → List Sql.Symbol
  | .chars s => Sql.symbols s
  | .slot name => [.slot name]

/-- What a call adds, given the characters and slots of the texts that it is given. -/
def TextCall.symbols {τ : Type} (of : τ → List Sql.Symbol) : TextCall τ → List Sql.Symbol
  | .push sql => Sql.symbols sql
  | .pushSlot name => [.slot name]
  | .pushText other => of other
  | .pushJoined [] _ => []
  | .pushJoined (first :: rest) separator => of first ++ rest.flatMap fun item => Sql.symbols separator ++ of item

def TextCall.map {τ υ : Type} (f : τ → υ) : TextCall τ → TextCall υ
  | .push sql => .push sql
  | .pushSlot name => .pushSlot name
  | .pushText other => .pushText (f other)
  | .pushJoined items separator => .pushJoined (items.map f) separator

theorem TextCall.symbols_map {τ υ : Type} {f : τ → υ} {of : υ → List Sql.Symbol} {of' : τ → List Sql.Symbol}
    (same : ∀ t, of (f t) = of' t) (c : TextCall τ) : (c.map f).symbols of = c.symbols of' := by
  cases c with
  | push sql => rfl
  | pushSlot name => rfl
  | pushText other => exact same other
  | pushJoined items separator =>
    cases items with
    | nil => rfl
    | cons first rest => simp only [map, List.map_cons, symbols, same, List.flatMap_map]

/-- Calls that each add their own characters and slots at the end add those of all in their order. -/
theorem TextCall.symbols_foldl {τ : Type} {of : τ → List Sql.Symbol} {call : τ → TextCall τ → τ}
    (each : ∀ t c, of (call t c) = of t ++ c.symbols of) (t : τ) (calls : List (TextCall τ)) :
    of (calls.foldl call t) = of t ++ calls.flatMap (symbols of) := by
  induction calls generalizing t with
  | nil => exact (List.append_nil _).symm
  | cons c rest ih => rw [List.foldl_cons, ih, each, List.flatMap_cons, List.append_assoc]

namespace Fragments

variable {t u : Fragments} {f g : Fragment}

/-- The characters and slots of a list of fragments. -/
def symbols (t : Fragments) : List Sql.Symbol := t.flatMap Fragment.symbols

theorem symbols_append (t u : Fragments) : symbols (t ++ u) = t.symbols ++ u.symbols := List.flatMap_append

theorem symbols_cons (f : Fragment) (t : Fragments) : symbols (f :: t) = f.symbols ++ t.symbols := List.flatMap_cons

theorem symbols_concat (t : Fragments) (f : Fragment) : symbols (t ++ [f]) = t.symbols ++ f.symbols := by
  rw [symbols_append]
  simp [symbols]

/-- The last fragment of characters apart from the others. -/
theorem eq_concat_of_getLast? {last : String} (ends : t.getLast? = some (.chars last)) :
    t = t.dropLast ++ [.chars last] :=
  (List.dropLast_append_getLast? _ ends).symm

theorem symbols_push (t : Fragments) (sql : String) : (t.push sql).symbols = t.symbols ++ Sql.symbols sql := by
  unfold push
  split
  next none =>
    rw [String.isEmpty_iff.mp none]
    simp [Sql.symbols]
  next =>
    split
    next last ends =>
      have whole := congrArg symbols (eq_concat_of_getLast? ends)
      rw [symbols_concat] at whole ⊢
      rw [whole, Fragment.symbols, Fragment.symbols, Sql.symbols_append, List.append_assoc]
    next => exact symbols_concat t (.chars sql)

theorem symbols_add (t : Fragments) (f : Fragment) : (t.add f).symbols = t.symbols ++ f.symbols := by
  cases f with
  | chars s => exact symbols_push t s
  | slot name => exact symbols_concat t (.slot name)

theorem symbols_pushText (t other : Fragments) : (t.pushText other).symbols = t.symbols ++ other.symbols := by
  induction other generalizing t with
  | nil => exact (List.append_nil _).symm
  | cons f rest ih =>
    show ((t.add f).pushText rest).symbols = _
    rw [ih, symbols_add, symbols_cons, List.append_assoc]

theorem symbols_pushJoined (t : Fragments) (separator : String) (items : List Fragments) :
    (t.pushJoined separator items).symbols = t.symbols ++ (TextCall.pushJoined items separator).symbols symbols := by
  cases items with
  | nil => exact (List.append_nil _).symm
  | cons first rest =>
    show (rest.foldl (fun t item => (t.push separator).pushText item) (t.pushText first)).symbols =
      t.symbols ++ (first.symbols ++ rest.flatMap fun item => Sql.symbols separator ++ item.symbols)
    rw [← List.append_assoc, ← symbols_pushText]
    generalize t.pushText first = t
    induction rest generalizing t with
    | nil => exact (List.append_nil _).symm
    | cons item rest ih =>
      rw [List.foldl_cons, ih, symbols_pushText, symbols_push, List.flatMap_cons, List.append_assoc, List.append_assoc,
        List.append_assoc]

/-- A call adds its own characters and slots at the end. -/
theorem symbols_call (t : Fragments) (c : TextCall Fragments) :
    (t.call c).symbols = t.symbols ++ c.symbols symbols := by
  cases c with
  | push sql => exact symbols_push t sql
  | pushSlot name => exact symbols_concat t (.slot name)
  | pushText other => exact symbols_pushText t other
  | pushJoined items separator => exact symbols_pushJoined t separator items

theorem symbols_built (initial : String) (calls : List (TextCall Fragments)) :
    (built initial calls).symbols = Sql.symbols initial ++ calls.flatMap (TextCall.symbols symbols) :=
  (TextCall.symbols_foldl symbols_call _ calls).trans (congrArg (· ++ _) (symbols_push [] initial))

/-! ## The canonical form -/

theorem canonical_nil : Canonical [] := ⟨List.not_mem_nil, .nil⟩

theorem canonical_cons_iff :
    Canonical (f :: t) ↔ f ≠ .chars "" ∧ (∀ g ∈ t.head?, ∀ a b, f = .chars a → g ≠ .chars b) ∧ t.Canonical := by
  constructor
  · rintro ⟨nonempty, merged⟩
    obtain ⟨first, rest⟩ := not_or.mp (List.mem_cons.not.mp nonempty)
    obtain ⟨apart, merged⟩ := List.isChain_cons.mp merged
    exact ⟨Ne.symm first, apart, rest, merged⟩
  · rintro ⟨first, apart, rest, merged⟩
    exact ⟨List.mem_cons.not.mpr (not_or.mpr ⟨first.symm, rest⟩), List.isChain_cons.mpr ⟨apart, merged⟩⟩

theorem canonical_concat_iff :
    Canonical (t ++ [f]) ↔ t.Canonical ∧ (∀ g ∈ t.getLast?, ∀ a b, g = .chars a → f ≠ .chars b) ∧ f ≠ .chars "" := by
  constructor
  · rintro ⟨nonempty, merged⟩
    obtain ⟨front, last⟩ := not_or.mp (List.mem_append.not.mp nonempty)
    obtain ⟨merged, -, apart⟩ := List.isChain_append.mp merged
    exact ⟨⟨front, merged⟩, fun g ends => apart g ends f rfl, fun empty => last (empty ▸ List.mem_singleton_self _)⟩
  · rintro ⟨⟨nonempty, merged⟩, apart, some⟩
    refine ⟨List.mem_append.not.mpr (not_or.mpr ⟨nonempty, fun empty => some (List.mem_singleton.mp empty).symm⟩), ?_⟩
    refine List.isChain_append.mpr ⟨merged, .singleton f, fun g ends h only => ?_⟩
    obtain rfl : f = h := by simpa using only
    exact apart g ends

theorem Canonical.pushSlot (canonical : t.Canonical) (name : String) : (t.pushSlot name).Canonical :=
  canonical_concat_iff.mpr ⟨canonical, nofun, nofun⟩

theorem Canonical.push (canonical : t.Canonical) (sql : String) : (t.push sql).Canonical := by
  unfold Fragments.push
  split
  next => exact canonical
  next some =>
    have nonempty (s : String) : Fragment.chars (s ++ sql) ≠ .chars "" := by
      simpa using fun _ => some
    split
    next last ends =>
      -- what stands before the last characters is a slot, if anything, and meets the longer ones no more than these
      have whole := eq_concat_of_getLast? ends
      obtain ⟨front, apart, -⟩ := canonical_concat_iff.mp (whole ▸ canonical)
      have kept : ∀ g ∈ t.dropLast.getLast?, ∀ a b, g = .chars a → Fragment.chars (last ++ sql) ≠ .chars b :=
        fun g before a _ same => absurd rfl (apart g before a last same)
      exact canonical_concat_iff.mpr ⟨front, kept, nonempty last⟩
    next slot =>
      have apart : ∀ g ∈ t.getLast?, ∀ a b, g = .chars a → Fragment.chars sql ≠ .chars b := by
        rintro g ends a b rfl
        exact absurd ends (slot a)
      exact canonical_concat_iff.mpr ⟨canonical, apart, by simpa using nonempty ""⟩

theorem Canonical.add (canonical : t.Canonical) (f : Fragment) : (t.add f).Canonical := by
  cases f with
  | chars s => exact canonical.push s
  | slot name => exact canonical.pushSlot name

theorem Canonical.pushText (canonical : t.Canonical) (other : Fragments) : (t.pushText other).Canonical := by
  induction other generalizing t with
  | nil => exact canonical
  | cons f rest ih => exact ih (canonical.add f)

theorem Canonical.pushJoined (canonical : t.Canonical) (separator : String) (items : List Fragments) :
    (t.pushJoined separator items).Canonical := by
  cases items with
  | nil => exact canonical
  | cons first rest =>
    show Canonical (rest.foldl (fun t item => (t.push separator).pushText item) (t.pushText first))
    have start := canonical.pushText first
    generalize t.pushText first = t at start
    induction rest generalizing t with
    | nil => exact start
    | cons item rest ih => exact ih _ ((start.push separator).pushText item)

/-- A call keeps the canonical form, whatever the texts that it is given. -/
theorem Canonical.call (canonical : t.Canonical) (c : TextCall Fragments) : (t.call c).Canonical := by
  cases c with
  | push sql => exact canonical.push sql
  | pushSlot name => exact canonical.pushSlot name
  | pushText other => exact canonical.pushText other
  | pushJoined items separator => exact canonical.pushJoined separator items

theorem canonical_built (initial : String) (calls : List (TextCall Fragments)) : (built initial calls).Canonical := by
  have start : Canonical (push [] initial) := canonical_nil.push initial
  rw [built]
  generalize push [] initial = t at start
  induction calls generalizing t with
  | nil => exact start
  | cons c rest ih => exact ih _ (start.call c)

/-! ## What characters and slots decide -/

/-- What follows characters does not go on with others. -/
theorem Canonical.symbols_ne_char {s : String} (canonical : Canonical (.chars s :: t)) (c : Char)
    (rest : List Sql.Symbol) : t.symbols ≠ .char c :: rest := by
  obtain ⟨-, apart, -⟩ := canonical_cons_iff.mp canonical
  cases t with
  | nil => nofun
  | cons f t =>
    cases f with
    | chars r => exact absurd rfl (apart _ rfl s r rfl)
    | slot name => nofun

/-- Characters start with a character. -/
theorem Canonical.symbols_ne_of_chars {s : String} (canonical : Canonical (.chars s :: t)) {xs : List Sql.Symbol}
    (other : ∀ c rest, xs ≠ .char c :: rest) : symbols (.chars s :: t) ≠ xs := by
  intro same
  obtain ⟨some, -⟩ := canonical_cons_iff.mp canonical
  obtain ⟨empty, -⟩ := Sql.symbols_append_inj (r := "") canonical.symbols_ne_char other same
  exact some (congrArg Fragment.chars empty)

theorem Canonical.symbols_ne_nil (canonical : Canonical (f :: t)) : symbols (f :: t) ≠ [] := by
  cases f with
  | chars s => exact canonical.symbols_ne_of_chars fun _ _ => (List.cons_ne_nil _ _).symm
  | slot name => exact List.cons_ne_nil _ _

/-- The first fragments of the same characters and slots. -/
theorem Canonical.cons_inj (canonical : Canonical (f :: t)) (canonical' : Canonical (g :: u))
    (same : symbols (f :: t) = symbols (g :: u)) : f = g ∧ t.symbols = u.symbols := by
  cases f with
  | chars s =>
    cases g with
    | chars r =>
      obtain ⟨chars, rest⟩ := Sql.symbols_append_inj canonical.symbols_ne_char canonical'.symbols_ne_char same
      exact ⟨congrArg Fragment.chars chars, rest⟩
    | slot name => exact absurd same (canonical.symbols_ne_of_chars nofun)
  | slot name =>
    cases g with
    | chars r => exact absurd same.symm (canonical'.symbols_ne_of_chars nofun)
    | slot name' =>
      obtain ⟨first, rest⟩ := List.cons.inj same
      exact ⟨congrArg Fragment.slot (Sql.Symbol.slot.inj first), rest⟩

/-- In canonical form, the same characters and slots are the same fragments. -/
theorem Canonical.eq_of_symbols (canonical : t.Canonical) (canonical' : u.Canonical) (same : t.symbols = u.symbols) :
    t = u := by
  induction t generalizing u with
  | nil =>
    cases u with
    | nil => rfl
    | cons g u => exact absurd same.symm canonical'.symbols_ne_nil
  | cons f t ih =>
    cases u with
    | nil => exact absurd same canonical.symbols_ne_nil
    | cons g u =>
      obtain ⟨first, rest⟩ := canonical.cons_inj canonical' same
      have tails := ih (canonical_cons_iff.mp canonical).2.2 (canonical_cons_iff.mp canonical').2.2 rest
      rw [first, tails]

end Fragments

/-! ## Texts -/

namespace SqlText

open Fragments (Canonical)

theorem symbols_ofChars (s : String) : (ofChars s).symbols = Sql.symbols s := by
  rw [ofChars]
  split
  next none =>
    rw [String.isEmpty_iff.mp none]
    rfl
  next => exact List.flatMap_singleton _ _

theorem symbols_fragments (t : SqlText) : t.fragments.symbols = t.symbols := by
  rw [fragments, Fragments.symbols_append, symbols_ofChars, symbols, Fragments.symbols, List.flatMap_assoc]
  refine congrArg _ (List.flatMap_congr fun s _ => ?_)
  show Fragment.symbols (.slot s.1) ++ (ofChars s.2).symbols = _
  rw [symbols_ofChars]
  rfl

/-- Characters before what does not start with characters. -/
theorem canonical_ofChars_append (s : String) {t : Fragments} (canonical : t.Canonical)
    (apart : ∀ b, .chars b ∉ t.head?) : Canonical (ofChars s ++ t) := by
  rw [ofChars]
  split
  next => exact canonical
  next some =>
    refine Fragments.canonical_cons_iff.mpr ⟨?_, fun g first a b _ same => apart b (same ▸ first), canonical⟩
    simpa using some

theorem canonical_slots (slots : List (String × String)) :
    Canonical (slots.flatMap fun s => .slot s.1 :: ofChars s.2) ∧
      ∀ b, .chars b ∉ (slots.flatMap fun s => Fragment.slot s.1 :: ofChars s.2).head? := by
  induction slots with
  | nil => exact ⟨Fragments.canonical_nil, nofun⟩
  | cons s rest ih =>
    have after := canonical_ofChars_append s.2 ih.1 ih.2
    exact ⟨Fragments.canonical_cons_iff.mpr ⟨nofun, nofun, after⟩, nofun⟩

theorem canonical_fragments (t : SqlText) : t.fragments.Canonical :=
  canonical_ofChars_append t.head (canonical_slots t.slots).1 (canonical_slots t.slots).2

theorem symbols_slots_ne_char (slots : List (String × String)) (c : Char) (rest : List Sql.Symbol) :
    (slots.flatMap fun s => Sql.Symbol.slot s.1 :: Sql.symbols s.2) ≠ .char c :: rest := by
  cases slots <;> nofun

theorem slots_inj {ss rs : List (String × String)}
    (same : (ss.flatMap fun s => .slot s.1 :: Sql.symbols s.2) =
      rs.flatMap fun s => Sql.Symbol.slot s.1 :: Sql.symbols s.2) : ss = rs := by
  induction ss generalizing rs with
  | nil =>
    cases rs with
    | nil => rfl
    | cons r rs => cases same
  | cons s ss ih =>
    cases rs with
    | nil => cases same
    | cons r rs =>
      obtain ⟨name, rest⟩ := List.cons.inj same
      obtain ⟨after, rest⟩ := Sql.symbols_append_inj (symbols_slots_ne_char ss) (symbols_slots_ne_char rs) rest
      rw [Prod.ext (Sql.Symbol.slot.inj name) after, ih rest]

/-- Texts with the same characters and slots are the same. -/
theorem eq_of_symbols {t u : SqlText} (same : t.symbols = u.symbols) : t = u := by
  obtain ⟨head, slots⟩ := Sql.symbols_append_inj (symbols_slots_ne_char t.slots) (symbols_slots_ne_char u.slots) same
  cases t
  cases u
  exact congr (congrArg SqlText.mk head) (slots_inj slots)

theorem exists_symbols (fs : Fragments) : ∃ t : SqlText, t.symbols = fs.symbols := by
  induction fs with
  | nil => exact ⟨empty, symbols_empty⟩
  | cons f rest ih =>
    obtain ⟨t, same⟩ := ih
    cases f with
    | chars s => exact ⟨raw s ++ t, by rw [symbols_append, symbols_raw, same]; rfl⟩
    | slot name => exact ⟨slot name ++ t, by rw [symbols_append, symbols_slot, same]; rfl⟩

/-- The lists in canonical form are the fragments of texts, each of one text. -/
theorem canonical_iff_existsUnique {fs : Fragments} : fs.Canonical ↔ ∃! t : SqlText, t.fragments = fs := by
  constructor
  · intro canonical
    obtain ⟨t, same⟩ := exists_symbols fs
    refine ⟨t, (canonical_fragments t).eq_of_symbols canonical ((symbols_fragments t).trans same), fun u stands => ?_⟩
    exact eq_of_symbols (by rw [← symbols_fragments, stands, same])
  · rintro ⟨t, rfl, -⟩
    exact canonical_fragments t

theorem symbols_joined (separator : String) (items : List SqlText) :
    (join separator items).symbols = (TextCall.pushJoined items separator).symbols symbols := by
  cases items with
  | nil => exact symbols_empty
  | cons first rest =>
    induction rest generalizing first with
    | nil => exact (List.append_nil _).symm
    | cons item rest ih =>
      show (first ++ raw separator ++ join separator (item :: rest)).symbols = _
      rw [symbols_append, symbols_append, symbols_raw, ih, List.append_assoc, TextCall.symbols, TextCall.symbols,
        List.flatMap_cons, List.append_assoc]

theorem symbols_call (t : SqlText) (c : TextCall SqlText) : (t.call c).symbols = t.symbols ++ c.symbols symbols := by
  cases c with
  | push sql => exact (symbols_append t _).trans (congrArg _ (symbols_raw sql))
  | pushSlot name => exact (symbols_append t _).trans (congrArg _ (symbols_slot name))
  | pushText other => exact symbols_append t other
  | pushJoined items separator => exact (symbols_append t _).trans (congrArg _ (symbols_joined separator items))

theorem symbols_built (initial : String) (calls : List (TextCall SqlText)) :
    (built initial calls).symbols = Sql.symbols initial ++ calls.flatMap (TextCall.symbols symbols) :=
  (TextCall.symbols_foldl symbols_call _ calls).trans (congrArg (· ++ _) (symbols_raw initial))

/-- The same calls give a text and its fragments. -/
theorem fragments_built (initial : String) (calls : List (TextCall SqlText)) :
    (built initial calls).fragments = Fragments.built initial (calls.map (TextCall.map fragments)) := by
  refine (canonical_fragments _).eq_of_symbols (Fragments.canonical_built _ _) ?_
  rw [symbols_fragments, symbols_built, Fragments.symbols_built, List.flatMap_map]
  exact congrArg _ (List.flatMap_congr fun c _ => (TextCall.symbols_map symbols_fragments c).symm)

/-- A colon is written before the name of a slot. -/
def shown : Sql.Symbol → List Char
  | .char c => [c]
  | .slot name => ':' :: name.toList

theorem toList_named (t : SqlText) : t.named.toList = t.symbols.flatMap shown := by
  have chars (s : String) : (Sql.symbols s).flatMap shown = s.toList := by
    rw [Sql.symbols, List.flatMap_map]
    exact List.flatMap_singleton' s.toList
  rw [named, String.toList_append, String.toList_join, List.flatMap_map, symbols, List.flatMap_append, chars,
    List.flatMap_assoc]
  refine congrArg _ (List.flatMap_congr fun s _ => ?_)
  rw [List.flatMap_cons, chars, String.toList_append, String.toList_append]
  rfl

theorem named_append (t u : SqlText) : (t ++ u).named = t.named ++ u.named := by
  rw [← String.toList_inj, String.toList_append, toList_named, toList_named, toList_named, symbols_append,
    List.flatMap_append]

/-- Whatever the calls, a text is put together in canonical form, and its fragments are equal to others exactly when
their characters and slots are. Texts are these lists of fragments, one each, and the calls on them are the same. So
texts are equal exactly when their characters and slots are; to append is associative, with the empty text on either
side it does nothing, and it comes to the calls that made what is appended; and names are listed and written one text
after the other. -/
theorem texts_put_together :
    (∀ (initial : String) (calls : List (TextCall Fragments)), (Fragments.built initial calls).Canonical) ∧
    (∀ (initial initial' : String) (calls calls' : List (TextCall Fragments)),
      Fragments.built initial calls = Fragments.built initial' calls' ↔
        (Fragments.built initial calls).symbols = (Fragments.built initial' calls').symbols) ∧
    (∀ fs : Fragments, fs.Canonical ↔ ∃! t : SqlText, t.fragments = fs) ∧
    (∀ t : SqlText, t.fragments.symbols = t.symbols) ∧
    (∀ (initial : String) (calls : List (TextCall SqlText)),
      (built initial calls).fragments = Fragments.built initial (calls.map (TextCall.map fragments))) ∧
    (∀ t u : SqlText, (t == u) = true ↔ t.symbols = u.symbols) ∧
    (∀ t u v : SqlText, t ++ u ++ v = t ++ (u ++ v)) ∧
    (∀ t : SqlText, empty ++ t = t ∧ t ++ empty = t) ∧
    (∀ (t : SqlText) (initial : String) (calls : List (TextCall SqlText)),
      t ++ built initial calls = (.push initial :: calls).foldl call t) ∧
    ∀ t u : SqlText, (t ++ u).named = t.named ++ u.named ∧ (t ++ u).slotNames = t.slotNames ++ u.slotNames := by
  refine ⟨Fragments.canonical_built, fun initial initial' calls calls' => ?_,
    fun fs => canonical_iff_existsUnique, symbols_fragments, fragments_built, fun t u => ?_, fun t u v => ?_,
    fun t => ⟨?_, ?_⟩, fun t initial calls => ?_, fun t u => ⟨named_append t u, slotNames_append t u⟩⟩
  · exact ⟨congrArg _, (Fragments.canonical_built initial calls).eq_of_symbols (Fragments.canonical_built _ _)⟩
  · rw [beq_iff_eq]
    exact ⟨congrArg _, eq_of_symbols⟩
  · exact eq_of_symbols (by simp only [symbols_append, List.append_assoc])
  · exact eq_of_symbols (by rw [symbols_append, symbols_empty, List.nil_append])
  · exact eq_of_symbols (by rw [symbols_append, symbols_empty, List.append_nil])
  · refine eq_of_symbols ?_
    rw [symbols_append, symbols_built, TextCall.symbols_foldl symbols_call, List.flatMap_cons]
    rfl

/-- Characters meet where texts are joined, also around what is empty. -/
example :
    Fragments.built "a"
      [.push "", .push "b", .pushSlot "x", .pushText [.chars "c"], .pushJoined [[], [.chars "d"]] ""] =
      [.chars "ab", .slot "x", .chars "cd"] := by decide

end SqlText
end Sift
