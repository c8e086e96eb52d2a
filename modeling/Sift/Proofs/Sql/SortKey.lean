import Sift.OrderBy
import Mathlib.Data.List.Basic

/-!
# The text of an order

An order is written as keys with commas between them. It is read key by key, and each key
part by part: a name as far as it can go, and a quoted name up to the first quote that is
not written twice. Reading accepts exactly what is written, whatever quotes, commas and
keywords the names of collations contain.
-/
namespace Sift

/-! ## Keys -/

/-- What the text of an item tells: a column with the name of its table, if it has one, and how to sort by it. -/
structure SortKey where
  table : Option String
  column : String
  collation : Option String
  direction : SortDirection
  nulls : Option NullPlacement
deriving DecidableEq

namespace SortKey

/-- What follows a column that is compared by a collation, its name between the quotes `q`. -/
def collationText (q : Char) : Option String → String
  | some name => " COLLATE " ++ Identifier.quote q name
  | none => ""

def directionText (direction : SortDirection) : String := " " ++ direction.text

/-- What follows a direction that places nulls. -/
def nullsText : Option NullPlacement → String
  | some p => " " ++ p.text
  | none => ""

def text (q : Char) (k : SortKey) : String :=
  Identifier.qualified k.table k.column ++ collationText q k.collation ++ directionText k.direction ++ nullsText k.nulls

/-- The names of a key need no quotes. -/
structure IsPlain (k : SortKey) : Prop where
  column : Identifier.isPlain k.column = true
  table : ∀ t, k.table = some t → Identifier.isPlain t = true

/-! ## Readers -/

/-- What follows a word that is expected. -/
def expect (word : String) (input : List Char) : Option (List Char) := input.dropPrefix? word.toList

/-- A name, up to the first character that cannot be in one. -/
def readName (input : List Char) : Option (String × List Char) :=
  let name := String.ofList (input.takeWhile Identifier.isTail)
  if Identifier.isPlain name then some (name, input.dropWhile Identifier.isTail) else none

/-- A column, after a table and a dot if there is one. -/
def readColumn (input : List Char) : Option ((Option String × String) × List Char) := do
  let (name, rest) ← readName input
  match expect "." rest with
  | some rest => do
    let (column, rest) ← readName rest
    return ((some name, column), rest)
  | none => return ((none, name), rest)

/-- The rest of a quoted name, up to the first quote that does not stand twice. -/
def readQuotedRest (q : Char) : List Char → Option (List Char × List Char)
  | [] => none
  | c :: rest =>
    if c = q then
      match rest with
      | [] => some ([], [])
      | c' :: rest' =>
        if c' = q then (readQuotedRest q rest').map fun (cs, r) => (q :: cs, r)
        else some ([], c' :: rest')
    else (readQuotedRest q rest).map fun (cs, r) => (c :: cs, r)

def readQuoted (q : Char) : List Char → Option (String × List Char)
  | [] => none
  | c :: rest => if c = q then (readQuotedRest q rest).map fun (cs, r) => (String.ofList cs, r) else none

def readCollation (q : Char) (input : List Char) : Option (Option String × List Char) :=
  match expect " COLLATE " input with
  | some rest => (readQuoted q rest).map fun (name, rest) => (some name, rest)
  | none => some (none, input)

def readDirection (input : List Char) : Option (SortDirection × List Char) :=
  match expect " ASC" input with
  | some rest => some (.asc, rest)
  | none => (expect " DESC" input).map fun rest => (.desc, rest)

def readNulls (input : List Char) : Option NullPlacement × List Char :=
  match expect " NULLS FIRST" input with
  | some rest => (some .first, rest)
  | none =>
    match expect " NULLS LAST" input with
    | some rest => (some .last, rest)
    | none => (none, input)

/-- A key: a column, an optional collation, a direction and an optional placement of nulls. -/
def readKey (q : Char) (input : List Char) : Option (SortKey × List Char) := do
  let ((table, column), rest) ← readColumn input
  let (collation, rest) ← readCollation q rest
  let (direction, rest) ← readDirection rest
  let (nulls, rest) := readNulls rest
  return (⟨table, column, collation, direction, nulls⟩, rest)

/-! ## Each reader reads what is written -/

section

variable {input rest : List Char}

theorem expect_eq_some_iff {word : String} : expect word input = some rest ↔ input = word.toList ++ rest := by
  simp [expect, List.dropPrefix?_eq_some_iff]

theorem expect_append (word : String) (rest : List Char) : expect word (word.toList ++ rest) = some rest :=
  expect_eq_some_iff.mpr rfl

theorem all_isTail_of_isPlain {name : String} (plain : Identifier.isPlain name = true) :
    ∀ c ∈ name.toList, Identifier.isTail c = true := by
  unfold Identifier.isPlain at plain
  split at plain
  · cases plain
  next head tail chars =>
    obtain ⟨first, more⟩ := Bool.and_eq_true_iff.mp plain
    rw [chars]
    refine List.forall_mem_cons.mpr ⟨?_, List.all_eq_true.mp more⟩
    simp only [Identifier.isHead, Identifier.isTail, Bool.or_eq_true, Char.isAlphanum] at first ⊢
    exact first.imp_right .inl

theorem readName_complete {name : String} (plain : Identifier.isPlain name = true)
    (ends : ∀ c ∈ rest.head?, Identifier.isTail c = false) :
    readName (name.toList ++ rest) = some (name, rest) := by
  have inside := all_isTail_of_isPlain plain
  have stop : rest.takeWhile Identifier.isTail = [] ∧ rest.dropWhile Identifier.isTail = rest := by
    cases rest with
    | nil => exact ⟨rfl, rfl⟩
    | cons c rest => simp [ends c rfl]
  rw [readName, List.takeWhile_append_of_pos inside, List.dropWhile_append_of_pos inside, stop.1, stop.2,
    List.append_nil, String.ofList_toList, if_pos plain]

theorem readName_sound {name : String} (read : readName input = some (name, rest)) :
    input = name.toList ++ rest ∧ Identifier.isPlain name = true := by
  dsimp only [readName] at read
  split at read
  next plain =>
    cases read
    exact ⟨by simp, plain⟩
  next => cases read

/-- What follows a column is neither of its name nor a dot. -/
def EndsColumn (rest : List Char) : Prop := ∀ c ∈ rest.head?, Identifier.isTail c = false ∧ c ≠ '.'

theorem readColumn_complete {table : Option String} {column : String} (plain : Identifier.isPlain column = true)
    (plainTable : ∀ t, table = some t → Identifier.isPlain t = true) (ends : EndsColumn rest) :
    readColumn ((Identifier.qualified table column).toList ++ rest) = some ((table, column), rest) := by
  have ended : ∀ c ∈ rest.head?, Identifier.isTail c = false := fun c first => (ends c first).1
  cases table with
  | none =>
    have undotted : expect "." rest = none := by
      cases rest with
      | nil => rfl
      | cons c rest =>
        rw [Option.eq_none_iff_forall_ne_some]
        intro more read
        have dot : c = '.' := (List.cons.inj (expect_eq_some_iff.mp read)).1
        exact (ends c rfl).2 dot
    simp only [readColumn, Identifier.qualified, readName_complete plain ended, undotted, Option.bind_eq_bind,
      Option.bind_some]
    rfl
  | some t =>
    have split : (Identifier.qualified (some t) column).toList ++ rest =
        t.toList ++ (".".toList ++ (column.toList ++ rest)) := by simp [Identifier.qualified]
    have dotted : ∀ c ∈ (".".toList ++ (column.toList ++ rest)).head?, Identifier.isTail c = false := by
      intro c first
      obtain rfl : '.' = c := Option.some.inj first
      rfl
    simp only [readColumn, split, readName_complete (plainTable t rfl) dotted, expect_append,
      readName_complete plain ended, Option.bind_eq_bind, Option.bind_some]
    rfl

theorem readColumn_sound {table : Option String} {column : String}
    (done : readColumn input = some ((table, column), rest)) :
    input = (Identifier.qualified table column).toList ++ rest ∧ Identifier.isPlain column = true ∧
      ∀ t, table = some t → Identifier.isPlain t = true := by
  obtain ⟨⟨name, more⟩, first, read⟩ := Option.bind_eq_some_iff.mp done
  obtain ⟨start, plain⟩ := readName_sound first
  dsimp only at read
  split at read
  next after dot =>
    obtain ⟨⟨name', more'⟩, second, read⟩ := Option.bind_eq_some_iff.mp read
    obtain ⟨start', plain'⟩ := readName_sound second
    cases read
    rw [start, expect_eq_some_iff.mp dot, start']
    refine ⟨by simp [Identifier.qualified], plain', fun t same => ?_⟩
    cases same
    exact plain
  next =>
    cases read
    exact ⟨start, plain, fun t same => by cases same⟩

theorem escapeQuote_cons (q c : Char) (cs : List Char) :
    Identifier.escapeQuote q (c :: cs) = (if c = q then [q, q] else [c]) ++ Identifier.escapeQuote q cs := rfl

theorem readQuotedRest_cons_of_ne {q c : Char} (other : c ≠ q) (input : List Char) :
    readQuotedRest q (c :: input) = (readQuotedRest q input).map fun (cs, r) => (c :: cs, r) := by
  cases input <;> simp [readQuotedRest, other]

/-- A quoted name is read up to its last quote, unless another one follows. -/
theorem readQuotedRest_complete {q : Char} (cs : List Char) (ends : rest.head? ≠ some q) :
    readQuotedRest q (Identifier.escapeQuote q cs ++ q :: rest) = some (cs, rest) := by
  induction cs with
  | nil =>
    cases rest with
    | nil => simp [Identifier.escapeQuote, readQuotedRest]
    | cons c rest =>
      have other : c ≠ q := fun same => ends (congrArg some same)
      simp [Identifier.escapeQuote, readQuotedRest, other]
  | cons c cs ih =>
    rw [escapeQuote_cons]
    -- a quote of the name stands twice and so does not end it
    by_cases same : c = q
    · rw [if_pos same]
      show readQuotedRest q (q :: q :: (Identifier.escapeQuote q cs ++ q :: rest)) = _
      simp [readQuotedRest, ih, same]
    · rw [if_neg same]
      show readQuotedRest q (c :: (Identifier.escapeQuote q cs ++ q :: rest)) = _
      rw [readQuotedRest_cons_of_ne same, ih]
      rfl

theorem readQuotedRest_sound {q : Char} {cs : List Char} (read : readQuotedRest q input = some (cs, rest)) :
    input = Identifier.escapeQuote q cs ++ q :: rest := by
  fun_induction readQuotedRest q input generalizing cs with
  | case1 => cases read
  | case2 =>
    cases read
    rfl
  | case3 rest' ih =>
    obtain ⟨⟨cs', more⟩, inner, same⟩ := Option.map_eq_some_iff.mp read
    cases same
    rw [ih inner, escapeQuote_cons, if_pos rfl]
    rfl
  | case4 c' rest' other =>
    cases read
    rfl
  | case5 c rest' other ih =>
    obtain ⟨⟨cs', more⟩, inner, same⟩ := Option.map_eq_some_iff.mp read
    cases same
    rw [ih inner, escapeQuote_cons, if_neg other]
    rfl

theorem readQuoted_complete {q : Char} (name : String) (ends : rest.head? ≠ some q) :
    readQuoted q ((Identifier.quote q name).toList ++ rest) = some (name, rest) := by
  rw [Identifier.quote, String.toList_ofList, List.cons_append, List.cons_append, List.append_assoc,
    List.singleton_append, readQuoted, if_pos rfl, readQuotedRest_complete name.toList ends]
  simp

theorem readQuoted_sound {q : Char} {name : String} (read : readQuoted q input = some (name, rest)) :
    input = (Identifier.quote q name).toList ++ rest := by
  unfold readQuoted at read
  split at read
  · cases read
  · split at read
    next c after mark =>
      obtain ⟨⟨cs, more⟩, inner, same⟩ := Option.map_eq_some_iff.mp read
      cases same
      rw [readQuotedRest_sound inner, mark]
      simp [Identifier.quote]
    next => cases read

theorem readCollation_complete {q : Char} (collation : Option String) (ends : rest.head? ≠ some q)
    (next : expect " COLLATE " rest = none) :
    readCollation q ((collationText q collation).toList ++ rest) = some (collation, rest) := by
  cases collation with
  | none =>
    show readCollation q rest = _
    rw [readCollation, next]
  | some name =>
    rw [collationText, String.toList_append, List.append_assoc, readCollation, expect_append]
    dsimp only
    rw [readQuoted_complete name ends]
    rfl

theorem readCollation_sound {q : Char} {collation : Option String}
    (read : readCollation q input = some (collation, rest)) : input = (collationText q collation).toList ++ rest := by
  unfold readCollation at read
  split at read
  next after word =>
    obtain ⟨⟨name, more⟩, quoted, same⟩ := Option.map_eq_some_iff.mp read
    cases same
    rw [expect_eq_some_iff.mp word, readQuoted_sound quoted]
    simp [collationText]
  next =>
    cases read
    rfl

theorem readDirection_complete (direction : SortDirection) (rest : List Char) :
    readDirection ((directionText direction).toList ++ rest) = some (direction, rest) := by
  cases direction with
  | asc =>
    show readDirection (" ASC".toList ++ rest) = _
    rw [readDirection, expect_append]
  | desc =>
    show readDirection (" DESC".toList ++ rest) = _
    have other : expect " ASC" (" DESC".toList ++ rest) = none := rfl
    rw [readDirection, other, expect_append]
    rfl

theorem readDirection_sound {direction : SortDirection} (read : readDirection input = some (direction, rest)) :
    input = (directionText direction).toList ++ rest := by
  unfold readDirection at read
  split at read
  next word =>
    cases read
    exact expect_eq_some_iff.mp word
  next =>
    obtain ⟨more, word, same⟩ := Option.map_eq_some_iff.mp read
    cases same
    exact expect_eq_some_iff.mp word

/-- What can follow a key: nothing, or a comma. -/
def EndsKey (rest : List Char) : Prop := rest = [] ∨ ∃ more, rest = ", ".toList ++ more

theorem readNulls_complete (nulls : Option NullPlacement) (ends : EndsKey rest) :
    readNulls ((nullsText nulls).toList ++ rest) = (nulls, rest) := by
  cases nulls with
  | none => rcases ends with rfl | ⟨more, rfl⟩ <;> rfl
  | some p =>
    cases p with
    | first =>
      show readNulls (" NULLS FIRST".toList ++ rest) = _
      rw [readNulls, expect_append]
    | last =>
      show readNulls (" NULLS LAST".toList ++ rest) = _
      have other : expect " NULLS FIRST" (" NULLS LAST".toList ++ rest) = none := rfl
      rw [readNulls, other, expect_append]

theorem readNulls_sound {nulls : Option NullPlacement} (read : readNulls input = (nulls, rest)) :
    input = (nullsText nulls).toList ++ rest := by
  unfold readNulls at read
  split at read
  next word =>
    cases read
    exact expect_eq_some_iff.mp word
  next =>
    split at read
    next word =>
      cases read
      exact expect_eq_some_iff.mp word
    next =>
      cases read
      rfl

theorem toList_text (q : Char) (k : SortKey) (rest : List Char) :
    (k.text q).toList ++ rest = (Identifier.qualified k.table k.column).toList ++
      ((collationText q k.collation).toList ++
        ((directionText k.direction).toList ++ ((nullsText k.nulls).toList ++ rest))) := by
  simp only [text, String.toList_append, List.append_assoc]

theorem head?_directionText (direction : SortDirection) (rest : List Char) :
    ((directionText direction).toList ++ rest).head? = some ' ' := by
  cases direction <;> rfl

/-- A key is read back, before the end or a comma. -/
theorem readKey_complete {q : Char} {k : SortKey} (plain : k.IsPlain) (quote : q ≠ ' ') (ends : EndsKey rest) :
    readKey q ((k.text q).toList ++ rest) = some (k, rest) := by
  let ending : List Char := (directionText k.direction).toList ++ ((nullsText k.nulls).toList ++ rest)
  have blank : ending.head? = some ' ' := head?_directionText _ _
  -- a column ends at the blank before what follows it, and a quoted name at the blank before the direction
  have afterColumn : EndsColumn ((collationText q k.collation).toList ++ ending) := by
    have first : ((collationText q k.collation).toList ++ ending).head? = some ' ' := by
      cases k.collation with
      | none => exact blank
      | some name =>
        rw [collationText, String.toList_append]
        rfl
    rw [EndsColumn, first]
    rintro c ⟨⟩
    decide
  have afterCollation : ending.head? ≠ some q := fun same => quote (Option.some.inj (same.symm.trans blank))
  have unmarked : expect " COLLATE " ending = none := by
    show expect " COLLATE " ((directionText k.direction).toList ++ _) = none
    cases k.direction <;> rfl
  rw [toList_text, readKey, readColumn_complete plain.column plain.table afterColumn]
  simp only [Option.bind_eq_bind, Option.bind_some]
  rw [readCollation_complete k.collation afterCollation unmarked]
  simp only [Option.bind_some]
  rw [readDirection_complete, Option.bind_some, readNulls_complete k.nulls ends]
  rfl

theorem readKey_sound {q : Char} {k : SortKey} (done : readKey q input = some (k, rest)) :
    input = (k.text q).toList ++ rest ∧ k.IsPlain := by
  obtain ⟨⟨⟨table, column⟩, afterColumn⟩, columnRead, read⟩ := Option.bind_eq_some_iff.mp done
  obtain ⟨⟨collation, afterCollation⟩, collationRead, read⟩ := Option.bind_eq_some_iff.mp read
  obtain ⟨⟨direction, afterDirection⟩, directionRead, read⟩ := Option.bind_eq_some_iff.mp read
  obtain ⟨nulls, afterNulls, nullsRead⟩ : ∃ nulls afterNulls, readNulls afterDirection = (nulls, afterNulls) :=
    ⟨_, _, rfl⟩
  dsimp only at read
  rw [nullsRead] at read
  cases read
  obtain ⟨start, plain, plainTable⟩ := readColumn_sound columnRead
  rw [start, readCollation_sound collationRead, readDirection_sound directionRead, readNulls_sound nullsRead,
    toList_text]
  exact ⟨rfl, plain, plainTable⟩

theorem length_of_readKey {q : Char} {k : SortKey} (read : readKey q input = some (k, rest)) :
    rest.length < input.length := by
  have blank : 0 < (directionText k.direction).toList.length := by cases k.direction <;> decide
  rw [(readKey_sound read).1, toList_text]
  simp only [List.length_append]
  omega

end

/-- Keys with commas between them, up to the end. -/
def readKeys (q : Char) (input : List Char) : Option (List SortKey) :=
  match _first : readKey q input with
  | none => none
  | some (k, rest) =>
    match _comma : expect ", " rest with
    | some more => (readKeys q more).map (k :: ·)
    | none => if rest.isEmpty then some [k] else none
termination_by input.length
decreasing_by
  have shorter := length_of_readKey _first
  rw [expect_eq_some_iff.mp _comma, List.length_append] at shorter
  omega

/-- Keys with commas between them. -/
def listText (q : Char) (ks : List SortKey) : String := ", ".intercalate (ks.map (·.text q))

theorem toList_listText_cons (q : Char) (k k' : SortKey) (ks : List SortKey) :
    (listText q (k :: k' :: ks)).toList = (k.text q).toList ++ (", ".toList ++ (listText q (k' :: ks)).toList) := by
  simp [listText]

theorem toList_listText_singleton (q : Char) (k : SortKey) :
    (listText q [k]).toList = (k.text q).toList ++ [] := by
  simp [listText]

theorem readKeys_complete {q : Char} (quote : q ≠ ' ') {ks : List SortKey} (nonempty : ks ≠ [])
    (plain : ∀ k ∈ ks, k.IsPlain) : readKeys q (listText q ks).toList = some ks := by
  induction ks with
  | nil => exact absurd rfl nonempty
  | cons k ks ih =>
    obtain ⟨first, others⟩ := List.forall_mem_cons.mp plain
    cases ks with
    | nil =>
      -- nothing follows the last key
      rw [readKeys, toList_listText_singleton, readKey_complete first quote (.inl rfl)]
      rfl
    | cons k' ks =>
      rw [readKeys, toList_listText_cons, readKey_complete first quote (.inr ⟨_, rfl⟩)]
      dsimp only
      rw [expect_append]
      dsimp only
      rw [ih (List.cons_ne_nil k' ks) others]
      rfl

theorem readKeys_sound {q : Char} {input : List Char} {ks : List SortKey} (read : readKeys q input = some ks) :
    ks ≠ [] ∧ (∀ k ∈ ks, k.IsPlain) ∧ input = (listText q ks).toList := by
  fun_induction readKeys q input generalizing ks with
  | case1 => cases read
  | case2 input k rest first more comma ih =>
    obtain ⟨ks', later, rfl⟩ := Option.map_eq_some_iff.mp read
    obtain ⟨nonempty, plain, same⟩ := ih later
    obtain ⟨start, plainFirst⟩ := readKey_sound first
    obtain ⟨k', ks', rfl⟩ := List.exists_cons_of_ne_nil nonempty
    refine ⟨List.cons_ne_nil _ _, List.forall_mem_cons.mpr ⟨plainFirst, plain⟩, ?_⟩
    rw [toList_listText_cons, start, expect_eq_some_iff.mp comma, same]
  | case3 input k rest first comma last =>
    cases read
    obtain ⟨start, plain⟩ := readKey_sound first
    rw [List.isEmpty_iff.mp last] at start
    exact ⟨List.cons_ne_nil _ _, fun k' only => List.mem_singleton.mp only ▸ plain,
      start.trans (toList_listText_singleton q k).symm⟩
  | case4 => cases read

/-- An order after the word that starts it. No order is no text. -/
def readOrder (start : String) (q : Char) (text : String) : Option (List SortKey) :=
  if text.isEmpty then some [] else (expect start text.toList).bind (readKeys q)

/-- The text of an order after the word that starts it. -/
def orderText (start : String) (q : Char) (ks : List SortKey) : String :=
  if ks.isEmpty then "" else start ++ listText q ks

/-- A text is read as keys exactly if it is the text of them and their names need no quotes. -/
theorem readOrder_iff {start : String} {q : Char} (quote : q ≠ ' ') (word : start ≠ "") {text : String}
    {ks : List SortKey} :
    readOrder start q text = some ks ↔ text = orderText start q ks ∧ ∀ k ∈ ks, k.IsPlain := by
  constructor
  · intro read
    rw [readOrder] at read
    split at read
    next empty =>
      cases read
      exact ⟨String.isEmpty_iff.mp empty, fun k member => absurd member List.not_mem_nil⟩
    next =>
      obtain ⟨rest, started, read⟩ := Option.bind_eq_some_iff.mp read
      obtain ⟨nonempty, plain, same⟩ := readKeys_sound read
      refine ⟨?_, plain⟩
      rw [orderText, List.isEmpty_eq_false_iff.mpr nonempty, ← String.toList_inj, expect_eq_some_iff.mp started, same]
      simp
  · rintro ⟨rfl, plain⟩
    cases ks with
    | nil => rfl
    | cons k ks =>
      have nonempty : (start ++ listText q (k :: ks)).isEmpty = false := by
        rw [← Bool.not_eq_true, String.isEmpty_iff]
        exact fun empty => word (String.append_eq_empty_iff.mp empty).1
      have text : orderText start q (k :: ks) = start ++ listText q (k :: ks) := rfl
      rw [text, readOrder, nonempty, String.toList_append, expect_append]
      exact readKeys_complete quote (List.cons_ne_nil k ks) plain

end SortKey

end Sift
