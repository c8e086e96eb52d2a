import Sift.Text.Character

/-!
# Tokens of types

A type is written with words, literals and marks. White space and comments stand
between tokens; comments nest. What a literal holds does not matter, only where it
ends. Marks are ASCII, so that of a well-formed type, names hold all other characters
that are no blanks.
-/
namespace Sift.TypeSyntax

inductive Token where
  | word (s : String)
  | lifetime
  | literal
  /-- The mark between the segments of a path. -/
  | colons
  | arrow
  | mark (c : Char)
deriving DecidableEq

theorem length_dropWhile_le (p : Char → Bool) (cs : List Char) :
    (cs.dropWhile p).length ≤ cs.length := (List.dropWhile_sublist p).length_le

/-- White space between tokens; the marks of writing direction count as such. -/
def isGap (c : Char) : Bool := isBlank c || c == '\u200e' || c == '\u200f'

/-- The characters of names. A name does not begin with a digit. -/
def isNameChar (c : Char) : Bool :=
  c.isAlphanum || c == '_' || (128 ≤ c.toNat && !isGap c)

/-! ## Comments -/

/-- What follows a comment of which `depth` beginnings are not yet closed. -/
def afterComment : Nat → List Char → List Char
  | _, [] => []
  | depth, '/' :: '*' :: rest => afterComment (depth + 1) rest
  | depth, '*' :: '/' :: rest => if depth ≤ 1 then rest else afterComment (depth - 1) rest
  | depth, _ :: rest => afterComment depth rest

theorem length_afterComment_le (depth : Nat) (cs : List Char) :
    (afterComment depth cs).length ≤ cs.length := by
  fun_induction afterComment depth cs <;> grind

/-! ## Literals -/

/-- What follows a literal that ends with a quote; a backslash makes the next character part of
the literal. -/
def afterQuote (q : Char) : List Char → List Char
  | [] => []
  | '\\' :: _ :: rest => afterQuote q rest
  | c :: rest => if c = q then rest else afterQuote q rest

theorem length_afterQuote_le (q : Char) (cs : List Char) :
    (afterQuote q cs).length ≤ cs.length := by
  fun_induction afterQuote q cs <;> grind

/-- What follows a raw literal, which ends with a quote and a number of `#`. -/
def afterRaw (hashes : Nat) : List Char → List Char
  | [] => []
  | c :: rest =>
    if c = '\x22' ∧ rest.take hashes = List.replicate hashes '#' then rest.drop hashes
    else afterRaw hashes rest

theorem length_afterRaw_le (hashes : Nat) (cs : List Char) :
    (afterRaw hashes cs).length ≤ cs.length := by
  fun_induction afterRaw hashes cs <;> grind

/-- What follows a raw literal, given what follows the letter `r` that announces it: some `#` and
a quote. -/
def raw? (cs : List Char) : Option (List Char) :=
  let rest := cs.dropWhile (· = '#')
  match rest with
  | '\x22' :: body => some (afterRaw (cs.length - rest.length) body)
  | _ => none

theorem length_raw?_le {cs r : List Char} (h : raw? cs = some r) : r.length ≤ cs.length := by
  have := length_dropWhile_le (· = '#') cs
  have := length_afterRaw_le
  simp only [raw?] at h
  grind

/-- What follows a character in quotes, given what follows the first quote. -/
def character? : List Char → Option (List Char)
  | '\\' :: rest => some (afterQuote '\'' ('\\' :: rest))
  | _ :: '\'' :: rest => some rest
  | _ => none

theorem length_character?_le {cs r : List Char} (h : character? cs = some r) :
    r.length ≤ cs.length := by
  have := length_afterQuote_le
  unfold character? at h
  grind

/-- What follows the literal that begins with a character, without its suffix. -/
def literal? (c : Char) (cs : List Char) : Option (List Char) :=
  if c.isDigit then some cs
  else
    match c, cs with
    | '\x22', rest | 'b', '\x22' :: rest | 'c', '\x22' :: rest => some (afterQuote '\x22' rest)
    | 'r', rest | 'b', 'r' :: rest | 'c', 'r' :: rest => raw? rest
    | '\'', rest | 'b', '\'' :: rest => character? rest
    | _, _ => none

theorem length_literal?_le {c : Char} {cs r : List Char} (h : literal? c cs = some r) :
    r.length ≤ cs.length := by
  have := length_afterQuote_le
  have := @length_raw?_le
  have := @length_character?_le
  unfold literal? at h
  grind

/-! ## Tokens -/

/-- What follows a name that may have the mark `r#`. -/
def afterName : List Char → List Char
  | 'r' :: '#' :: rest => rest.dropWhile isNameChar
  | cs => cs.dropWhile isNameChar

theorem length_afterName_le (cs : List Char) : (afterName cs).length ≤ cs.length := by
  have := length_dropWhile_le isNameChar
  unfold afterName
  grind

/-- The tokens of a type. -/
def tokens : List Char → List Token
  | [] => []
  | '/' :: '/' :: rest => tokens (rest.dropWhile (· ≠ '\n'))
  | '/' :: '*' :: rest => tokens (afterComment 1 rest)
  | ':' :: ':' :: rest => .colons :: tokens rest
  | '-' :: '>' :: rest => .arrow :: tokens rest
  | c :: rest =>
    match _ : literal? c rest with
    | some r => .literal :: tokens (r.dropWhile isNameChar)
    | none =>
      if isGap c then tokens rest
      else if c = '\'' then .lifetime :: tokens (afterName rest)
      else if c = 'r' ∧ rest.head? = some '#' then
        .word ("r#" ++ String.ofList (rest.tail.takeWhile isNameChar))
          :: tokens (rest.tail.dropWhile isNameChar)
      else if isNameChar c then
        .word (String.ofList (c :: rest.takeWhile isNameChar)) :: tokens (rest.dropWhile isNameChar)
      else .mark c :: tokens rest
termination_by cs => cs.length
decreasing_by
  all_goals
    have := length_dropWhile_le
    have := length_afterComment_le
    have := length_afterName_le
    have := @length_literal?_le
    grind

end Sift.TypeSyntax
