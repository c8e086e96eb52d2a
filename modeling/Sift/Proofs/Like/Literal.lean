import Sift.Proofs.Like
import Sift.Restriction.Condition
import Sift.Restriction.Evaluation

/-!
# Literal patterns

The pattern that a restriction binds for a text to contain, begin with or end in. It
matches exactly the texts of which the restriction holds, whatever the text to find
consists of.
-/
namespace Sift

open Sql

namespace Like

/-! ## Escape characters -/

/-- Whether a pattern ends in an escape character that makes no other one literal. -/
def dangles (mark : Char) : List Char → Bool
  | [] => false
  | [p] => p = mark
  | p :: q :: ps => if p = mark then dangles mark ps else dangles mark (q :: ps)

/-- A pattern has parts unless its last escape character dangles. -/
theorem isSome_wildcards (mark : Char) (ps : List Char) :
    (wildcards (some mark) ps).isSome = !dangles mark ps := by
  match ps with
  | [] => rfl
  | [p] =>
    by_cases same : p = mark
    · simp [wildcards, dangles, same]
    · simp [wildcards, dangles, same, Ne.symm same]
  | p :: q :: ps =>
    by_cases same : p = mark
    · rw [wildcards, dangles, if_pos (same ▸ rfl), if_pos same, Option.isSome_map, isSome_wildcards]
    · rw [wildcards, dangles, if_neg (by simp [Ne.symm same]), if_neg same, Option.isSome_map, isSome_wildcards]

/-- An escaped text is read back from its parts. -/
theorem escape_injective : Function.Injective escape := by
  intro s t same
  have parts (u : String) : wildcards (some '!') (escape u).toList = some (u.toList.map .literal) := by
    rw [← List.append_nil (escape u).toList, wildcards_escape]
    simp [wildcards]
  have literals : s.toList.map Wildcard.literal = t.toList.map Wildcard.literal :=
    Option.some.inj (by rw [← parts, ← parts, same])
  have injective : Function.Injective Wildcard.literal := by
    intro c d equal
    exact Wildcard.literal.inj equal
  exact String.toList_inj.mp (injective.list_map literals)

/-- A match in SQL is a split of the pattern against the text. -/
theorem matches_iff_like {escape : Option Char} {pattern text : String} :
    Matches escape pattern.toList text.toList ↔
      Datum.like escape (.value (.text text)) (.value (.text pattern)) = some true := by
  rw [matches_iff_wildcards, Datum.like, Option.map_eq_some_iff]

/-! ## Places -/

/-- Where a text is looked for in another. -/
inductive Place where
  | anywhere
  | atStart
  | atEnd

namespace Place

/-- Whether a text occurs at the place in another one. -/
def Occurs (needle text : String) : Place → Prop
  | anywhere => needle.toList <:+: text.toList
  | atStart => needle.toList <+: text.toList
  | atEnd => needle.toList <:+ text.toList

/-- The restriction to texts in which another one occurs at the place, or does not occur there. -/
def restriction (needle : String) (negated : Bool) : Place → Restriction
  | anywhere => if negated then .notContains needle else .contains needle
  | atStart => if negated then .notStartsWith needle else .startsWith needle
  | atEnd => if negated then .notEndsWith needle else .endsWith needle

/-- The escaped text, with `%` where other characters may stand. -/
def pattern (needle : String) : Place → String
  | anywhere => "%" ++ escape needle ++ "%"
  | atStart => escape needle ++ "%"
  | atEnd => "%" ++ escape needle

theorem holds_iff (needle text : String) (p : Place) :
    (p.restriction needle false).holds (.text text) = true ↔ p.Occurs needle text := by
  cases p with
  | anywhere =>
    rw [Occurs, ← occursIn_iff]
    show (occursIn needle.toList text.toList != false) = true ↔ _
    simp
  | atStart =>
    rw [Occurs, ← List.isPrefixOf_iff_prefix]
    show (needle.toList.isPrefixOf text.toList != false) = true ↔ _
    simp
  | atEnd =>
    rw [Occurs, ← List.isSuffixOf_iff_suffix]
    show (needle.toList.isSuffixOf text.toList != false) = true ↔ _
    simp

theorem like_pattern_iff (needle text : String) (p : Place) :
    Datum.like (some '!') (.value (.text text)) (.value (.text (p.pattern needle))) = some true ↔
      p.Occurs needle text := by
  cases p with
  | anywhere => rw [pattern, like_contains, Option.some_inj, occursIn_iff, Occurs]
  | atStart => rw [pattern, like_startsWith, Option.some_inj, List.isPrefixOf_iff_prefix, Occurs]
  | atEnd => rw [pattern, like_endsWith, Option.some_inj, List.isSuffixOf_iff_suffix, Occurs]

/-- Every text is either matched or not, so the pattern has parts. -/
theorem dangles_pattern (needle : String) (p : Place) : dangles '!' (p.pattern needle).toList = false := by
  have answered : (Datum.like (some '!') (.value (.text "")) (.value (.text (p.pattern needle)))).isSome = true := by
    cases p with
    | anywhere => rw [pattern, like_contains, Option.isSome_some]
    | atStart => rw [pattern, like_startsWith, Option.isSome_some]
    | atEnd => rw [pattern, like_endsWith, Option.isSome_some]
  rw [Datum.like, Option.isSome_map, isSome_wildcards] at answered
  simpa using answered

end Place

/-- The text of a match with a parameter, or of its negation. -/
def matchText (c : ColumnRef) (negated : Bool) (name : String) : SqlText :=
  (c.text ++ " " ++ notText negated ++ "LIKE " : String) ++ SqlText.slot name ++ " ESCAPE '!'"

/-- A restriction is compiled to a match, or to its negation, which null passes too where it may stand.
The pattern is the one value that it binds. -/
def Binds (x : Restriction) (negated : Bool) (pattern : String) : Prop :=
  ∀ (d : Dialect) (b : Binding) (c : ColumnRef) (nullable : Bool),
    let (name, naming) := b.naming.next c.column
    let text := matchText c negated name
    ∃ k, x.condition? c nullable = some k ∧ (k.print d).run b =
      (if negated && nullable then ("(" ++ c.text ++ " IS NULL OR " : String) ++ text ++ ")" else text,
        ⟨naming, b.params.insert name (.text pattern)⟩)

theorem Place.binds_pattern (needle : String) (p : Place) (negated : Bool) :
    Binds (p.restriction needle negated) negated (p.pattern needle) := by
  intro d b c nullable
  refine ⟨.test (negated && nullable) c (.like negated (p.pattern needle) true), ?_, rfl⟩
  cases negated <;> cases p <;> cases nullable <;> rfl

/-- A restriction to texts with another one at a place, and its negation, are compiled to a match with `!`
as the escape character. No escape character dangles in the pattern that they bind, and it matches the
texts that have the other one at the place, which are those that satisfy the restriction. Different
texts have different escaped forms. -/
theorem placed_text_matches_literally :
    (∀ (p : Place) (needle : String), ∃ pattern : String,
      (∀ negated, Binds (p.restriction needle negated) negated pattern) ∧
      dangles '!' pattern.toList = false ∧
      ∀ text : String, (Matches (some '!') pattern.toList text.toList ↔ p.Occurs needle text) ∧
        ((p.restriction needle false).holds (.text text) = true ↔ p.Occurs needle text)) ∧
    Function.Injective escape := by
  refine ⟨?_, escape_injective⟩
  intro p needle
  refine ⟨p.pattern needle, p.binds_pattern needle, p.dangles_pattern needle, ?_⟩
  intro text
  exact ⟨matches_iff_like.trans (p.like_pattern_iff needle text), p.holds_iff needle text⟩

example : Place.pattern "50%_!" .anywhere = "%50!%!_!!%" := by cbv

end Like
end Sift
