import Sift.Proofs.Like.Search
import Sift.Proofs.Sql.Meaning

/-!
# Matching patterns

A pattern can be split against a text when its parts match it, and so the search for
a match agrees with matching by cases on the parts. Escaped patterns match what
begins with, ends with or contains the text that was escaped.
-/
namespace Sift

open Sql

/-! ## Parts of patterns -/

namespace Sql

/-- The part that a character of a pattern is. -/
def wildcard (p : Char) : Wildcard :=
  if p = '%' then .run else if p = '_' then .one else .literal p

theorem wildcards_cons {escape : Option Char} {p : Char} (other : escape ≠ some p) (ps : List Char) :
    wildcards escape (p :: ps) = (wildcards escape ps).map (wildcard p :: ·) := by
  cases ps <;> simp [wildcards, other, wildcard]

/-- Without an escape character, every character is a part. -/
theorem wildcards_none (ps : List Char) : wildcards none ps = some (ps.map wildcard) := by
  induction ps with
  | nil => rfl
  | cons p ps ih => rw [wildcards_cons (by simp), ih]; rfl

/-- An escaped text stands for its characters. -/
theorem wildcards_escaped (cs ps : List Char) :
    wildcards (some '!') (cs.flatMap Like.escapeChar ++ ps) =
      (wildcards (some '!') ps).map (cs.map .literal ++ ·) := by
  induction cs with
  | nil => simp
  | cons c cs ih =>
    rw [List.flatMap_cons, List.append_assoc, Like.escapeChar]
    split
    · rw [Like.escapeMark, List.cons_append, List.cons_append, List.nil_append, wildcards, if_pos rfl,
        ih, Option.map_map]
      rfl
    · rename_i plain
      simp only [Like.escapeMark, not_or] at plain
      have part : wildcard c = .literal c := by simp [wildcard, plain]
      rw [List.cons_append, List.nil_append,
        wildcards_cons (by simpa using Ne.symm plain.1), ih, Option.map_map, part]
      rfl

/-! ## Matching parts -/

theorem wildcardsMatch_run_iff (ps : List Wildcard) (text : List Char) :
    wildcardsMatch (.run :: ps) text = true ↔ ∃ front back, front ++ back = text ∧
      wildcardsMatch ps back = true := by
  simp only [wildcardsMatch, List.any_eq_true, List.mem_tails]
  constructor
  · rintro ⟨back, ⟨front, whole⟩, rest⟩
    exact ⟨front, back, whole, rest⟩
  · rintro ⟨front, back, whole, rest⟩
    exact ⟨back, ⟨front, whole⟩, rest⟩

theorem wildcardsMatch_literals_iff (cs : List Char) (ps : List Wildcard) (text : List Char) :
    wildcardsMatch (cs.map .literal ++ ps) text = true ↔ ∃ back, cs ++ back = text ∧
      wildcardsMatch ps back = true := by
  induction cs generalizing text with
  | nil => simp
  | cons c cs ih =>
    cases text with
    | nil => simp [wildcardsMatch]
    | cons d ds => simp [wildcardsMatch, ih, and_assoc]

theorem wildcardsMatch_nil_iff (text : List Char) : wildcardsMatch [] text = true ↔ text = [] := by
  simp [wildcardsMatch]

theorem wildcardsMatch_run (text : List Char) : wildcardsMatch [.run] text = true :=
  (wildcardsMatch_run_iff [] text).mpr ⟨text, [], List.append_nil text, rfl⟩

end Sql

/-! ## Patterns by their parts -/

namespace Like

theorem matches_of_part {escape : Option Char} {p : Char} (other : escape ≠ some p) {ps text : List Char}
    {parts : List Wildcard} (rest : ∀ text, wildcardsMatch parts text = true → Matches escape ps text)
    (matched : wildcardsMatch (wildcard p :: parts) text = true) : Matches escape (p :: ps) text := by
  by_cases run : p = '%'
  · subst run
    obtain ⟨front, back, rfl, found⟩ := (wildcardsMatch_run_iff parts text).mp matched
    exact .run front other (rest back found)
  · by_cases one : p = '_'
    · subst one
      cases text with
      | nil => simp [wildcard, wildcardsMatch] at matched
      | cons c cs => exact .one c other (rest cs matched)
    · rw [show wildcard p = .literal p by simp [wildcard, run, one]] at matched
      cases text with
      | nil => simp [wildcardsMatch] at matched
      | cons c cs =>
        obtain ⟨rfl, found⟩ : p = c ∧ wildcardsMatch parts cs = true := by simpa [wildcardsMatch] using matched
        exact .literal other run one (rest cs found)

theorem matches_of_wildcards {escape : Option Char} {ps : List Char} {parts : List Wildcard}
    (read : wildcards escape ps = some parts) :
    ∀ text, wildcardsMatch parts text = true → Matches escape ps text := by
  intro text matched
  match ps with
  | [] =>
    cases read
    rw [(wildcardsMatch_nil_iff text).mp matched]
    exact .nil
  | [p] =>
    by_cases mark : escape = some p
    · simp [wildcards, mark] at read
    · obtain ⟨parts, none, rfl⟩ := Option.map_eq_some_iff.mp ((wildcards_cons mark []).symm.trans read)
      exact matches_of_part mark (matches_of_wildcards none) matched
  | p :: q :: ps =>
    by_cases mark : escape = some p
    · rw [wildcards, if_pos mark] at read
      obtain ⟨parts, later, rfl⟩ := Option.map_eq_some_iff.mp read
      cases text with
      | nil => simp [wildcardsMatch] at matched
      | cons c cs =>
        obtain ⟨rfl, found⟩ : q = c ∧ wildcardsMatch parts cs = true := by simpa [wildcardsMatch] using matched
        exact .escaped mark (matches_of_wildcards later cs found)
    · obtain ⟨parts, later, rfl⟩ := Option.map_eq_some_iff.mp ((wildcards_cons mark (q :: ps)).symm.trans read)
      exact matches_of_part mark (matches_of_wildcards later) matched

theorem exists_of_matches {escape : Option Char} {ps text : List Char} (split : Matches escape ps text) :
    ∃ parts, wildcards escape ps = some parts ∧ wildcardsMatch parts text = true := by
  induction split with
  | nil => exact ⟨[], rfl, rfl⟩
  | run run mark _ ih =>
    obtain ⟨parts, read, matched⟩ := ih
    refine ⟨.run :: parts, ?_, (wildcardsMatch_run_iff parts _).mpr ⟨run, _, rfl, matched⟩⟩
    rw [wildcards_cons mark, read]
    rfl
  | one c mark _ ih =>
    obtain ⟨parts, read, matched⟩ := ih
    refine ⟨.one :: parts, ?_, matched⟩
    rw [wildcards_cons mark, read]
    rfl
  | @literal _ _ c mark run one _ ih =>
    obtain ⟨parts, read, matched⟩ := ih
    refine ⟨.literal c :: parts, ?_, by simp [wildcardsMatch, matched]⟩
    rw [wildcards_cons mark, read]
    simp [wildcard, run, one]
  | @escaped _ _ e c mark _ ih =>
    obtain ⟨parts, read, matched⟩ := ih
    refine ⟨.literal c :: parts, ?_, by simp [wildcardsMatch, matched]⟩
    rw [wildcards, if_pos mark, read]
    rfl

/-- A pattern can be split against a text if and only if its parts match it. -/
theorem matches_iff_wildcards {escape : Option Char} {ps text : List Char} :
    Matches escape ps text ↔ ∃ parts, wildcards escape ps = some parts ∧ wildcardsMatch parts text = true :=
  ⟨exists_of_matches, fun ⟨_, read, matched⟩ => matches_of_wildcards read text matched⟩

/-- A pattern matches a text when its parts do. -/
theorem isMatch_eq (pattern text : String) :
    isMatch pattern text = wildcardsMatch (pattern.toList.map wildcard) text.toList := by
  rw [Bool.eq_iff_iff, isMatch_iff, matches_iff_wildcards, wildcards_none]
  simp

theorem occursIn_iff (needle text : List Char) : occursIn needle text = true ↔ needle <:+: text := by
  induction text with
  | nil => simp [occursIn]
  | cons c cs ih =>
    rw [occursIn, Bool.or_eq_true, ih, List.isPrefixOf_iff_prefix, List.infix_cons_iff]

/-! ## Escaped patterns -/

/-- The parts of an escaped text between other parts. -/
theorem wildcards_escape (s : String) (ps : List Char) :
    wildcards (some '!') ((escape s).toList ++ ps) =
      (wildcards (some '!') ps).map (s.toList.map .literal ++ ·) := by
  rw [escape, String.toList_ofList, wildcards_escaped]

theorem like_plain (pattern s : String) :
    Datum.like none (.value (.text s)) (.value (.text pattern)) = some (isMatch pattern s) := by
  simp [Datum.like, wildcards_none, isMatch_eq]

theorem like_startsWith (start s : String) :
    Datum.like (some '!') (.value (.text s)) (.value (.text (escape start ++ "%"))) =
      some (start.toList.isPrefixOf s.toList) := by
  have parts : wildcards (some '!') (escape start ++ "%").toList =
      some (start.toList.map .literal ++ [.run]) := by
    rw [String.toList_append, wildcards_escape]
    rfl
  rw [Datum.like, parts, Option.map_some, Option.some_inj, Bool.eq_iff_iff,
    wildcardsMatch_literals_iff, List.isPrefixOf_iff_prefix]
  simp only [wildcardsMatch_run, and_true]
  exact Iff.rfl

theorem like_endsWith (ending s : String) :
    Datum.like (some '!') (.value (.text s)) (.value (.text ("%" ++ escape ending))) =
      some (ending.toList.isSuffixOf s.toList) := by
  have parts : wildcards (some '!') ("%" ++ escape ending).toList =
      some (.run :: ending.toList.map .literal) := by
    rw [String.toList_append, show "%".toList = ['%'] from rfl, List.singleton_append,
      wildcards_cons (by decide), ← List.append_nil (escape ending).toList, wildcards_escape]
    simp [wildcards, wildcard]
  have ends (back : List Char) :
      wildcardsMatch (ending.toList.map .literal) back = true ↔ back = ending.toList := by
    have literals := wildcardsMatch_literals_iff ending.toList [] back
    rw [List.append_nil] at literals
    simpa [wildcardsMatch_nil_iff, @eq_comm _ back] using literals
  rw [Datum.like, parts, Option.map_some, Option.some_inj, Bool.eq_iff_iff, wildcardsMatch_run_iff,
    List.isSuffixOf_iff_suffix]
  simp only [ends]
  exact ⟨fun ⟨front, _, whole, same⟩ => ⟨front, same ▸ whole⟩,
    fun ⟨front, whole⟩ => ⟨front, _, whole, rfl⟩⟩

theorem like_contains (needle s : String) :
    Datum.like (some '!') (.value (.text s)) (.value (.text ("%" ++ escape needle ++ "%"))) =
      some (occursIn needle.toList s.toList) := by
  have parts : wildcards (some '!') ("%" ++ escape needle ++ "%").toList =
      some (.run :: (needle.toList.map .literal ++ [.run])) := by
    rw [String.toList_append, String.toList_append, show "%".toList = ['%'] from rfl,
      List.singleton_append, List.cons_append, wildcards_cons (by decide), wildcards_escape]
    rfl
  rw [Datum.like, parts, Option.map_some, Option.some_inj, Bool.eq_iff_iff, wildcardsMatch_run_iff,
    occursIn_iff]
  simp only [wildcardsMatch_literals_iff, wildcardsMatch_run, and_true]
  constructor
  · rintro ⟨front, _, whole, back, rfl⟩
    exact ⟨front, back, by rw [List.append_assoc, whole]⟩
  · rintro ⟨front, back, whole⟩
    exact ⟨front, _, by rw [← List.append_assoc, whole], back, rfl⟩

end Like
end Sift
