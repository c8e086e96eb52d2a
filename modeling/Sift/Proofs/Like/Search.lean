import Sift.Like
import Mathlib.Data.List.Infix
import Mathlib.Logic.Function.Iterate

/-!
# The search for a match

A search that goes back to the last `%` alone finds every match. What an earlier `%`
could still take, the last one can take as well, because every character after the
earlier one has its place in the text already.
-/
namespace Sift.Like

/-! ## Matches -/

/-- A pattern is split against a text: `%` matches any run of characters, `_` any one character, the
character after the escape character itself, and every other character itself. -/
inductive Matches (escape : Option Char) : List Char → List Char → Prop
  | nil : Matches escape [] []
  | run {ps text : List Char} (run : List Char) (mark : escape ≠ some '%') (rest : Matches escape ps text) :
      Matches escape ('%' :: ps) (run ++ text)
  | one {ps text : List Char} (c : Char) (mark : escape ≠ some '_') (rest : Matches escape ps text) :
      Matches escape ('_' :: ps) (c :: text)
  | literal {ps text : List Char} {c : Char} (mark : escape ≠ some c) (run : c ≠ '%') (one : c ≠ '_')
      (rest : Matches escape ps text) : Matches escape (c :: ps) (c :: text)
  | escaped {ps text : List Char} {e c : Char} (mark : escape = some e) (rest : Matches escape ps text) :
      Matches escape (e :: c :: ps) (c :: text)

theorem matches_nil_iff {escape : Option Char} {text : List Char} : Matches escape [] text ↔ text = [] := by
  constructor
  · intro split
    cases split
    rfl
  · rintro rfl
    exact .nil

theorem matches_run_iff {escape : Option Char} (mark : escape ≠ some '%') {ps text : List Char} :
    Matches escape ('%' :: ps) text ↔ ∃ back, back <:+ text ∧ Matches escape ps back := by
  constructor
  · intro split
    cases split with
    | run run _ rest => exact ⟨_, List.suffix_append run _, rest⟩
    | literal _ run => exact absurd rfl run
    | escaped marked => exact absurd marked mark
  · rintro ⟨back, ⟨run, rfl⟩, rest⟩
    exact .run run mark rest

/-- A character that is no `%` matches one character. -/
theorem matches_single_iff {p : Char} (single : p ≠ '%') {ps text : List Char} :
    Matches none (p :: ps) text ↔ ∃ c cs, text = c :: cs ∧ accepts p c = true ∧ Matches none ps cs := by
  constructor
  · intro split
    cases split with
    | run => exact absurd rfl single
    | one c _ rest => exact ⟨c, _, rfl, rfl, rest⟩
    | literal _ run _ rest => exact ⟨p, _, rfl, by simp [accepts, run], rest⟩
    | escaped mark => cases mark
  · rintro ⟨c, cs, rfl, accepted, rest⟩
    by_cases one : p = '_'
    · subst one
      exact .one c (by simp) rest
    · obtain rfl : p = c := by simpa [accepts, one, single] using accepted
      exact .literal (by simp) single one rest

theorem matches_iff_of_accepts {p c : Char} (accepted : accepts p c = true) {ps cs : List Char} :
    Matches none (p :: ps) (c :: cs) ↔ Matches none ps cs := by
  rw [matches_single_iff (ne_percent_of_accepts accepted)]
  constructor
  · rintro ⟨d, ds, same, -, rest⟩
    obtain ⟨-, rfl⟩ := List.cons.inj same
    exact rest
  · intro rest
    exact ⟨c, cs, rfl, accepted, rest⟩

/-- Only `%` match no characters at all. -/
theorem matches_empty_iff {ps : List Char} : Matches none ps [] ↔ ps.all (· = '%') = true := by
  induction ps with
  | nil => simp [matches_nil_iff]
  | cons p ps ih =>
    by_cases percent : p = '%'
    · subst percent
      simp [matches_run_iff, ih]
    · simp [matches_single_iff percent, percent]

/-- A pattern without `%` takes as many characters as it has. -/
theorem exists_of_matches_append {taking ps text : List Char} (absent : '%' ∉ taking)
    (split : Matches none (taking ++ ps) text) :
    ∃ taken back, text = taken ++ back ∧ taken.length = taking.length ∧ Matches none ps back := by
  induction taking generalizing text with
  | nil => exact ⟨[], text, rfl, rfl, split⟩
  | cons p taking ih =>
    rw [List.mem_cons, not_or] at absent
    obtain ⟨c, cs, rfl, -, rest⟩ := (matches_single_iff (Ne.symm absent.1)).mp split
    obtain ⟨taken, back, rfl, same, found⟩ := ih absent.2 rest
    exact ⟨c :: taken, back, rfl, by simp [same], found⟩

/-! ## Steps -/

namespace Search

/-- A match of what is left, or one in which the run of the last `%` takes more characters. -/
def Finds (s : Search) : Prop :=
  Matches none s.pattern s.text ∨
    ∃ w, s.wild = some w ∧ ∃ back, back <:+ w.text.tail ∧ Matches none w.pattern back

theorem suffix_iff {back text : List Char} : back <:+ text ↔ back = text ∨ back <:+ text.tail := by
  cases text with
  | nil => simp
  | cons c cs => exact List.suffix_cons_iff

/-- Behind a `%`, a search finds the matches of the pattern that begins with it. -/
theorem finds_behind_iff {ps text : List Char} :
    (behind ps text).Finds ↔ ∃ back, back <:+ text ∧ Matches none ps back := by
  simp only [@suffix_iff _ text]
  constructor
  · rintro (found | ⟨w, passed, back, shorter, found⟩)
    · exact ⟨text, .inl rfl, found⟩
    · cases passed
      exact ⟨back, .inr shorter, found⟩
  · rintro ⟨back, rfl | shorter, found⟩
    · exact .inl found
    · exact .inr ⟨_, rfl, back, shorter, found⟩

/-- If the last `%` took more characters, the pattern that is left would match a shorter part of the
text. -/
theorem exists_of_longer_run {s : Search} {w : Wild} (wild : s.wild = some w) {back : List Char}
    (shorter : back <:+ w.text.tail) (found : Matches none w.pattern back) :
    ∃ rest, rest <:+ s.text.tail ∧ Matches none s.pattern rest := by
  obtain ⟨taking, taken, patterns, texts, same, absent⟩ := s.level w wild
  rw [patterns] at found
  obtain ⟨front, rest, rfl, level, found⟩ := exists_of_matches_append absent found
  refine ⟨rest, ?_, found⟩
  have inside : rest <:+ taken ++ s.text :=
    texts ▸ (List.suffix_append front rest).trans (shorter.trans (List.tail_suffix _))
  have tail : s.text.tail <:+ taken ++ s.text :=
    (List.tail_suffix _).trans (List.suffix_append taken s.text)
  refine List.suffix_of_suffix_length_le inside tail ?_
  have length := shorter.length_le
  simp only [texts, List.length_append, List.length_tail] at length ⊢
  omega

theorem not_matches_of_stuck {s : Search} (stuck : s.Stuck) : ¬Matches none s.pattern s.text := by
  intro found
  cases pattern : s.pattern with
  | nil =>
    rw [pattern] at found
    exact stuck.text (matches_nil_iff.mp found)
  | cons p ps =>
    rw [pattern] at found
    obtain ⟨c, cs, text⟩ := List.exists_cons_of_ne_nil stuck.text
    obtain ⟨refused, single⟩ := stuck.pattern p ps c cs pattern text
    obtain ⟨d, ds, text', accepted, -⟩ := (matches_single_iff single).mp found
    obtain ⟨rfl, -⟩ := List.cons.inj (text.symm.trans text')
    rw [refused] at accepted
    cases accepted

/-- A step to another state keeps the matches that can be found. -/
theorem finds_iff_of_moves {s t : Search} (moves : s.Moves (.next t)) : s.Finds ↔ t.Finds := by
  cases moves with
  | takes pattern text accepted wild => rw [Finds, Finds, pattern, text, matches_iff_of_accepts accepted, wild]
  | @passes ps pattern =>
    rw [finds_behind_iff, ← matches_run_iff (by simp), ← pattern]
    constructor
    · rintro (found | ⟨w, wild, back, shorter, found⟩)
      · exact found
      · -- The `%` that is passed takes what the run of the earlier one would have taken.
        obtain ⟨rest, inside, found⟩ := exists_of_longer_run wild shorter found
        rw [pattern, matches_run_iff (by simp)] at found ⊢
        obtain ⟨back, inner, found⟩ := found
        exact ⟨back, inner.trans (inside.trans (List.tail_suffix _)), found⟩
    · exact .inl
  | @retries w stuck wild =>
    rw [finds_behind_iff]
    constructor
    · rintro (found | ⟨w', wild', longer⟩)
      · exact absurd found (not_matches_of_stuck stuck)
      · obtain rfl := Option.some.inj (wild.symm.trans wild')
        exact longer
    · intro longer
      exact .inr ⟨w, wild, longer⟩

/-- The answer of a step is whether there is a match. -/
theorem finds_iff_of_answer {s : Search} {matched : Bool} (moves : s.Moves (.answer matched)) :
    s.Finds ↔ matched = true := by
  cases moves with
  | ends text =>
    rw [← matches_empty_iff]
    constructor
    · rintro (found | ⟨w, wild, back, shorter, found⟩)
      · exact text ▸ found
      · obtain ⟨rest, inside, found⟩ := exists_of_longer_run wild shorter found
        rw [text] at inside
        exact List.suffix_nil.mp inside ▸ found
    · intro found
      exact .inl (text.symm ▸ found)
  | fails stuck wild =>
    constructor
    · rintro (found | ⟨w, wild', -⟩)
      · exact absurd found (not_matches_of_stuck stuck)
      · rw [wild] at wild'
        cases wild'
    · intro never
      cases never

/-! ## Runs -/

theorem run_of_answer {s : Search} {matched : Bool} (step : s.step = .answer matched) : s.run = matched := by
  rw [run]
  split
  · next answered => exact Progress.answer.inj (answered.symm.trans step)
  · next moved => cases moved.symm.trans step

theorem run_of_next {s t : Search} (step : s.step = .next t) : s.run = t.run := by
  rw [run]
  split
  · next answered => cases answered.symm.trans step
  · next moved => rw [Progress.next.inj (moved.symm.trans step)]

/-- A search answers whether there is a match. -/
theorem run_iff (s : Search) : s.run = true ↔ s.Finds := by
  have moves := s.moves_step
  cases step : s.step with
  | answer matched =>
    rw [step] at moves
    rw [run_of_answer step, finds_iff_of_answer moves]
  | next t =>
    rw [step] at moves
    rw [run_of_next step, finds_iff_of_moves moves]
    exact run_iff t
termination_by s.size
decreasing_by exact size_lt_of_moves (step ▸ s.moves_step)

end Search

/-- One more step. An answer stands. -/
def Progress.advance : Progress → Progress
  | .answer matched => .answer matched
  | .next s => s.step

namespace Search

/-- A search has come to its answer after no more steps than its size. -/
theorem exists_iterate_eq_answer (s : Search) :
    ∃ n ≤ s.size + 1, Progress.advance^[n] (.next s) = .answer s.run := by
  cases step : s.step with
  | answer matched => exact ⟨1, by omega, by rw [run_of_answer step]; exact step⟩
  | next t =>
    have smaller : t.size < s.size := size_lt_of_moves (step ▸ s.moves_step)
    obtain ⟨n, bounded, answered⟩ := exists_iterate_eq_answer t
    refine ⟨n + 1, by omega, ?_⟩
    rw [Function.iterate_succ_apply, Progress.advance, step, answered, run_of_next step]
termination_by s.size
decreasing_by exact size_lt_of_moves (step ▸ s.moves_step)

end Search

/-- The answer is whether the pattern can be split against the text. -/
theorem isMatch_iff {pattern text : String} :
    isMatch pattern text = true ↔ Matches none pattern.toList text.toList := by
  rw [isMatch, Search.run_iff, Search.Finds]
  constructor
  · rintro (found | ⟨w, passed, -⟩)
    · exact found
    · cases passed
  · exact .inl

/-- A text matches a pattern if and only if the pattern can be split against it, and the search comes to
its answer in as many steps as there are pairs of a place in the text and a place in the pattern, and
one pass over the pattern more. -/
theorem search_decides_matches (pattern text : String) :
    (isMatch pattern text = true ↔ Matches none pattern.toList text.toList) ∧
    ∃ n ≤ (text.length + 2) * (pattern.length + 1),
      Progress.advance^[n] (.next (Search.start pattern.toList text.toList)) = .answer (isMatch pattern text) := by
  refine ⟨isMatch_iff, ?_⟩
  obtain ⟨n, bounded, answered⟩ := (Search.start pattern.toList text.toList).exists_iterate_eq_answer
  refine ⟨n, ?_, answered⟩
  have size : (Search.start pattern.toList text.toList).size =
      (text.length + 1) * (pattern.length + 1) + pattern.length := by
    simp only [Search.start, Search.size, String.length_toList]
  calc n ≤ (text.length + 1) * (pattern.length + 1) + pattern.length + 1 := size ▸ bounded
    _ = (text.length + 1) * (pattern.length + 1) + (pattern.length + 1) := Nat.add_assoc ..
    _ = (text.length + 2) * (pattern.length + 1) := (Nat.succ_mul ..).symm

/-- The first `%` is left behind at the first `a`, the second one goes back from the first `b`. -/
example : isMatch "%a%b_" "xaabbabc" = true := by cbv

end Sift.Like
