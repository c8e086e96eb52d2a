import Sift.Proofs.Like.Literal
import Sift.Proofs.Restriction.Agreement

/-!
# Patterns of callers

A pattern that a caller gives is bound as it is, and its match names no escape character. A
database that has one of its own reads the pattern by it, while a row held in memory is matched
without any. Both agree on every text exactly if the character does not occur in the pattern:
otherwise there is a text that has too few of it to be matched in memory.
-/
namespace Sift

open Sql

/-! ## Patterns with and without an escape character -/

namespace Like

/-- A text that parts of a pattern match. Runs are empty, and where any character may stand there is a space. -/
def sample : List Wildcard → List Char
  | [] => []
  | .run :: parts => sample parts
  | .one :: parts => ' ' :: sample parts
  | .literal c :: parts => c :: sample parts

theorem wildcardsMatch_sample (parts : List Wildcard) : wildcardsMatch parts (sample parts) = true := by
  induction parts with
  | nil => rfl
  | cons part parts ih =>
    cases part with
    | run => exact (wildcardsMatch_run_iff parts _).mpr ⟨[], _, rfl, ih⟩
    | one => exact ih
    | literal c => simpa [sample, wildcardsMatch] using ih

variable {mark : Char}

/-- Without an escape character, a character that is no wildcard is matched by itself each time. -/
theorem count_le_of_matches (run : mark ≠ '%') (one : mark ≠ '_') {ps text : List Char}
    (split : Matches none ps text) : ps.count mark ≤ text.count mark := by
  induction split with
  | nil => exact Nat.le_refl 0
  | run front _ _ ih =>
    rw [List.count_cons_of_ne run.symm, List.count_append]
    exact Nat.le_add_left_of_le ih
  | one c _ _ ih =>
    rw [List.count_cons_of_ne one.symm]
    exact ih.trans List.count_le_count_cons
  | literal _ _ _ _ ih =>
    rw [List.count_cons, List.count_cons]
    exact Nat.add_le_add_right ih _
  | escaped mark => cases mark

theorem count_sample_wildcard (space : mark ≠ ' ') {p : Char} (other : mark ≠ p) (parts : List Wildcard) :
    (sample (wildcard p :: parts)).count mark = (sample parts).count mark := by
  rw [wildcard]
  split_ifs
  · rfl
  · exact List.count_cons_of_ne space.symm
  · exact List.count_cons_of_ne other.symm

/-- Of the escape characters in a pattern, every second one at most stands for itself. -/
theorem count_sample_le (space : mark ≠ ' ') {ps : List Char} {parts : List Wildcard}
    (read : wildcards (some mark) ps = some parts) : 2 * (sample parts).count mark ≤ ps.count mark := by
  have unmarked {p : Char} {ps : List Char} {parts : List Wildcard} (other : mark ≠ p)
      (rest : 2 * (sample parts).count mark ≤ ps.count mark) :
      2 * (sample (wildcard p :: parts)).count mark ≤ (p :: ps).count mark := by
    rwa [count_sample_wildcard space other, List.count_cons_of_ne other.symm]
  match ps with
  | [] =>
    cases read
    exact Nat.le_refl 0
  | [p] =>
    by_cases same : mark = p
    · simp [wildcards, same] at read
    · rw [wildcards_cons (by simpa using same)] at read
      obtain ⟨parts, nothing, rfl⟩ := Option.map_eq_some_iff.mp read
      exact unmarked same (count_sample_le space nothing)
  | p :: q :: ps =>
    by_cases same : mark = p
    · subst same
      rw [wildcards, if_pos rfl] at read
      obtain ⟨parts, later, rfl⟩ := Option.map_eq_some_iff.mp read
      have rest := count_sample_le space later
      rw [sample, List.count_cons_self, List.count_cons, List.count_cons]
      -- if the next character is the escape character too, it is one in the text and one of two in the pattern
      split <;> omega
    · rw [wildcards_cons (by simpa using same)] at read
      obtain ⟨parts, later, rfl⟩ := Option.map_eq_some_iff.mp read
      exact unmarked same (count_sample_le space later)

theorem wildcards_of_notMem {ps : List Char} (absent : mark ∉ ps) : wildcards (some mark) ps = wildcards none ps := by
  induction ps with
  | nil => rfl
  | cons p ps ih =>
    obtain ⟨other, absent⟩ := List.ne_and_not_mem_of_not_mem_cons absent
    rw [wildcards_cons (by simpa using other), wildcards_cons (by simp), ih absent]

/-- A pattern is matched by the same texts with and without an escape character exactly if it has none. -/
theorem matches_agree_iff (run : mark ≠ '%') (one : mark ≠ '_') (space : mark ≠ ' ') {ps : List Char}
    (closed : dangles mark ps = false) :
    (∀ text, Matches none ps text ↔ Matches (some mark) ps text) ↔ mark ∉ ps := by
  constructor
  · intro agree
    -- the sample is matched by the database, and so in memory, but has half of the escape characters at most
    obtain ⟨parts, read⟩ := Option.isSome_iff_exists.mp (by rw [isSome_wildcards mark ps, closed]; rfl)
    have matched : Matches (some mark) ps (sample parts) := matches_of_wildcards read _ (wildcardsMatch_sample parts)
    have taken := count_le_of_matches run one ((agree _).mpr matched)
    have escaped := count_sample_le space read
    exact List.count_eq_zero.mp (by omega)
  · intro absent text
    rw [matches_iff_wildcards, matches_iff_wildcards, wildcards_of_notMem absent]

end Like

/-! ## Databases with an escape character -/

namespace Sql

mutual

/-- An expression as a database reads it that has an escape character for matches that name none. -/
def Expr.escapedBy (mark : Char) : Expr → Expr
  | .compare op x y => .compare op x y
  | .between negated x lower upper => .between negated x lower upper
  | .isIn negated x ys => .isIn negated x ys
  | .like negated x pattern escape => .like negated x pattern (escape.or (some mark))
  | .isNull negated x => .isNull negated x
  | .isTruth negated truth x => .isTruth negated truth x
  | .and x y => .and (x.escapedBy mark) (y.escapedBy mark)
  | .or x y => .or (x.escapedBy mark) (y.escapedBy mark)
  | .exist negated source condition => .exist negated (source.escapedBy mark) (condition.escapedBy mark)
termination_by structural x => x

def From.escapedBy (mark : Char) : From → From
  | .table table name => .table table name
  | .join outer left right on => .join outer (left.escapedBy mark) (right.escapedBy mark) (on.escapedBy mark)
termination_by structural x => x

end

end Sql

namespace Restriction

/-- The truth of a restriction for a row as a database with an escape character reads its text, with the values that it
binds. -/
def escapedTruth? (mark : Char) (d : Dialect) (b : Binding) (c : ColumnRef) (nullable : Bool) (db : Database)
    (look : Lookup) (x : Restriction) : Option Truth :=
  match x.condition? c nullable with
  | none => some (some true)
  | some k => (((k.print d).run b).1.expr? ((k.print d).run b).2.params).map fun e => (e.escapedBy mark).truth db look

variable {db : Database} {look : Lookup} {c : ColumnRef}

/-- A pattern test of a text, where null passes too or not. -/
theorem truth_escapedBy_like {s pattern : String} {matched : Bool} (text : look c = .text s) (mark : Char)
    (read : Datum.like (some mark) (.value (.text s)) (.value (.text pattern)) = some matched) (orNull negated : Bool) :
    ((Condition.test orNull c (.like negated pattern false)).expr.escapedBy mark).truth db look =
      some (matched != negated) := by
  have test : (((Test.like negated pattern false).expr c).escapedBy mark).truth db look =
      some (matched != negated) := by
    show (Datum.like (some mark) (.value (look c)) _).negate negated = _
    rw [text]
    exact (congrArg _ read).trans (Truth.negate_some _ _)
  cases orNull with
  | false => exact test
  | true =>
    show Truth.or (some ((look c).isNull != false)) _ = _
    rw [text, test]
    exact truth_or _ _

/-- The database answers whether the pattern matches the text, read by its escape character. -/
theorem escapedTruth?_like {s pattern : String} {mark : Char} (plain : c.Plain) (text : look c = .text s)
    (closed : Like.dangles mark pattern.toList = false) (d : Dialect) (b : Binding) (nullable negated : Bool) :
    ∃ matched : Bool, (matched = true ↔ Like.Matches (some mark) pattern.toList s.toList) ∧
      escapedTruth? mark d b c nullable db look ⟨.like pattern, negated⟩ = some (some (matched != negated)) := by
  obtain ⟨parts, read⟩ := Option.isSome_iff_exists.mp (by rw [Like.isSome_wildcards, closed]; rfl)
  have answered : Datum.like (some mark) (.value (.text s)) (.value (.text pattern)) =
      some (wildcardsMatch parts s.toList) := by
    rw [Datum.like, read, Option.map_some]
  have nonempty : Predicate.like pattern ≠ .isIn [] := Predicate.noConfusion
  have compiled : condition? c nullable ⟨.like pattern, negated⟩ =
      some (.test (negated && nullable && true) c (.like negated pattern false)) :=
    condition?_of_ne nonempty negated
  have printed := Condition.expr?_print d (plain_of_condition plain compiled) b
  refine ⟨wildcardsMatch parts s.toList, ?_, ?_⟩
  · rw [Like.matches_iff_like, answered, Option.some_inj]
  · rw [escapedTruth?, compiled]
    dsimp only
    rw [printed]
    exact congrArg some (truth_escapedBy_like text mark answered _ negated)

theorem holds_like (pattern s : String) (negated : Bool) :
    (Restriction.mk (.like pattern) negated).holds (.text s) = (Like.isMatch pattern s != negated) := rfl

end Restriction

/-- A database whose escape character is the backslash answers the match with a pattern of a caller, and its negation,
by the pattern as it reads it: a backslash makes the next character literal. A text held in memory is matched without
an escape character, so both agree on a text exactly if it is matched by either reading or by none, and on all texts
exactly if the pattern has no backslash. Patterns that end in a dangling backslash are left out. -/
theorem patterns_agree_without_backslash (d : Dialect) (b : Binding) {c : ColumnRef} (plain : c.Plain)
    (nullable : Bool) (db : Database) {pattern : String} (closed : Like.dangles '\\' pattern.toList = false)
    (negated : Bool) :
    let x : Restriction := if negated then .notLike pattern else .like pattern
    let Agrees (look : Lookup) (s : String) : Prop :=
      x.escapedTruth? '\\' d b c nullable db look = some (some (x.holds (.text s)))
    (∀ (look : Lookup) (s : String), look c = .text s →
      (∃ matched : Bool, (matched = true ↔ Like.Matches (some '\\') pattern.toList s.toList) ∧
        x.escapedTruth? '\\' d b c nullable db look = some (some (matched != negated))) ∧
      (Agrees look s ↔
        (Like.Matches none pattern.toList s.toList ↔ Like.Matches (some '\\') pattern.toList s.toList))) ∧
    ((∀ (look : Lookup) (s : String), look c = .text s → Agrees look s) ↔ '\\' ∉ pattern.toList) := by
  intro x Agrees
  have same : x = ⟨.like pattern, negated⟩ := by cases negated <;> rfl
  have answers (look : Lookup) (s : String) (text : look c = .text s) :
      ∃ matched : Bool, (matched = true ↔ Like.Matches (some '\\') pattern.toList s.toList) ∧
        x.escapedTruth? '\\' d b c nullable db look = some (some (matched != negated)) := by
    rw [same]
    exact Restriction.escapedTruth?_like plain text closed d b nullable negated
  have agree (look : Lookup) (s : String) (text : look c = .text s) : Agrees look s ↔
      (Like.Matches none pattern.toList s.toList ↔ Like.Matches (some '\\') pattern.toList s.toList) := by
    obtain ⟨matched, reads, answered⟩ := answers look s text
    show x.escapedTruth? '\\' d b c nullable db look = _ ↔ _
    rw [answered, same, Restriction.holds_like, ← Like.isMatch_iff, ← reads]
    cases matched <;> cases Like.isMatch pattern s <;> simp
  refine ⟨fun look s text => ⟨answers look s text, agree look s text⟩, ?_⟩
  rw [← Like.matches_agree_iff (by decide) (by decide) (by decide) closed]
  constructor
  · intro all text
    have agreed := (agree (fun _ => .text (String.ofList text)) _ rfl).mp (all _ _ rfl)
    rwa [String.toList_ofList] at agreed
  · intro all look s text
    exact (agree look s text).mpr (all s.toList)

/-- A pattern with wildcards only, and its negation. -/
theorem patterns_agree_without_backslash_of_run :
    let c : ColumnRef := ⟨some "t0", "title"⟩
    let Agrees (d : Dialect) (x : Restriction) (look : Lookup) (s : String) : Prop :=
      x.escapedTruth? '\\' d .start c true (fun _ => []) look = some (some (x.holds (.text s)))
    ∀ (look : Lookup) (s : String), look c = .text s →
      Agrees .postgres (.like "50% o_f") look s ∧ Agrees .mySql (.notLike "50% o_f") look s := by
  intro c Agrees look s text
  have plain : c.Plain := ⟨by decide, fun t named => by cases named; decide⟩
  have closed : Like.dangles '\\' "50% o_f".toList = false := by decide
  have positive := (patterns_agree_without_backslash .postgres .start plain true (fun _ => []) closed false).2
  have negative := (patterns_agree_without_backslash .mySql .start plain true (fun _ => []) closed true).2
  exact ⟨positive.mpr (by decide) look s text, negative.mpr (by decide) look s text⟩

/-- A backslash before a wildcard: the database finds the text with the percent sign, memory does not. -/
theorem backslash_escapes_in_database_only :
    let x : Restriction := .like "a\\%b"
    let c : ColumnRef := ⟨none, "status"⟩
    Like.dangles '\\' "a\\%b".toList = false ∧ x.holds (.text "a%b") = false ∧
      x.escapedTruth? '\\' .postgres .start c true (fun _ => []) (fun _ => .text "a%b") = some (some true) ∧
      x.escapedTruth? '\\' .mySql .start c true (fun _ => []) (fun _ => .text "a%b") = some (some true) := by
  intro x c
  refine ⟨by decide, ?_, ?_, ?_⟩
  · show (Like.isMatch _ _ != false) = false
    rw [Like.isMatch_eq]
    decide +kernel
  · decide +kernel
  · decide +kernel

end Sift
