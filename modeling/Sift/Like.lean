/-!
# LIKE patterns

`%` stands for any run of characters, `_` for one character, and every other
character for itself. The search for a match can go back to the last `%` that it
passed, and to no earlier one.
-/
namespace Sift.Like

/-- Whether a character of a pattern stands for a given character. -/
def accepts (p c : Char) : Bool := p = '_' || (p ≠ '%' && p = c)

theorem ne_percent_of_accepts {p c : Char} (accepted : accepts p c = true) : p ≠ '%' := by
  intro percent
  simp [accepts, percent] at accepted

/-- The last `%` that a search passed: the pattern after it, and the text after the run that it
stands for. -/
structure Wild where
  pattern : List Char
  text : List Char

/-- What a search has left of a pattern and of a text. -/
structure Search where
  pattern : List Char
  text : List Char
  wild : Option Wild
  /-- Since the last `%`, every character of the text was taken by one of the pattern. -/
  level : ∀ w ∈ wild, ∃ taking taken, w.pattern = taking ++ pattern ∧ w.text = taken ++ text ∧
    taking.length = taken.length ∧ '%' ∉ taking

/-- What comes of a step. -/
inductive Progress where
  | answer (matched : Bool)
  | next (s : Search)

namespace Search

def start (pattern text : List Char) : Search := ⟨pattern, text, none, nofun⟩

/-- The search after a character of the pattern has taken one of the text. -/
def take (s : Search) (p c : Char) (ps cs : List Char) (pattern : s.pattern = p :: ps)
    (text : s.text = c :: cs) (single : p ≠ '%') : Search where
  pattern := ps
  text := cs
  wild := s.wild
  level := by
    intro w passed
    obtain ⟨taking, taken, patterns, texts, same, absent⟩ := s.level w passed
    refine ⟨taking ++ [p], taken ++ [c], ?_, ?_, ?_, ?_⟩
    · simp [patterns, pattern]
    · simp [texts, text]
    · simp [same]
    · simp [absent, single.symm]

/-- The search behind a `%`, given the text after its run. -/
def behind (pattern text : List Char) : Search where
  pattern := pattern
  text := text
  wild := some ⟨pattern, text⟩
  level := by
    intro w passed
    cases passed
    exact ⟨[], [], rfl, rfl, rfl, List.not_mem_nil⟩

/-- Goes back to the last `%`, whose run takes one more character. -/
def retry (s : Search) : Progress :=
  match s.wild with
  | some w => .next (behind w.pattern w.text.tail)
  | none => .answer false

/-- One step. At the end of the text, only `%` may be left of the pattern. -/
def step (s : Search) : Progress :=
  match text : s.text, pattern : s.pattern with
  | [], ps => .answer (ps.all (· = '%'))
  | c :: cs, p :: ps =>
    if accepted : accepts p c then .next (s.take p c ps cs pattern text (ne_percent_of_accepts accepted))
    else if p = '%' then .next (behind ps (c :: cs))
    else s.retry
  | _ :: _, [] => s.retry

/-- The pattern is at its end before the text is, or its next character does not fit. -/
structure Stuck (s : Search) : Prop where
  text : s.text ≠ []
  pattern : ∀ p ps c cs, s.pattern = p :: ps → s.text = c :: cs → accepts p c = false ∧ p ≠ '%'

/-- All that a step can do. -/
inductive Moves (s : Search) : Progress → Prop
  | ends (text : s.text = []) : Moves s (.answer (s.pattern.all (· = '%')))
  | takes {p c : Char} {t : Search} (pattern : s.pattern = p :: t.pattern) (text : s.text = c :: t.text)
      (accepted : accepts p c = true) (wild : t.wild = s.wild) : Moves s (.next t)
  | passes {ps : List Char} (pattern : s.pattern = '%' :: ps) : Moves s (.next (behind ps s.text))
  | retries {w : Wild} (stuck : s.Stuck) (wild : s.wild = some w) :
      Moves s (.next (behind w.pattern w.text.tail))
  | fails (stuck : s.Stuck) (wild : s.wild = none) : Moves s (.answer false)

theorem moves_retry {s : Search} (stuck : s.Stuck) : s.Moves s.retry := by
  unfold retry
  split
  · next wild => exact .retries stuck wild
  · next wild => exact .fails stuck wild

theorem moves_step (s : Search) : s.Moves s.step := by
  unfold step
  split
  · next text => exact .ends text
  · next c cs p ps text pattern =>
    split
    · next accepted => exact .takes pattern text accepted rfl
    · next refused =>
      split
      · next percent =>
        subst percent
        exact text ▸ .passes pattern
      · next single =>
        refine moves_retry ⟨by simp [text], ?_⟩
        intro p' ps' c' cs' pattern' text'
        obtain ⟨rfl, -⟩ := List.cons.inj (pattern.symm.trans pattern')
        obtain ⟨rfl, -⟩ := List.cons.inj (text.symm.trans text')
        exact ⟨by simpa using refused, single⟩
  · next c cs text pattern =>
    refine moves_retry ⟨by simp [text], ?_⟩
    intro p' ps' c' cs' pattern'
    simp [pattern] at pattern'

/-- The text is not longer than what the last `%` left of it. -/
theorem length_text_le {s : Search} {w : Wild} (wild : s.wild = some w) : s.text.length ≤ w.text.length := by
  obtain ⟨taking, taken, -, texts, -, -⟩ := s.level w wild
  simp [texts]

theorem length_pattern_le {s : Search} {w : Wild} (wild : s.wild = some w) :
    s.pattern.length ≤ w.pattern.length := by
  obtain ⟨taking, taken, patterns, -, -, -⟩ := s.level w wild
  simp [patterns]

/-- No more steps than this are left: for each place where the run of the last `%` can still end, as many
as the pattern behind it has characters. -/
def size (s : Search) : Nat :=
  match s.wild with
  | some w => w.text.length * (w.pattern.length + 1) + s.pattern.length
  | none => (s.text.length + 1) * (s.pattern.length + 1) + s.pattern.length

theorem size_behind (pattern text : List Char) :
    (behind pattern text).size = text.length * (pattern.length + 1) + pattern.length := rfl

theorem size_lt_of_moves {s t : Search} (moves : s.Moves (.next t)) : t.size < s.size := by
  cases moves with
  | takes pattern text accepted wild =>
    unfold size
    rw [wild]
    split
    · simp [pattern]
    · simp only [pattern, text, List.length_cons]
      have fewer : (t.text.length + 1) * (t.pattern.length + 1) ≤
          (t.text.length + 1 + 1) * (t.pattern.length + 1 + 1) := Nat.mul_le_mul (by omega) (by omega)
      omega
  | @passes ps pattern =>
    rw [size_behind, size]
    split
    · next w wild =>
      have texts := length_text_le wild
      have patterns := length_pattern_le wild
      simp only [pattern, List.length_cons] at patterns ⊢
      have fewer : s.text.length * (ps.length + 1) ≤ w.text.length * (w.pattern.length + 1) :=
        Nat.mul_le_mul texts (by omega)
      omega
    · simp only [pattern, List.length_cons]
      have fewer : s.text.length * (ps.length + 1) ≤ (s.text.length + 1) * (ps.length + 1 + 1) :=
        Nat.mul_le_mul (by omega) (by omega)
      omega
  | @retries w stuck wild =>
    rw [size_behind, size, wild]
    have left : 0 < s.text.length := List.length_pos_iff.mpr stuck.text
    have texts := length_text_le wild
    obtain ⟨n, length⟩ : ∃ n, w.text.length = n + 1 := ⟨w.text.length - 1, by omega⟩
    simp only [List.length_tail, length, Nat.add_sub_cancel, Nat.add_mul]
    omega

/-- The answer of a search. -/
def run (s : Search) : Bool :=
  match _ : s.step with
  | .answer matched => matched
  | .next t => t.run
termination_by s.size
decreasing_by exact size_lt_of_moves (‹s.step = .next t› ▸ s.moves_step)

end Search

/-- Whether a pattern matches a text. -/
def isMatch (pattern text : String) : Bool := (Search.start pattern.toList text.toList).run

/-- Whether a run of characters occurs in a text. -/
def occursIn (needle : List Char) : List Char → Bool
  | [] => needle.isEmpty
  | c :: cs => needle.isPrefixOf (c :: cs) || occursIn needle cs

/-- The character that makes the next one of a pattern literal. -/
def escapeMark : Char := '!'

/-- One character of a pattern that matches a text literally. -/
def escapeChar (c : Char) : List Char :=
  if c = escapeMark ∨ c = '%' ∨ c = '_' then [escapeMark, c] else [c]

/-- The pattern that matches a text literally, if `!` is the escape character. -/
def escape (s : String) : String := String.ofList (s.toList.flatMap escapeChar)

end Sift.Like
