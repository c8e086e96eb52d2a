import Sift.Config

/-!
# Statements cut for the log

A statement that is longer than the limit is cut between two characters, as late as the
limit allows. The place is found by going back from the limit byte by byte.
-/
namespace Sift
namespace LogConfig

variable {sql : String} {n : Nat}

/-! ## The place of the cut -/

theorem lastPlace_le (sql : String) (n : Nat) : (lastPlace sql n).offset.byteIdx ≤ n := by
  induction n with
  | zero => exact Nat.le_refl 0
  | succ n ih =>
    rw [lastPlace]
    split
    next => exact Nat.le_refl _
    next => exact Nat.le_succ_of_le ih

/-- No later place is at or before the byte. -/
theorem le_lastPlace (p : sql.Pos) (early : p.offset.byteIdx ≤ n) :
    p.offset.byteIdx ≤ (lastPlace sql n).offset.byteIdx := by
  induction n with
  | zero => exact early
  | succ n ih =>
    rw [lastPlace]
    split
    next => exact early
    next inside =>
      have other : p.offset.byteIdx ≠ n + 1 := by
        intro here
        have same : p.offset = ⟨n + 1⟩ := String.Pos.Raw.ext here
        exact inside (same ▸ p.isValid)
      exact ih (by omega)

/-! ## What is kept -/

/-- Whole characters at the front of a text that fit in a number of bytes, and no others that fit are more. -/
structure LongestFront (sql : String) (n : Nat) (kept : String) : Prop where
  front : kept.toList <+: sql.toList
  fits : kept.utf8ByteSize ≤ n
  longest : ∀ other : String, other.toList <+: sql.toList → other.utf8ByteSize ≤ n → other.toList <+: kept.toList

theorem eq_append_of_isPrefix {front : String} (starts : front.toList <+: sql.toList) :
    ∃ rest, sql = front ++ rest := by
  obtain ⟨rest, whole⟩ := starts
  exact ⟨String.ofList rest, by rw [← String.toList_inj, String.toList_append, String.toList_ofList, whole]⟩

/-- Whole characters at the front end at a place. -/
theorem exists_place {front : String} (starts : front.toList <+: sql.toList) :
    ∃ p : sql.Pos, p.offset.byteIdx = front.utf8ByteSize :=
  ⟨⟨front.rawEndPos, String.Pos.Raw.isValid_iff_exists_append.mpr
    ⟨front, (eq_append_of_isPrefix starts).imp fun _ whole => ⟨whole, rfl⟩⟩⟩, rfl⟩

/-- Of two fronts of a text, the one with no more bytes is a front of the other. -/
theorem isPrefix_of_size_le {front other : String} (starts : front.toList <+: sql.toList)
    (starts' : other.toList <+: sql.toList) (size : other.utf8ByteSize ≤ front.utf8ByteSize) :
    other.toList <+: front.toList := by
  rcases List.prefix_or_prefix_of_prefix starts' starts with shorter | longer
  · exact shorter
  · obtain ⟨rest, rfl⟩ := eq_append_of_isPrefix longer
    have none : rest = "" := by
      rw [String.utf8ByteSize_append] at size
      exact String.utf8ByteSize_eq_zero_iff.mp (by omega)
    exact ⟨[], by rw [none, String.append_empty, List.append_nil]⟩

theorem longestFront_lastPlace (sql : String) (n : Nat) :
    LongestFront sql n (sql.sliceTo (lastPlace sql n)).copy := by
  obtain ⟨whole, size⟩ := (lastPlace sql n).splits
  have bytes : (lastPlace sql n).offset.byteIdx = (sql.sliceTo (lastPlace sql n)).copy.utf8ByteSize :=
    congrArg String.Pos.Raw.byteIdx size
  have front : (sql.sliceTo (lastPlace sql n)).copy.toList <+: sql.toList :=
    ⟨_, (String.toList_append).symm.trans (congrArg String.toList whole.symm)⟩
  refine ⟨front, bytes ▸ lastPlace_le sql n, fun other starts fits => ?_⟩
  obtain ⟨p, ends⟩ := exists_place starts
  have early : p.offset.byteIdx ≤ (lastPlace sql n).offset.byteIdx := le_lastPlace p (ends ▸ fits)
  exact isPrefix_of_size_le front starts (by omega)

/-- A statement within the limit is logged as it is, and so is any without one. Of a longer one the most whole
characters that fit are logged, and dots after them. -/
theorem truncate_keeps_longest_front (c : LogConfig) (sql : String) :
    (c.maxLength = none → c.truncate sql = sql) ∧
    ∀ n, c.maxLength = some n →
      (sql.utf8ByteSize ≤ n → c.truncate sql = sql) ∧
      (n < sql.utf8ByteSize → ∃ kept, LongestFront sql n kept ∧ c.truncate sql = kept ++ "...") := by
  refine ⟨fun unlimited => ?_, fun n limit => ⟨fun within => ?_, fun long => ?_⟩⟩
  · rw [truncate, unlimited]
  · rw [truncate, limit]
    exact if_neg (Nat.not_lt.mpr within)
  · refine ⟨_, longestFront_lastPlace sql n, ?_⟩
    rw [truncate, limit]
    exact if_pos long

/-- A limit within the second byte of a character, and one within the first character. -/
theorem truncate_keeps_longest_front_of_accented :
    let c : LogConfig := ⟨true, .debug, some 4⟩
    let d : LogConfig := ⟨true, .debug, some 1⟩
    let unlimited : LogConfig := ⟨true, .debug, none⟩
    (∃ kept, LongestFront "abcé!" 4 kept ∧ c.truncate "abcé!" = kept ++ "...") ∧ c.truncate "abcé!" = "abc..." ∧
      c.truncate "aé" = "aé" ∧ (∃ kept, LongestFront "é!" 1 kept ∧ d.truncate "é!" = kept ++ "...") ∧
      d.truncate "é!" = "..." ∧ unlimited.truncate "aé" = "aé" := by
  intro c d unlimited
  obtain ⟨-, limited⟩ := truncate_keeps_longest_front c "abcé!"
  obtain ⟨-, fitting⟩ := truncate_keeps_longest_front c "aé"
  obtain ⟨-, limited'⟩ := truncate_keeps_longest_front d "é!"
  exact ⟨(limited 4 rfl).2 (by decide), by decide, (fitting 4 rfl).1 (by decide), (limited' 1 rfl).2 (by decide),
    by decide, (truncate_keeps_longest_front unlimited "aé").1 rfl⟩

end LogConfig
end Sift
