import Sift.Uuid

/-!
# The text of a UUID

The hyphenated text of a UUID is read as the UUID it was written for: its digits, joined
again without the hyphens, spell its bits.
-/
namespace Sift

theorem hexDigit_digitChar {d : Nat} (digit : d < 16) : hexDigit? d.digitChar = some d := by
  have each : ∀ d : Fin 16, hexDigit? d.val.digitChar = some d.val := by decide
  exact each ⟨d, digit⟩

namespace Uuid

/-- The number that hexadecimal digits spell after a number read before them. -/
def spelled? (before : Nat) (cs : List Char) : Option Nat :=
  cs.foldlM (fun n c => (hexDigit? c).map (n * 16 + ·)) before

theorem spelled_append (before : Nat) (cs ds : List Char) :
    spelled? before (cs ++ ds) = (spelled? before cs).bind (spelled? · ds) := by
  rw [spelled?, List.foldlM_append]
  rfl

/-- The digits of a number spell it. -/
theorem spelled_toDigits (n : Nat) : spelled? 0 (Nat.toDigits 16 n) = some n := by
  induction n using Nat.strongRecOn with
  | ind n ih =>
    by_cases digit : n < 16
    · rw [Nat.toDigits_of_lt_base digit]
      simp [spelled?, hexDigit_digitChar digit]
    · have last : n % 16 < 16 := Nat.mod_lt n (by decide)
      have joined : n / 16 * 16 + n % 16 = n := by omega
      rw [Nat.toDigits_of_base_le (by decide) (by omega), spelled_append, ih (n / 16) (by omega)]
      simp [spelled?, hexDigit_digitChar last, joined]

/-- Leading zeros count for nothing. -/
theorem spelled_zeros (k : Nat) : spelled? 0 (List.replicate k '0') = some 0 := by
  induction k with
  | zero => rfl
  | succ k ih => exact ih

theorem length_digits (u : Uuid) : u.digits.length = 32 := by
  have short : (Nat.toDigits 16 u.bits.toNat).length ≤ 32 :=
    (Nat.length_toDigits_le_iff (by decide) (by decide)).mpr u.bits.isLt
  rw [digits, List.length_append, List.length_replicate]
  omega

theorem ofDigits_digits (u : Uuid) : ofDigits? u.digits = some u := by
  have spelled : spelled? 0 u.digits = some u.bits.toNat := by
    rw [digits, spelled_append, spelled_zeros]
    exact spelled_toDigits u.bits.toNat
  rw [spelled?] at spelled
  rw [ofDigits?, if_pos u.length_digits, spelled, Option.map_some, BitVec.ofNat_toNat, BitVec.setWidth_eq]

/-- Groups of 8, 4, 4, 4 and 12 digits with hyphens in between are read without the hyphens. -/
theorem ofHyphenated_groups {a b c d e : List Char} (ha : a.length = 8) (hb : b.length = 4) (hc : c.length = 4)
    (hd : d.length = 4) (he : e.length = 12) :
    ofHyphenated? (a ++ '-' :: (b ++ '-' :: (c ++ '-' :: (d ++ '-' :: e)))) = ofDigits? (a ++ b ++ c ++ d ++ e) := by
  simp [ofHyphenated?, List.drop_append, List.drop_eq_nil_of_le, List.getElem?_append, ha, hb, hc, hd, he]

theorem toList_text (u : Uuid) :
    u.text.toList = u.digits.take 8 ++ '-' :: ((u.digits.drop 8).take 4 ++ '-' :: ((u.digits.drop 12).take 4 ++
      '-' :: ((u.digits.drop 16).take 4 ++ '-' :: (u.digits.drop 20).take 12))) := by
  simp [text]

/-- A UUID is read from its text. -/
theorem parse_text (u : Uuid) : parse? u.text = some u := by
  have length : u.digits.length = 32 := u.length_digits
  have groups : u.digits = u.digits.take 8 ++ (u.digits.drop 8).take 4 ++ (u.digits.drop 12).take 4 ++
      (u.digits.drop 16).take 4 ++ (u.digits.drop 20).take 12 := by
    rw [← List.take_add, ← List.take_add, ← List.take_add, ← List.take_add, List.take_of_length_le (by omega)]
  have characters : u.text.toList.length = 36 := by
    rw [toList_text]
    simp [length]
  have plain : ¬ u.text.toList.length = 32 := by omega
  rw [parse?, if_neg plain, if_pos characters, toList_text, ofHyphenated_groups (by simp [length])
    (by simp [length]) (by simp [length]) (by simp [length]) (by simp [length]), ← groups, ofDigits_digits]

end Uuid
end Sift
