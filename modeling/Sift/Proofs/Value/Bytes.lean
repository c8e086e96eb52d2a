import Sift.Value.Wire
import Mathlib.Data.List.Induction
import Mathlib.Algebra.Ring.Int.Defs
import Mathlib.Algebra.Ring.Nat
import Mathlib.Tactic.Zify

/-!
# Numbers and characters as bytes

Naturals and their big-endian bytes, integers and their bytes in two's complement,
characters and their bytes in UTF-8: in each of the three the writer and the reader are
inverse to each other, in both directions.
-/
namespace Sift.Wire

/-! ## Naturals -/

@[simp] theorem length_bytesOf (width n : Nat) : (bytesOf width n).length = width := by
  induction width generalizing n with
  | zero => rfl
  | succ width ih => rw [bytesOf, List.length_append, ih]; rfl

theorem natOf_concat (bs : Bytes) (b : UInt8) : natOf (bs ++ [b]) = natOf bs * 256 + b.toNat := by
  simp [natOf]

theorem natOf_lt (bs : Bytes) : natOf bs < 256 ^ bs.length := by
  induction bs using List.reverseRecOn with
  | nil => exact Nat.one_pos
  | append_singleton bs b ih =>
    have byte : b.toNat < 256 := b.toNat_lt
    rw [natOf_concat, List.length_append, List.length_singleton, Nat.pow_succ]
    omega

/-- Bytes that are too few keep what is left of the number after the division by their power. -/
theorem natOf_bytesOf (width n : Nat) : natOf (bytesOf width n) = n % 256 ^ width := by
  induction width generalizing n with
  | zero => rw [Nat.pow_zero, Nat.mod_one]; rfl
  | succ width ih =>
    have byte : (UInt8.ofNat n).toNat = n % 256 := UInt8.toNat_ofNat
    rw [bytesOf, natOf_concat, ih, byte, Nat.pow_succ', Nat.mod_mul]
    omega

theorem bytesOf_natOf (bs : Bytes) : bytesOf bs.length (natOf bs) = bs := by
  induction bs using List.reverseRecOn with
  | nil => rfl
  | append_singleton bs b ih =>
    have byte : b.toNat < 256 := b.toNat_lt
    have high : (natOf bs * 256 + b.toNat) / 256 = natOf bs := by omega
    have low : UInt8.ofNat (natOf bs * 256 + b.toNat) = b := by
      rw [← UInt8.toNat_inj, UInt8.toNat_ofNat']
      omega
    rw [natOf_concat, List.length_append, List.length_singleton, bytesOf, high, low, ih]

/-- A word of as many bits as the bytes have survives them. -/
theorem ofNat_natOf_bytesOf {width bits : Nat} (size : 2 ^ bits = 256 ^ width) (x : BitVec bits) :
    BitVec.ofNat bits (natOf (bytesOf width x.toNat)) = x := by
  have small : x.toNat < 256 ^ width := size ▸ x.isLt
  rw [natOf_bytesOf, Nat.mod_eq_of_lt small, BitVec.ofNat_toNat, BitVec.setWidth_eq]

/-- Bytes of as many bits as the word has survive it. -/
theorem bytesOf_toNat_ofNat {bs : Bytes} {bits : Nat} (size : 2 ^ bits = 256 ^ bs.length) :
    bytesOf bs.length (BitVec.ofNat bits (natOf bs)).toNat = bs := by
  rw [BitVec.toNat_ofNat, size, Nat.mod_eq_of_lt (natOf_lt bs), bytesOf_natOf]

/-! ## Integers -/

theorem fits_iff {width : Nat} {i : Int} :
    fits width i = true ↔ -(256 ^ width : Int) ≤ 2 * i ∧ 2 * i < 256 ^ width := by
  simp [fits]

/-- What fits in some bytes fits in more. -/
theorem fits_of_le {width more : Nat} {i : Int} (le : width ≤ more) (fit : fits width i = true) :
    fits more i = true := by
  have grows : (256 : Int) ^ width ≤ 256 ^ more := by exact_mod_cast Nat.pow_le_pow_right (by decide) le
  rw [fits_iff] at fit ⊢
  omega

theorem bytesOfInt_eq (width : Nat) (i : Int) : bytesOfInt width i = bytesOf width (i % 256 ^ width).toNat := by
  rw [bytesOfInt, Nat.pow_eq, Int.natCast_pow]
  rfl

/-- The bytes of an integer spell the least natural that is the same for them. -/
theorem natOf_bytesOfInt (width : Nat) (i : Int) : (natOf (bytesOfInt width i) : Int) = i % 256 ^ width := by
  have positive : (0 : Int) < 256 ^ width := Int.pow_pos (by decide)
  have least : 0 ≤ i % 256 ^ width := Int.emod_nonneg i (by omega)
  have below : i % 256 ^ width < 256 ^ width := Int.emod_lt_of_pos i positive
  have small : (i % 256 ^ width).toNat < 256 ^ width := by
    rw [Int.toNat_lt least]
    exact_mod_cast below
  rw [bytesOfInt_eq, natOf_bytesOf, Nat.mod_eq_of_lt small, Int.toNat_of_nonneg least]

theorem intOf_eq (bs : Bytes) :
    intOf bs = if 2 * natOf bs < 256 ^ bs.length then (natOf bs : Int) else natOf bs - 256 ^ bs.length := by
  simp [intOf]

/-- An integer that fits comes back from its two's complement, the negative ones too. -/
theorem intOf_bytesOfInt {width : Nat} {i : Int} (fit : fits width i = true) :
    intOf (bytesOfInt width i) = i := by
  obtain ⟨lower, upper⟩ := fits_iff.mp fit
  have length : (bytesOfInt width i).length = width := length_bytesOf _ _
  have spelled := natOf_bytesOfInt width i
  rw [intOf_eq, length]
  -- a negative integer is written as its sum with the power, which is at least half of it
  by_cases negative : i < 0
  · have wraps : i % 256 ^ width = i + 256 ^ width := by
      rw [← Int.add_emod_right, Int.emod_eq_of_lt (by omega) (by omega)]
    have large : ¬ 2 * natOf (bytesOfInt width i) < 256 ^ width := by
      zify
      omega
    rw [if_neg large]
    omega
  · have stays : i % 256 ^ width = i := Int.emod_eq_of_lt (by omega) (by omega)
    have small : 2 * natOf (bytesOfInt width i) < 256 ^ width := by
      zify
      omega
    rw [if_pos small]
    omega

theorem fits_intOf (bs : Bytes) : fits bs.length (intOf bs) = true := by
  have below := natOf_lt bs
  zify at below
  rw [fits_iff, intOf_eq]
  split
  case isTrue small =>
    zify at small
    omega
  case isFalse large =>
    zify at large
    omega

/-- Bytes are the two's complement of the integer that they spell. -/
theorem bytesOfInt_intOf (bs : Bytes) : bytesOfInt bs.length (intOf bs) = bs := by
  have below := natOf_lt bs
  zify at below
  have residue : intOf bs % 256 ^ bs.length = natOf bs := by
    rw [intOf_eq]
    split
    · exact Int.emod_eq_of_lt (by omega) below
    · rw [Int.sub_emod_right, Int.emod_eq_of_lt (by omega) below]
  rw [bytesOfInt_eq, residue, Int.toNat_natCast, bytesOf_natOf]

/-- Eight bytes hold what a 64-bit integer does. -/
theorem fits_toInt (i : Int64) : fits 8 i.toInt = true := by
  have lower := i.le_toInt
  have upper := i.toInt_lt
  rw [fits_iff]
  omega

theorem toInt_ofInt {width : Nat} {i : Int} (narrow : width ≤ 8) (fit : fits width i = true) :
    (Int64.ofInt i).toInt = i := by
  obtain ⟨lower, upper⟩ := fits_iff.mp (fits_of_le narrow fit)
  exact Int64.toInt_ofInt_of_le (by omega) (by omega)

/-! ## Characters -/

theorem byteArray_toList_loop (bs : ByteArray) (i : Nat) (before : Bytes) :
    ByteArray.toList.loop bs i before = before.reverse ++ bs.data.toList.drop i := by
  induction i, before using ByteArray.toList.loop.induct bs with
  | case1 i before inside ih =>
    have length : i < bs.data.toList.length := by simpa using inside
    have read : bs.get! i = bs.data.toList[i] := by
      rw [Array.getElem_toList]
      exact getElem!_pos bs.data i (by simpa using inside)
    rw [ByteArray.toList.loop, if_pos inside, ih, List.drop_eq_getElem_cons length, read, List.reverse_cons,
      List.append_assoc, List.singleton_append]
  | case2 i before outside =>
    have length : bs.data.toList.length ≤ i := by simpa using outside
    rw [ByteArray.toList.loop, if_neg outside, List.drop_eq_nil_of_le length, List.append_nil]

theorem textBytes_eq (s : String) : textBytes s = s.toByteArray.data.toList :=
  byteArray_toList_loop s.toByteArray 0 []

/-- Characters come back from their UTF-8. -/
theorem characters_textBytes (s : String) : characters? (textBytes s) = some s := by
  have bytes : (⟨(textBytes s).toArray⟩ : ByteArray) = s.toByteArray := by rw [textBytes_eq]
  rw [characters?, bytes, String.fromUTF8?, dif_pos s.isValidUTF8]
  rfl

/-- Bytes that are UTF-8 are the UTF-8 of what they spell. -/
theorem textBytes_of_characters {bs : Bytes} {s : String} (read : characters? bs = some s) :
    textBytes s = bs := by
  rw [characters?, String.fromUTF8?] at read
  split at read
  case isTrue valid =>
    cases read
    rw [textBytes_eq]
    rfl
  case isFalse => cases read

end Sift.Wire
