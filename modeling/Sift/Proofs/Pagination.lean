import Sift.Config
import Sift.Pagination
import Mathlib.Algebra.Group.Int.Defs
import Mathlib.Data.Int.DivMod

/-!
# Pages and rows

The pages of a size start one size after the other. A page whose limit is not
reduced ends where the next one starts; a reduced one ends earlier, and the rows up
to the next page are those with a greater remainder.
-/
namespace Sift

theorem toInt_of_int64? {i : Int} {x : Int64} (fits : int64? i = some x) : x.toInt = i := by
  rw [int64?] at fits
  split at fits
  next within =>
    rw [← Option.some.inj fits]
    exact Int64.toInt_ofInt_of_le within.1 within.2
  next => cases fits

theorem exists_int64? {i : Int} (least : -(2 ^ 63) ≤ i) (greatest : i < 2 ^ 63) :
    ∃ x, int64? i = some x :=
  ⟨.ofInt i, if_pos ⟨least, greatest⟩⟩

/-- The block of a row and its place in the block: with blocks of `n` rows of which the first `l` are shown, only
the block that the row divides into can show it, and shows it if the remainder is below `l`. -/
theorem shown_in_block_iff {i n l j : Int} (positive : 0 < n) (fits : l ≤ n) :
    (j * n ≤ i ∧ i < j * n + l) ↔ j = i / n ∧ i % n < l := by
  have split : i % n + n * (i / n) = i := Int.emod_add_mul_ediv i n
  constructor
  · rintro ⟨after, before⟩
    have block : i / n = j ∧ i % n = i - j * n :=
      (Int.ediv_emod_unique positive).mpr ⟨by rw [Int.mul_comm n j]; omega, by omega, by omega⟩
    exact ⟨block.1.symm, by omega⟩
  · rintro ⟨rfl, below⟩
    have least : 0 ≤ i % n := Int.emod_nonneg i (by omega)
    rw [Int.mul_comm (i / n) n]
    omega

/-- The rows before a page are not fewer than none. -/
theorem start_nonneg {number size : Int} (counted : 1 ≤ number) (sized : 1 ≤ size) : 0 ≤ (number - 1) * size :=
  Int.mul_nonneg (by omega) (by omega)

/-- A page ends a size after the rows before it. -/
theorem end_eq (number size : Int) : number * size = (number - 1) * size + size := by
  rw [Int.sub_mul, Int.one_mul, Int.sub_add_cancel]

namespace Pagination

/-- The window of a page: its size, after the rows of the pages before it. -/
theorem exists_of_page {number size : Int64} {w : Pagination} (paged : page number size = .ok w) :
    1 ≤ number.toInt ∧ 1 ≤ size.toInt ∧
      ∃ offset : Int64, offset.toInt = (number.toInt - 1) * size.toInt ∧ w = ⟨some size, some offset⟩ := by
  unfold page at paged
  split at paged
  · cases paged
  next number_positive =>
    split at paged
    · cases paged
    next size_positive =>
      rw [Int64.not_lt, Int64.le_iff_toInt_le] at number_positive size_positive
      split at paged
      next offset fits =>
        exact ⟨number_positive, size_positive, offset, toInt_of_int64? fits, (Except.ok.inj paged).symm⟩
      next => cases paged

/-- Every page has a window whose offset is a 64-bit integer. -/
theorem exists_page {number size : Int64} (number_positive : 1 ≤ number) (size_positive : 1 ≤ size)
    (fits : (number.toInt - 1) * size.toInt < 2 ^ 63) :
    ∃ w, page number size = .ok w := by
  have counted : 1 ≤ number.toInt := Int64.le_iff_toInt_le.mp number_positive
  have sized : 1 ≤ size.toInt := Int64.le_iff_toInt_le.mp size_positive
  have least := start_nonneg counted sized
  obtain ⟨offset, found⟩ := exists_int64? (by omega) fits
  refine ⟨⟨some size, some offset⟩, ?_⟩
  rw [page, if_neg (Int64.not_lt.mpr number_positive), if_neg (Int64.not_lt.mpr size_positive), found]

theorem validate_of_nonneg {limit offset : Int64} (limit_nonneg : 0 ≤ limit.toInt)
    (offset_nonneg : 0 ≤ offset.toInt) :
    (⟨some limit, some offset⟩ : Pagination).validate = .ok () := by
  have negative {n : Int64} (nonneg : 0 ≤ n.toInt) : ¬n < 0 := by
    rw [Int64.lt_iff_toInt_lt]
    exact Int.not_lt.mpr nonneg
  simp only [validate, if_neg (negative limit_nonneg), if_neg (negative offset_nonneg)]
  rfl

theorem validate_of_page {number size : Int64} {w : Pagination} (paged : page number size = .ok w) :
    w.validate = .ok () := by
  obtain ⟨counted, sized, offset, starts, rfl⟩ := exists_of_page paged
  exact validate_of_nonneg (by omega) (starts ▸ start_nonneg counted sized)

end Pagination

namespace Config

/-- The rows that a page of a size shows: as many as its size, but not more than the greatest page size. -/
def rowsShown (cfg : Config) (size : Int64) : Int64 :=
  match cfg.maxPageSize with
  | some max => if max < size then max else size
  | none => size

theorem rowsShown_le (cfg : Config) (size : Int64) : (cfg.rowsShown size).toInt ≤ size.toInt := by
  rw [rowsShown]
  split
  next max _ =>
    split
    next greater => exact Int64.le_iff_toInt_le.mp (Int64.le_of_lt greater)
    next => exact Int.le_refl _
  next => exact Int.le_refl _

/-- A page of at most the greatest size shows all its rows. -/
theorem rowsShown_eq {cfg : Config} {size : Int64} (within : ∀ max, cfg.maxPageSize = some max → size ≤ max) :
    cfg.rowsShown size = size := by
  rw [rowsShown]
  split
  next max greatest => rw [if_neg (Int64.not_lt.mpr (within max greatest))]
  next => rfl

end Config
end Sift
