import Sift.Proofs.Pagination
import Mathlib.Logic.Basic
import Mathlib.Order.Bounds.Defs

/-!
# Pages of a result

The pages of a size divide the rows of a result among them. How many there are,
whether rows follow a page and whether a page has rows are all told by where the rows
before a page end.
-/
namespace Sift

namespace Pagination

/-- Whether a window shows the row with an index. -/
def shows (w : Pagination) (row : Nat) : Bool :=
  let start := (w.offset.getD 0).toInt
  decide (start ≤ row) && match w.limit with
    | some n => decide (row < start + n.toInt)
    | none => true

/-- The rows of a result that a window shows. -/
def rowsOf {α : Type} (w : Pagination) (rows : List α) : List α :=
  (rows.zipIdx.filter fun r => w.shows r.2).map (·.1)

end Pagination

/-- The rows whose index is within bounds, where the first row has the index `k`. -/
theorem length_filter_zipIdx {α : Type} (rows : List α) (k a b : Nat) :
    ((rows.zipIdx k).filter fun r => decide (a ≤ r.2) && decide (r.2 < b)).length =
      min (k + rows.length) b - max k a := by
  induction rows generalizing k with
  | nil =>
    simp only [List.zipIdx_nil, List.filter_nil, List.length_nil]
    omega
  | cons x rows ih =>
    rw [List.zipIdx_cons, List.filter_cons, List.length_cons]
    split
    next within =>
      rw [Bool.and_eq_true, decide_eq_true_eq, decide_eq_true_eq] at within
      rw [List.length_cons, ih]
      omega
    next without =>
      rw [Bool.and_eq_true, decide_eq_true_eq, decide_eq_true_eq] at without
      rw [ih]
      omega

namespace Pagination

variable {number size : Int64} {w : Pagination}

/-- A page has a window exactly if its number and size are positive and its offset is a 64-bit integer. -/
theorem exists_page_iff : (∃ w, page number size = .ok w) ↔
    1 ≤ number ∧ 1 ≤ size ∧ (number.toInt - 1) * size.toInt < 2 ^ 63 := by
  constructor
  · rintro ⟨w, paged⟩
    obtain ⟨counted, sized, offset, starts, -⟩ := exists_of_page paged
    refine ⟨Int64.le_iff_toInt_le.mpr counted, Int64.le_iff_toInt_le.mpr sized, ?_⟩
    rw [← starts]
    exact offset.toInt_lt
  · rintro ⟨counted, sized, fits⟩
    exact exists_page counted sized fits

theorem page_fails_iff : (∃ e, page number size = .error e) ↔
    number < 1 ∨ size < 1 ∨ 2 ^ 63 ≤ (number.toInt - 1) * size.toInt := by
  have fails : (∃ e, page number size = .error e) ↔ ¬∃ w, page number size = .ok w := by
    cases page number size <;> simp
  rw [fails, exists_page_iff, not_and_or, not_and_or, Int64.not_le, Int64.not_le, Int.not_lt]

/-- The page that shows a row is that of its block. -/
theorem shows_iff (paged : page number size = .ok w) (row : Nat) :
    w.shows row = true ↔ number.toInt - 1 = row / size.toInt := by
  obtain ⟨-, sized, offset, starts, rfl⟩ := exists_of_page paged
  have positive : 0 < size.toInt := by omega
  have block := shown_in_block_iff (i := row) (j := number.toInt - 1) positive (Int.le_refl size.toInt)
  rw [← starts, and_iff_left (Int.emod_lt_of_pos _ positive)] at block
  rw [← block, shows, Bool.and_eq_true, decide_eq_true_eq]
  exact and_congr_right' decide_eq_true_iff

/-- The rows of a page are those from its offset on, as many as its size, as far as there are rows. -/
theorem length_rowsOf (paged : page number size = .ok w) {α : Type} (rows : List α) :
    ((w.rowsOf rows).length : Int) =
      max 0 (min (rows.length : Int) (number.toInt * size.toInt) - (number.toInt - 1) * size.toInt) := by
  obtain ⟨counted, sized, offset, starts, rfl⟩ := exists_of_page paged
  have least : 0 ≤ offset.toInt := starts ▸ start_nonneg counted sized
  have ends : number.toInt * size.toInt = offset.toInt + size.toInt := starts ▸ end_eq number.toInt size.toInt
  have within : (fun r : α × Nat => (⟨some size, some offset⟩ : Pagination).shows r.2) = fun r =>
      decide (offset.toInt.toNat ≤ r.2) && decide (r.2 < (offset.toInt + size.toInt).toNat) := by
    funext r
    rw [Bool.eq_iff_iff]
    simp only [shows, Option.getD_some, Bool.and_eq_true, decide_eq_true_eq]
    omega
  rw [rowsOf, within, List.length_map, length_filter_zipIdx, ends, ← starts]
  omega

end Pagination

/-- The least number of pages of a size that have room for all rows. -/
def pagesFor (total size : Int) : Int := (total + size - 1) / size

/-- As many pages are enough as have room for all rows, and no fewer. -/
theorem pagesFor_le_iff {total size q : Int} (positive : 0 < size) : pagesFor total size ≤ q ↔ total ≤ q * size := by
  rw [pagesFor, ← Int.lt_add_one_iff, Int.ediv_lt_iff_lt_mul positive, Int.add_mul, Int.one_mul]
  omega

theorem lt_pagesFor_iff {total size q : Int} (positive : 0 < size) : q < pagesFor total size ↔ q * size < total := by
  rw [← Int.not_le, pagesFor_le_iff positive, Int.not_le]

theorem toInt_add_of_fits {i j : Int64} (least : -(2 ^ 63) ≤ i.toInt + j.toInt) (greatest : i.toInt + j.toInt < 2 ^ 63) :
    (i + j).toInt = i.toInt + j.toInt := by
  rw [Int64.toInt_add]
  exact Int.bmod_eq_of_le (by omega) (by omega)

namespace Page

open Pagination

variable {α : Type} {items : List α} {total number size : Int64} {w : Pagination}

/-- The pages of a result are counted rightly unless its rows and the size of a page exceed 64 bits together. -/
theorem toInt_totalPages (paged : page number size = .ok w) (counted : 0 ≤ total.toInt)
    (fits : total.toInt + size.toInt < 2 ^ 63) :
    (Page.of items total w).totalPages.toInt = pagesFor total.toInt size.toInt := by
  obtain ⟨-, sized, offset, -, rfl⟩ := exists_of_page paged
  have limited : 0 < size := Int64.lt_iff_toInt_lt.mpr (show (0 : Int) < _ by omega)
  have sum : (total + size).toInt = total.toInt + size.toInt := toInt_add_of_fits (by omega) fits
  have dividend : (total + size - 1).toInt = total.toInt + size.toInt - 1 := by
    rw [Int64.toInt_sub, sum, Int64.toInt_one]
    exact Int.bmod_eq_of_le (by omega) (by omega)
  have divisor : size ≠ -1 := fun same => absurd sized (by rw [same]; decide)
  rw [totalPages]
  show (if 0 < size then (total + size - 1) / size else _).toInt = _
  rw [if_pos limited, Int64.toInt_div_of_ne_right _ _ divisor, dividend, Int.tdiv_eq_ediv_of_nonneg (by omega)]
  rfl

/-- Rows follow a page that is not the last one, and the pages up to the last one have rows. -/
theorem hasNext_and_items (paged : page number size = .ok w) {rows : List α} (all : (rows.length : Int) = total.toInt) :
    let p := Page.of (w.rowsOf rows) total w
    (p.hasNext = true ↔ number.toInt < pagesFor total.toInt size.toInt) ∧
      (p.items ≠ [] ↔ number.toInt ≤ pagesFor total.toInt size.toInt) := by
  intro p
  have shown : (p.items.length : Int) = _ := length_rowsOf paged rows
  have bound := total.toInt_lt
  obtain ⟨counted, sized, offset, starts, rfl⟩ := exists_of_page paged
  have within := offset.toInt_lt
  have more {q : Int} : q < pagesFor total.toInt size.toInt ↔ q * size.toInt < total.toInt :=
    lt_pagesFor_iff (by omega)
  have least : 0 ≤ offset.toInt := starts ▸ start_nonneg counted sized
  have ends : number.toInt * size.toInt = offset.toInt + size.toInt := starts ▸ end_eq number.toInt size.toInt
  have reached : number.toInt ≤ pagesFor total.toInt size.toInt ↔ offset.toInt < total.toInt := by
    rw [starts, ← more]
    omega
  rw [all, ends, ← starts] at shown
  have length : (Int64.ofNat p.items.length).toInt = p.items.length := Int64.toInt_ofNat_of_lt (by omega)
  -- a page has no more rows than follow its offset, so the sum is at most the greater of both
  have follows : p.hasNext = true ↔ offset.toInt + p.items.length < total.toInt := by
    rw [hasNext, decide_eq_true_iff, Int64.lt_iff_toInt_lt, ← length]
    show (offset + _).toInt < _ ↔ _
    rw [toInt_add_of_fits (by omega) (by omega)]
    rfl
  rw [follows, reached, more, ends, ← List.length_pos_iff]
  omega

/-- A page that is counted has a window. -/
theorem exists_page_of_le (sized : 1 ≤ size) (first : 1 ≤ number)
    (last : (number.toInt - 1) * size.toInt < total.toInt) : ∃ v, page number size = .ok v :=
  exists_page_iff.mpr ⟨first, sized, Int.lt_trans last total.toInt_lt⟩

/-- Every row is on a counted page. -/
theorem exists_page_of_row (paged : page number size = .ok w) {row : Nat} (inside : row < total.toInt) :
    ∃ (k : Int64) (v : Pagination), 1 ≤ k ∧ k.toInt ≤ pagesFor total.toInt size.toInt ∧ page k size = .ok v ∧
      v.shows row = true := by
  obtain ⟨-, sized, -⟩ := exists_of_page paged
  have positive : 0 < size.toInt := by omega
  have least : 0 ≤ (row : Int) / size.toInt := Int.ediv_nonneg (by omega) (by omega)
  have starts : (row : Int) / size.toInt * size.toInt ≤ row := Int.ediv_mul_le _ (by omega)
  have block : (row : Int) / size.toInt ≤ row := Int.ediv_le_self _ (by omega)
  have bound := total.toInt_lt
  -- the page of the block that the row divides into
  have number : (Int64.ofInt (row / size.toInt + 1)).toInt = row / size.toInt + 1 :=
    Int64.toInt_ofInt_of_le (by omega) (by omega)
  have first : 1 ≤ Int64.ofInt (row / size.toInt + 1) := by
    rw [Int64.le_iff_toInt_le, number]
    show (1 : Int) ≤ _
    omega
  have last : ((Int64.ofInt (row / size.toInt + 1)).toInt - 1) * size.toInt < total.toInt := by
    rw [number, Int.add_sub_cancel]
    omega
  obtain ⟨v, paged'⟩ := exists_page_of_le (Int64.le_iff_toInt_le.mpr sized) first last
  refine ⟨_, v, first, ?_, paged', (shows_iff paged' row).mpr (by rw [number, Int.add_sub_cancel])⟩
  rw [number, Int.add_one_le_iff, lt_pagesFor_iff positive]
  omega

end Page

/-- A page has a window unless its number or size is below 1 or its offset exceeds 64 bits, and its window is never
refused. There is a least number of pages with room for all rows, which every page tells unless the rows and the size
of a page exceed 64 bits together. Rows follow all but the last of these pages; they and no others have rows; all of
them have windows, no row is in two windows, and every row is in one. -/
theorem pages_divide_rows :
    (∀ number size : Int64, (∃ e, Pagination.page number size = .error e) ↔
      number < 1 ∨ size < 1 ∨ 2 ^ 63 ≤ (number.toInt - 1) * size.toInt) ∧
    (∀ (number size : Int64) (w : Pagination), Pagination.page number size = .ok w → w.validate = .ok ()) ∧
    ∀ {α : Type} (rows : List α) (total number size : Int64) (w : Pagination), (rows.length : Int) = total.toInt →
      Pagination.page number size = .ok w →
      let p := Page.of (w.rowsOf rows) total w
      ∃ pages : Int, IsLeast {q : Int | total.toInt ≤ q * size.toInt} pages ∧
        (total.toInt + size.toInt < 2 ^ 63 → p.totalPages.toInt = pages) ∧
        (p.hasNext = true ↔ number.toInt < pages) ∧
        (p.items ≠ [] ↔ number.toInt ≤ pages) ∧
        (∀ k : Int64, 1 ≤ k → k.toInt ≤ pages → ∃ v, Pagination.page k size = .ok v) ∧
        (∀ (j k : Int64) (v u : Pagination) (row : Nat), Pagination.page j size = .ok v →
          Pagination.page k size = .ok u → v.shows row = true → u.shows row = true → j = k) ∧
        ∀ row : Nat, row < total.toInt → ∃ (k : Int64) (v : Pagination), 1 ≤ k ∧ k.toInt ≤ pages ∧
          Pagination.page k size = .ok v ∧ v.shows row = true := by
  refine ⟨fun _ _ => Pagination.page_fails_iff, fun _ _ _ => Pagination.validate_of_page, ?_⟩
  intro α rows total number size w all paged p
  have counted : 0 ≤ total.toInt := by omega
  have sized : 1 ≤ size := (Pagination.exists_page_iff.mp ⟨w, paged⟩).2.1
  have positive : 0 < size.toInt := Int64.le_iff_toInt_le.mp sized
  obtain ⟨follows, nonempty⟩ := Page.hasNext_and_items paged all
  refine ⟨pagesFor total.toInt size.toInt, ⟨(pagesFor_le_iff positive).mp (Int.le_refl _), fun q room =>
    (pagesFor_le_iff positive).mpr room⟩, Page.toInt_totalPages paged counted, follows, nonempty, ?_, ?_, ?_⟩
  · intro k first last
    have before : k.toInt - 1 < pagesFor total.toInt size.toInt := Int.sub_one_lt_iff.mpr last
    exact Page.exists_page_of_le sized first ((lt_pagesFor_iff positive).mp before)
  · intro j k v u row paged paged' shown shown'
    have block := (Pagination.shows_iff paged row).mp shown
    have block' := (Pagination.shows_iff paged' row).mp shown'
    exact Int64.toInt_inj.mp (by omega)
  · exact fun row => Page.exists_page_of_row paged

/-- Five rows on pages of two: the last page has one row and none follows, and row 3 is on the second page. -/
theorem pages_divide_rows_of_five :
    let w : Pagination := ⟨some 2, some 4⟩
    let p := Page.of (w.rowsOf ["a", "b", "c", "d", "e"]) 5 w
    Pagination.page 3 2 = .ok w ∧ w.validate = .ok () ∧ p.items = ["e"] ∧ p.totalPages = 3 ∧ p.hasNext = false ∧
      IsLeast {q : Int | 5 ≤ q * 2} 3 ∧ (∃ v, Pagination.page 2 2 = .ok v ∧ v.shows 3 = true) ∧
      ∃ e, Pagination.page 9223372036854775807 2 = .error e := by
  intro w p
  have paged : Pagination.page 3 2 = .ok w := rfl
  obtain ⟨fails, valid, divided⟩ := pages_divide_rows
  obtain ⟨n, least, counted, follows, -, -, apart, covered⟩ := divided ["a", "b", "c", "d", "e"] 5 3 2 w rfl paged
  have pages : p.totalPages = 3 := by decide +kernel
  obtain rfl : n = 3 := by
    rw [← counted (by decide)]
    exact congrArg Int64.toInt pages
  obtain ⟨k, v, first, last, paged', shown⟩ := covered 3 (by decide)
  have second : k = 2 := apart k 2 v ⟨some 2, some 2⟩ 3 paged' rfl shown rfl
  refine ⟨paged, valid 3 2 w paged, rfl, pages, ?_, least, ⟨v, second ▸ paged', shown⟩, (fails _ _).mpr (by decide)⟩
  rw [Bool.eq_false_iff]
  exact fun more => absurd (follows.mp more) (by decide)

end Sift
