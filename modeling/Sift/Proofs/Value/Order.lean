import Sift.Proofs.Double.Rounding
import Sift.Restriction.Evaluation
import Mathlib.Tactic

/-!
# How three values lie to each other

The order of values is coherent but for one thing: a double can equal two different
integers. Three values that are not such a double and two such integers lie to each
other as three points of a line do.
-/
namespace Sift

/-- How a point lies to a first and a second one fits how the first one lies to the second one. -/
structure Coherent (first second between : Ordering) : Prop where
  equal : between = .eq → first = second
  above : between = .gt → first.isGE → second = .gt
  below : between = .lt → first.isLE → second = .lt

theorem coherent_of_trans {α : Type} (cmp : α → α → Ordering) [Std.TransCmp cmp] (v a b : α) :
    Coherent (cmp v a) (cmp v b) (cmp a b) where
  equal between := Std.TransCmp.congr_right between
  above between first := Std.TransCmp.gt_of_isGE_of_gt first between
  below between first := Std.TransCmp.lt_of_isLE_of_lt first between

/-! ## Integers on the line of doubles -/

section

variable {f : Int → Int} (mono : ∀ {i j : Int}, i ≤ j → f i ≤ f j)
include mono

theorem lt_of_image_lt {i j : Int} (less : f i < f j) : i < j := by
  by_contra not_less
  have := mono (not_lt.mp not_less)
  omega

/-- A monotone image only merges what it makes equal. -/
theorem compare_image (k i : Int) : compare k i = compare (f k) (f i) ∨ k ≠ i ∧ f k = f i := by
  rcases lt_trichotomy k i with less | same | greater
  · rcases lt_or_eq_of_le (mono less.le) with below | equal
    · rw [compare_lt_iff_lt.mpr less, compare_lt_iff_lt.mpr below]
      exact .inl rfl
    · exact .inr ⟨less.ne, equal⟩
  · rw [compare_eq_iff_eq.mpr same, compare_eq_iff_eq.mpr (congrArg f same)]
    exact .inl rfl
  · rcases lt_or_eq_of_le (mono greater.le) with above | equal
    · rw [compare_gt_iff_gt.mpr greater, compare_gt_iff_gt.mpr above]
      exact .inl rfl
    · exact .inr ⟨greater.ne', equal.symm⟩

/-- A point of the line and two numbers that have places on it. -/
theorem coherent_two_images (x i j : Int) :
    Coherent (compare x (f i)) (compare x (f j)) (compare i j) ∨ i ≠ j ∧ f i = x ∧ f j = x := by
  by_cases merged : i ≠ j ∧ f i = x ∧ f j = x
  · exact .inr merged
  refine .inl ⟨?_, ?_, ?_⟩
  · intro between
    rw [compare_eq_iff_eq.mp between]
  · intro between first
    have greater : j < i := compare_gt_iff_gt.mp between
    have above : f i ≤ x := compare_ge_iff_ge.mp (by rintro less; rw [less] at first; cases first)
    have images := mono greater.le
    rw [compare_gt_iff_gt]
    by_contra not_above
    exact merged ⟨greater.ne', by omega, by omega⟩
  · intro between first
    have less : i < j := compare_lt_iff_lt.mp between
    have below : x ≤ f i := compare_le_iff_le.mp (by rintro greater; rw [greater] at first; cases first)
    have images := mono less.le
    rw [compare_lt_iff_lt]
    by_contra not_below
    exact merged ⟨less.ne, by omega, by omega⟩

/-- Two numbers, the second one a bound, and a point as the other bound. -/
theorem coherent_image_point (k i y : Int) :
    Coherent (compare k i) (compare (f k) y) (compare (f i) y) ∨ k ≠ i ∧ f k = y ∧ f i = y := by
  by_cases merged : k ≠ i ∧ f k = y ∧ f i = y
  · exact .inr merged
  refine .inl ⟨?_, ?_, ?_⟩
  · intro between
    have image : f i = y := compare_eq_iff_eq.mp between
    rcases compare_image mono k i with same | ⟨different, equal⟩
    · rw [same, image]
    · exact absurd ⟨different, equal.trans image, image⟩ merged
  · intro between first
    have above : y < f i := compare_gt_iff_gt.mp between
    have order : i ≤ k := compare_ge_iff_ge.mp (by rintro less; rw [less] at first; cases first)
    exact compare_gt_iff_gt.mpr (lt_of_lt_of_le above (mono order))
  · intro between first
    have below : f i < y := compare_lt_iff_lt.mp between
    have order : k ≤ i := compare_le_iff_le.mp (by rintro greater; rw [greater] at first; cases first)
    exact compare_lt_iff_lt.mpr (lt_of_le_of_lt (mono order) below)

/-- Two numbers, the second one a bound, and a point as the bound before it. -/
theorem coherent_point_image (k x j : Int) :
    Coherent (compare (f k) x) (compare k j) (compare x (f j)) ∨ k ≠ j ∧ f k = x ∧ f j = x := by
  by_cases merged : k ≠ j ∧ f k = x ∧ f j = x
  · exact .inr merged
  refine .inl ⟨?_, ?_, ?_⟩
  · intro between
    have image : x = f j := compare_eq_iff_eq.mp between
    rcases compare_image mono k j with same | ⟨different, equal⟩
    · rw [same, image]
    · exact absurd ⟨different, equal.trans image.symm, image.symm⟩ merged
  · intro between first
    have above : f j < x := compare_gt_iff_gt.mp between
    have order : x ≤ f k := compare_ge_iff_ge.mp (by rintro less; rw [less] at first; cases first)
    exact compare_gt_iff_gt.mpr (lt_of_image_lt mono (lt_of_lt_of_le above order))
  · intro between first
    have below : x < f j := compare_lt_iff_lt.mp between
    have order : f k ≤ x := compare_le_iff_le.mp (by rintro greater; rw [greater] at first; cases first)
    exact compare_lt_iff_lt.mpr (lt_of_image_lt mono (lt_of_le_of_lt order below))

end

namespace Double

theorem compare?_eq_some {x y : Double} {o : Ordering} :
    x.compare? y = some o ↔ x.isNaN = false ∧ y.isNaN = false ∧ compare x.place y.place = o := by
  rw [compare?]
  cases x.isNaN <;> cases y.isNaN <;> simp

theorem compare?_comm {x y : Double} (equal : x.compare? y = some .eq) :
    y.compare? x = some .eq := by
  obtain ⟨left, right, same⟩ := compare?_eq_some.mp equal
  exact compare?_eq_some.mpr ⟨right, left, compare_eq_iff_eq.mpr (compare_eq_iff_eq.mp same).symm⟩

/-- A double that equals two different integers. -/
def Conflates (x : Double) (i j : Int64) : Prop :=
  i ≠ j ∧ (ofInt i.toInt).compare? x = some .eq ∧ (ofInt j.toInt).compare? x = some .eq

theorem conflates_of_place {x : Double} {i j : Int64} (number : x.isNaN = false)
    (merged : i.toInt ≠ j.toInt ∧ (ofInt i.toInt).place = x.place ∧ (ofInt j.toInt).place = x.place) :
    x.Conflates i j := by
  obtain ⟨different, left, right⟩ := merged
  refine ⟨fun same => different (congrArg _ same), ?_, ?_⟩
  · exact compare?_eq_some.mpr ⟨isNaN_ofInt _, number, compare_eq_iff_eq.mpr left⟩
  · exact compare?_eq_some.mpr ⟨isNaN_ofInt _, number, compare_eq_iff_eq.mpr right⟩

end Double

namespace Value

/-- One of three values is a double that equals the other two, which are different integers. -/
def Conflated : Value → Value → Value → Prop
  | .float x, .int i, .int j => x.Conflates i j
  | .int i, .float x, .int j => x.Conflates i j
  | .int i, .int j, .float x => x.Conflates i j
  | _, _, _ => False

theorem compare?_of_uncollated {a b : Value} {o : Ordering} (known : a.compareUncollated? b = some o) :
    a.compare? b = some o := by
  unfold compareUncollated? at known
  split at known
  · cases known
  · cases known
  · exact known

section

variable {a b : Value} {first second between : Ordering}

theorem coherent_or_conflated_int {k : Int64} (toFirst : (Value.int k).compare? a = some first)
    (toSecond : (Value.int k).compare? b = some second) (bounds : a.compare? b = some between) :
    Coherent first second between ∨ (Value.int k).Conflated a b := by
  cases a with
  | int i =>
    cases b with
    | int j =>
      cases toFirst; cases toSecond; cases bounds
      exact .inl (coherent_of_trans compare k.toInt i.toInt j.toInt)
    | float y =>
      cases toFirst
      obtain ⟨-, number, rfl⟩ := Double.compare?_eq_some.mp toSecond
      obtain ⟨-, -, rfl⟩ := Double.compare?_eq_some.mp bounds
      exact (coherent_image_point Double.place_ofInt_mono k.toInt i.toInt y.place).imp_right
        (Double.conflates_of_place number)
    | _ => cases toSecond
  | float x =>
    obtain ⟨-, number, rfl⟩ := Double.compare?_eq_some.mp toFirst
    cases b with
    | int j =>
      cases toSecond
      obtain ⟨-, -, rfl⟩ := Double.compare?_eq_some.mp bounds
      exact (coherent_point_image Double.place_ofInt_mono k.toInt x.place j.toInt).imp_right
        (Double.conflates_of_place number)
    | float y =>
      obtain ⟨-, -, rfl⟩ := Double.compare?_eq_some.mp toSecond
      obtain ⟨-, -, rfl⟩ := Double.compare?_eq_some.mp bounds
      exact .inl (coherent_of_trans compare (Double.ofInt k.toInt).place x.place y.place)
    | _ => cases toSecond
  | _ => cases toFirst

theorem coherent_or_conflated_float {z : Double} (toFirst : (Value.float z).compare? a = some first)
    (toSecond : (Value.float z).compare? b = some second) (bounds : a.compare? b = some between) :
    Coherent first second between ∨ (Value.float z).Conflated a b := by
  cases a with
  | int i =>
    obtain ⟨number, -, rfl⟩ := Double.compare?_eq_some.mp toFirst
    cases b with
    | int j =>
      obtain ⟨-, -, rfl⟩ := Double.compare?_eq_some.mp toSecond
      cases bounds
      exact (coherent_two_images Double.place_ofInt_mono z.place i.toInt j.toInt).imp_right
        (Double.conflates_of_place number)
    | float y =>
      obtain ⟨-, -, rfl⟩ := Double.compare?_eq_some.mp toSecond
      obtain ⟨-, -, rfl⟩ := Double.compare?_eq_some.mp bounds
      exact .inl (coherent_of_trans compare z.place (Double.ofInt i.toInt).place y.place)
    | _ => cases toSecond
  | float x =>
    obtain ⟨-, -, rfl⟩ := Double.compare?_eq_some.mp toFirst
    cases b with
    | int j =>
      obtain ⟨-, -, rfl⟩ := Double.compare?_eq_some.mp toSecond
      obtain ⟨-, -, rfl⟩ := Double.compare?_eq_some.mp bounds
      exact .inl (coherent_of_trans compare z.place x.place (Double.ofInt j.toInt).place)
    | float y =>
      obtain ⟨-, -, rfl⟩ := Double.compare?_eq_some.mp toSecond
      obtain ⟨-, -, rfl⟩ := Double.compare?_eq_some.mp bounds
      exact .inl (coherent_of_trans compare z.place x.place y.place)
    | _ => cases toSecond
  | _ => cases toFirst

/-- A value lies to two bounds as these lie to each other, unless a double among the three equals
two different integers. -/
theorem coherent_or_conflated {v : Value} (toFirst : v.compare? a = some first)
    (toSecond : v.compare? b = some second) (bounds : a.compareUncollated? b = some between) :
    Coherent first second between ∨ v.Conflated a b := by
  have ordered := compare?_of_uncollated bounds
  cases v with
  | int k => exact coherent_or_conflated_int toFirst toSecond ordered
  | float z => exact coherent_or_conflated_float toFirst toSecond ordered
  | bool p =>
    cases a with
    | bool q =>
      cases b with
      | bool r =>
        cases toFirst; cases toSecond; cases bounds
        exact .inl (coherent_of_trans compare p q r)
      | _ => cases toSecond
    | _ => cases toFirst
  | uuid u =>
    cases a with
    | uuid p =>
      cases b with
      | uuid q =>
        cases toFirst; cases toSecond; cases bounds
        exact .inl (coherent_of_trans compare u.bits.toNat p.bits.toNat q.bits.toNat)
      | _ => cases toSecond
    | _ => cases toFirst
  | timestamp t =>
    cases a with
    | timestamp p =>
      cases b with
      | timestamp q =>
        cases toFirst; cases toSecond; cases bounds
        exact .inl (coherent_of_trans
          (compareLex (compareOn Timestamp.second) (compareOn Timestamp.nano)) t p q)
      | _ => cases toSecond
    | _ => cases toFirst
  | date d =>
    cases a with
    | date p =>
      cases b with
      | date q =>
        cases toFirst; cases toSecond; cases bounds
        exact .inl (coherent_of_trans compare d.day p.day q.day)
      | _ => cases toSecond
    | _ => cases toFirst
  | text s =>
    cases a with
    | text p => cases bounds
    | _ => cases toFirst
  | null => cases toFirst
  | json j => cases toFirst

end

/-- A value that the order knows nothing of. -/
def Unordered (x : Value) : Prop := ∀ w : Value, x.compare? w = none ∧ w.compare? x = none

theorem unordered_json (j : Json) : (Value.json j).Unordered := by
  intro w
  cases w <;> exact ⟨rfl, rfl⟩

theorem unordered_nan {x : Double} (nan : x.isNaN = true) : (Value.float x).Unordered := by
  intro w
  cases w <;> simp [compare?, Double.compare?, nan]

/-- Equal values that the order does not compare are not compared with any value. -/
theorem unordered_of_equals {v x : Value} (present : v.isNull = false) (equal : v.equals x = true)
    (uncompared : v.compare? x = none) : x.Unordered := by
  rw [equals, uncompared] at equal
  have same : v.same x = true := equal
  cases v with
  | null => cases present
  | float z =>
    cases x with
    | float y =>
      have bits : z = y := by
        obtain ⟨bits⟩ := z
        obtain ⟨bits'⟩ := y
        exact congrArg Double.mk (eq_of_beq same)
      have uncompared : z.compare? y = none := uncompared
      rw [bits, Double.compare?] at uncompared
      apply unordered_nan
      by_contra number
      simp [number] at uncompared
    | _ => cases same
  | json j =>
    cases x with
    | json k => exact unordered_json k
    | _ => cases same
  | bool p =>
    cases x with
    | bool => cases uncompared
    | _ => cases same
  | int k =>
    cases x with
    | int => cases uncompared
    | _ => cases same
  | text s =>
    cases x with
    | text => cases uncompared
    | _ => cases same
  | uuid u =>
    cases x with
    | uuid => cases uncompared
    | _ => cases same
  | timestamp t =>
    cases x with
    | timestamp => cases uncompared
    | _ => cases same
  | date d =>
    cases x with
    | date => cases uncompared
    | _ => cases same

end Value
end Sift
