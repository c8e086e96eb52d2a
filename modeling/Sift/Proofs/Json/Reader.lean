import Sift.Json.Reader
import Sift.Proofs.Double.Rounding
import Sift.Proofs.Json.Equality

/-!
# The numbers of documents that are read

Literals are rounded to numbers: a document that is read holds no NaN, so it is
equal to itself.
-/
namespace Sift

namespace Double

theorem isNaN_ofMagnitude (negative : Bool) {m : Nat} (finite : m ≤ Precision.double.infinity) :
    (ofMagnitude negative m).isNaN = false := by
  rw [isNaN, magnitude_ofMagnitude negative (lt_of_le_of_lt finite (by decide)), decide_eq_false_iff_not]
  exact not_lt.mpr finite

/-- A ratio rounds to a number. -/
theorem isNaN_ofRatio (negative : Bool) (num den : Nat) : (ofRatio negative num den).isNaN = false :=
  isNaN_ofMagnitude negative (Precision.round_le_infinity num den)

theorem isNaN_mulAbs (x y : Double) : (x.mulAbs y).isNaN = false := isNaN_ofRatio _ _ _

theorem isNaN_divAbs (x y : Double) : (x.divAbs y).isNaN = false := isNaN_ofRatio _ _ _

end Double

namespace Json

theorem isNaN_scaled {x y : Double} {e : Int} (number : x.isNaN = false) (scaled : scaled? x e = some y) :
    y.isNaN = false := by
  fun_induction scaled? x e with
  | case1 x e near up product infinite => cases scaled
  | case2 x e near up product finite =>
    rw [← Option.some.inj scaled]
    exact Double.isNaN_mulAbs _ _
  | case3 x e near down =>
    rw [← Option.some.inj scaled]
    exact Double.isNaN_divAbs _ _
  | case4 x e far zero =>
    rw [← Option.some.inj scaled]
    exact number
  | case5 x e far positive up => cases scaled
  | case6 x e far positive down ih => exact ih (Double.isNaN_divAbs _ _) scaled

/-- A literal is read as a number. -/
theorem isNumeric_number {minus : Bool} {cs rest : List Char} {n : Number}
    (done : number? minus cs = some (n, rest)) : n.isNumeric = true := by
  have numeric {x : Double} (number : x.isNaN = false) : (Number.float x).isNumeric = true := by
    rw [Number.isNumeric, number]
    rfl
  simp only [number?, Option.bind_eq_bind] at done
  split at done
  · cases done
  · obtain ⟨⟨fraction, tail⟩, -, done⟩ := Option.bind_eq_some_iff.mp done
    obtain ⟨⟨exponent, tail⟩, -, done⟩ := Option.bind_eq_some_iff.mp done
    split at done
    · split at done
      · obtain ⟨rfl, -⟩ := Prod.mk.inj (Option.some.inj done)
        rfl
      · split at done
        · obtain ⟨rfl, -⟩ := Prod.mk.inj (Option.some.inj done)
          rfl
        · obtain ⟨rfl, -⟩ := Prod.mk.inj (Option.some.inj done)
          exact numeric (Double.isNaN_ofRatio _ _ _)
    · obtain ⟨x, scaled, done⟩ := Option.bind_eq_some_iff.mp done
      obtain ⟨rfl, -⟩ := Prod.mk.inj (Option.some.inj done)
      have number := isNaN_scaled (Double.isNaN_ofRatio _ _ _) scaled
      rw [Double.isNaN, decide_eq_false_iff_not, not_lt] at number
      exact numeric (Double.isNaN_ofMagnitude minus number)

theorem fieldsNumeric_setField {key : String} {value : Json} {fields : List (String × Json)}
    (numeric : value.isNumeric = true) (others : fieldsNumeric fields = true) :
    fieldsNumeric (setField key value fields) = true := by
  induction fields with
  | nil => simp [setField, fieldsNumeric, fieldNumeric, numeric]
  | cons f rest ih =>
    obtain ⟨k, v⟩ := f
    simp only [fieldsNumeric, Bool.and_eq_true] at others
    rw [setField]
    split
    · simp [fieldsNumeric, fieldNumeric, numeric] at others ⊢
      exact others
    · simp [fieldsNumeric, fieldNumeric, numeric, others.2]
    · rw [fieldsNumeric, others.1, ih others.2]
      rfl

/-- What is read with a number of calls has numbers only. -/
structure ReadsNumbers (fuel : Nat) : Prop where
  value {depth : Nat} {cs rest : List Char} {x : Json} (read : value? fuel depth cs = some (x, rest)) :
    x.isNumeric = true
  items {depth : Nat} {cs rest : List Char} {xs : List Json} (read : items? fuel depth cs = some (xs, rest)) :
    areNumeric xs = true
  fields {depth : Nat} {cs rest : List Char} {seen fs : List (String × Json)} (before : fieldsNumeric seen = true)
    (read : fields? fuel depth cs seen = some (fs, rest)) : fieldsNumeric fs = true

namespace ReadsNumbers

variable {fuel depth : Nat} {cs rest : List Char}

theorem value_succ (reads : ReadsNumbers fuel) {x : Json} (read : value? (fuel + 1) depth cs = some (x, rest)) :
    x.isNumeric = true := by
  rw [value?] at read
  split at read
  · cases read; rfl
  · cases read; rfl
  · cases read; rfl
  · obtain ⟨⟨s, _⟩, -, same⟩ := Option.map_eq_some_iff.mp read
    cases same
    rfl
  · split at read
    · cases read
    · split at read
      · cases read; rfl
      · obtain ⟨⟨ys, _⟩, found, same⟩ := Option.map_eq_some_iff.mp read
        cases same
        exact reads.items found
  · split at read
    · cases read
    · split at read
      · cases read; rfl
      · obtain ⟨⟨gs, _⟩, found, same⟩ := Option.map_eq_some_iff.mp read
        cases same
        exact reads.fields rfl found
  · obtain ⟨⟨n, _⟩, found, same⟩ := Option.map_eq_some_iff.mp read
    cases same
    exact isNumeric_number found
  · obtain ⟨⟨n, _⟩, found, same⟩ := Option.map_eq_some_iff.mp read
    cases same
    exact isNumeric_number found

theorem items_succ (reads : ReadsNumbers fuel) {xs : List Json}
    (read : items? (fuel + 1) depth cs = some (xs, rest)) : areNumeric xs = true := by
  rw [items?] at read
  split at read
  · cases read
  next x tail first =>
    split at read
    · obtain ⟨⟨ys, _⟩, later, same⟩ := Option.map_eq_some_iff.mp read
      cases same
      rw [areNumeric, reads.value first, reads.items later]
      rfl
    · cases read
      rw [areNumeric, reads.value first]
      rfl
    · cases read

theorem fields_succ (reads : ReadsNumbers fuel) {seen fs : List (String × Json)} (before : fieldsNumeric seen = true)
    (read : fields? (fuel + 1) depth cs seen = some (fs, rest)) : fieldsNumeric fs = true := by
  rw [fields?] at read
  split at read
  · split at read
    · cases read
    next key tail _ =>
      split at read
      · split at read
        · cases read
        next x tail found =>
          have added : fieldsNumeric (setField (String.ofList key) x seen) = true :=
            fieldsNumeric_setField (reads.value found) before
          dsimp only at read
          split at read
          · exact reads.fields added read
          · cases read
            exact added
          · cases read
      · cases read
  · cases read

end ReadsNumbers

theorem readsNumbers (fuel : Nat) : ReadsNumbers fuel := by
  induction fuel with
  | zero => exact ⟨nofun, nofun, fun _ => nofun⟩
  | succ fuel ih => exact ⟨ih.value_succ, ih.items_succ, ih.fields_succ⟩

/-- A document that is read has numbers only. -/
theorem isNumeric_of_parse {s : String} {x : Json} (read : parse? s = some x) : x.isNumeric = true := by
  unfold parse? at read
  dsimp only at read
  split at read
  next y rest found =>
    split at read
    · cases read
      exact (readsNumbers _).value found
    · cases read
  · cases read

end Json
end Sift
