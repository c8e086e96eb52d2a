import Sift.Json.Text
import Sift.Proofs.Value.Order

/-!
# Equal documents and their texts

Two documents are the same if they differ in nothing but the signs of zeros. The
text of a zero shows its sign, so documents that are the same have one text only if
they are identical.
-/
namespace Sift

/-! ## Numbers -/

namespace Double

/-- The number with a positive zero for a negative one. -/
def unsigned (x : Double) : Double := if x.magnitude = 0 then ⟨0⟩ else x

/-- A number is its sign and its magnitude. -/
theorem eq_of_sign {x y : Double} (sign : x.negative = y.negative) (magnitude : x.magnitude = y.magnitude) :
    x = y := by
  obtain ⟨a⟩ := x
  obtain ⟨b⟩ := y
  simp only [negative, BitVec.msb_eq_decide, decide_eq_decide] at sign
  simp only [Double.magnitude, Nat.pow_eq] at magnitude
  have below := a.isLt
  have below' := b.isLt
  exact congrArg Double.mk (BitVec.eq_of_toNat_eq (by omega))

theorem magnitude_eq_natAbs (x : Double) : x.magnitude = x.place.natAbs := by
  rw [place]
  split <;> simp

/-- Numbers at one place differ at most in the sign of a zero. -/
theorem unsigned_eq_iff {x y : Double} : x.unsigned = y.unsigned ↔ x.place = y.place := by
  have zero (z : Double) : (z.magnitude = 0 ↔ z.place = 0) := by
    rw [magnitude_eq_natAbs, Int.natAbs_eq_zero]
  constructor
  · intro same
    by_cases left : x.magnitude = 0 <;> by_cases right : y.magnitude = 0
    · rw [(zero x).mp left, (zero y).mp right]
    · rw [unsigned, unsigned, if_pos left, if_neg right] at same
      exact absurd (by rw [← same]; rfl) right
    · rw [unsigned, unsigned, if_neg left, if_pos right] at same
      exact absurd (by rw [same]; rfl) left
    · rw [unsigned, unsigned, if_neg left, if_neg right] at same
      rw [same]
  · intro same
    have magnitude : x.magnitude = y.magnitude := by rw [magnitude_eq_natAbs, magnitude_eq_natAbs, same]
    by_cases left : x.magnitude = 0
    · rw [unsigned, unsigned, if_pos left, if_pos (magnitude ▸ left)]
    · rw [unsigned, unsigned, if_neg left, if_neg (magnitude ▸ left)]
      refine eq_of_sign ?_ magnitude
      rw [place, place] at same
      cases minus : x.negative <;> cases minus' : y.negative <;> simp [minus, minus'] at same ⊢ <;> omega

theorem eq_or_zeros {x y : Double} (agree : x.unsigned = y.unsigned) :
    x = y ∨ x.magnitude = 0 ∧ y.magnitude = 0 ∧ x.negative = !y.negative := by
  have magnitude : x.magnitude = y.magnitude := by
    rw [magnitude_eq_natAbs, magnitude_eq_natAbs, unsigned_eq_iff.mp agree]
  by_cases left : x.magnitude = 0
  · by_cases sign : x.negative = y.negative
    · exact .inl (eq_of_sign sign magnitude)
    · exact .inr ⟨left, magnitude ▸ left, Bool.eq_not_of_ne sign⟩
  · rw [unsigned, unsigned, if_neg left, if_neg (magnitude ▸ left)] at agree
    exact .inl agree

/-- The text of a zero shows its sign. -/
theorem write_zero {x : Double} (style : Decimal.Style) (zero : x.magnitude = 0) :
    x.write style = (if x.negative then "-" else "") ++ "0.0" := by
  simp [write, zero, Decimal.shortest, Decimal.Style.write]

end Double

namespace Json

/-- Whether a number is one: NaN is none. -/
def Number.isNumeric : Number → Bool
  | .int _ => true
  | .float x => !x.isNaN

def Number.unsigned : Number → Number
  | .int i => .int i
  | .float x => .float x.unsigned

theorem Number.same_iff {m n : Number} :
    m.same n = true ↔ m.isNumeric = true ∧ n.isNumeric = true ∧ m.unsigned = n.unsigned := by
  cases m with
  | int i =>
    cases n with
    | int j => simp [same, isNumeric, unsigned]
    | float y => simp [same, unsigned]
  | float x =>
    cases n with
    | int j => simp [same, unsigned]
    | float y =>
      simp only [same, isNumeric, unsigned, beq_iff_eq, Double.compare?_eq_some, compare_eq_iff_eq,
        Bool.not_eq_true', Number.float.injEq, Double.unsigned_eq_iff]

/-! ## Documents -/

mutual

/-- Whether every number of a document is one. -/
def isNumeric : Json → Bool
  | .null | .bool _ | .str _ => true
  | .num n => n.isNumeric
  | .arr items => areNumeric items
  | .obj fields => fieldsNumeric fields
termination_by structural x => x

def areNumeric : List Json → Bool
  | [] => true
  | x :: xs => isNumeric x && areNumeric xs
termination_by structural x => x

def fieldsNumeric : List (String × Json) → Bool
  | [] => true
  | f :: fs => fieldNumeric f && fieldsNumeric fs
termination_by structural x => x

def fieldNumeric : String × Json → Bool
  | (_, v) => isNumeric v
termination_by structural x => x

end

mutual

/-- The document with positive zeros for negative ones. -/
def unsigned : Json → Json
  | .null => .null
  | .bool b => .bool b
  | .num n => .num n.unsigned
  | .str s => .str s
  | .arr items => .arr (allUnsigned items)
  | .obj fields => .obj (fieldsUnsigned fields)
termination_by structural x => x

def allUnsigned : List Json → List Json
  | [] => []
  | x :: xs => unsigned x :: allUnsigned xs
termination_by structural x => x

def fieldsUnsigned : List (String × Json) → List (String × Json)
  | [] => []
  | f :: fs => fieldUnsigned f :: fieldsUnsigned fs
termination_by structural x => x

def fieldUnsigned : String × Json → String × Json
  | (k, v) => (k, unsigned v)
termination_by structural x => x

end

mutual

/-- Documents are the same exactly if their numbers are numbers and they agree up to the signs of zeros. -/
theorem same_iff : ∀ x y : Json,
    x.same y = true ↔ x.isNumeric = true ∧ y.isNumeric = true ∧ x.unsigned = y.unsigned
  | .null, y => by cases y <;> simp [same, isNumeric, unsigned]
  | .bool a, y => by cases y <;> simp [same, isNumeric, unsigned]
  | .str s, y => by cases y <;> simp [same, isNumeric, unsigned]
  | .num m, y => by
    cases y with
    | num n => simp only [same, isNumeric, unsigned, Json.num.injEq, Number.same_iff]
    | _ => simp [same, unsigned]
  | .arr xs, y => by
    cases y with
    | arr ys => simp only [same, isNumeric, unsigned, Json.arr.injEq, sameItems_iff xs ys]
    | _ => simp [same, unsigned]
  | .obj xs, y => by
    cases y with
    | obj ys => simp only [same, isNumeric, unsigned, Json.obj.injEq, sameFields_iff xs ys]
    | _ => simp [same, unsigned]

theorem sameItems_iff : ∀ xs ys : List Json,
    sameItems xs ys = true ↔ areNumeric xs = true ∧ areNumeric ys = true ∧ allUnsigned xs = allUnsigned ys
  | [], ys => by cases ys <;> simp [sameItems, areNumeric, allUnsigned]
  | x :: xs, ys => by
    cases ys with
    | nil => simp [sameItems, allUnsigned]
    | cons y ys =>
      simp only [sameItems, areNumeric, allUnsigned, Bool.and_eq_true, List.cons.injEq, same_iff x y,
        sameItems_iff xs ys]
      tauto

theorem sameFields_iff : ∀ xs ys : List (String × Json),
    sameFields xs ys = true ↔
      fieldsNumeric xs = true ∧ fieldsNumeric ys = true ∧ fieldsUnsigned xs = fieldsUnsigned ys
  | [], ys => by cases ys <;> simp [sameFields, fieldsNumeric, fieldsUnsigned]
  | x :: xs, ys => by
    cases ys with
    | nil => simp [sameFields, fieldsUnsigned]
    | cons y ys =>
      simp only [sameFields, fieldsNumeric, fieldsUnsigned, Bool.and_eq_true, List.cons.injEq, sameField_iff x y,
        sameFields_iff xs ys]
      tauto

theorem sameField_iff : ∀ x y : String × Json,
    sameField x y = true ↔ fieldNumeric x = true ∧ fieldNumeric y = true ∧ fieldUnsigned x = fieldUnsigned y
  | (k, v), (l, w) => by
    simp only [sameField, fieldNumeric, fieldUnsigned, Bool.and_eq_true, beq_iff_eq, Prod.mk.injEq, same_iff v w]
    tauto

end

/-! ## Texts -/

/-- Numbers that agree up to the sign of a zero are identical if texts that start with theirs are. -/
theorem Number.text_head {m n : Number} {r s : List Char} (agree : m.unsigned = n.unsigned)
    (text : m.text.toList ++ r = n.text.toList ++ s) : m = n ∧ r = s := by
  have identical (same : m = n) : m = n ∧ r = s := by
    subst same
    exact ⟨rfl, List.append_cancel_left text⟩
  cases m with
  | int i =>
    cases n with
    | int j => exact identical agree
    | float y => cases agree
  | float x =>
    cases n with
    | int j => cases agree
    | float y =>
      rcases Double.eq_or_zeros (Number.float.inj agree) with same | ⟨left, right, signs⟩
      · exact identical (congrArg Number.float same)
      · rw [Number.text, Number.text, Double.write_zero _ left, Double.write_zero _ right, signs] at text
        cases minus : y.negative <;> simp [minus] at text

/-- What holds of a document if it holds of its items and of the values of its fields holds of every document. -/
theorem induction {P : Json → Prop} (null : P .null) (bool : ∀ b, P (.bool b)) (num : ∀ n, P (.num n))
    (str : ∀ s, P (.str s)) (arr : ∀ items, (∀ x ∈ items, P x) → P (.arr items))
    (obj : ∀ fields : List (String × Json), (∀ f ∈ fields, P f.2) → P (.obj fields)) (j : Json) : P j :=
  @Json.rec P (fun items => ∀ x ∈ items, P x) (fun fields => ∀ f ∈ fields, P f.2) (fun f => P f.2)
    null bool num str arr obj
    (fun _ member => nomatch member)
    (fun _ _ first rest => List.forall_mem_cons.mpr ⟨first, rest⟩)
    (fun _ member => nomatch member)
    (fun _ _ first rest => List.forall_mem_cons.mpr ⟨first, rest⟩)
    (fun _ _ value => value) j

theorem itemTexts_eq (xs : List Json) : itemTexts xs = xs.map text := by
  induction xs with
  | nil => rfl
  | cons x xs ih => rw [itemTexts, ih, List.map_cons]

theorem fieldTexts_eq (fs : List (String × Json)) : fieldTexts fs = fs.map fieldText := by
  induction fs with
  | nil => rfl
  | cons f fs ih => rw [fieldTexts, ih, List.map_cons]

theorem allUnsigned_eq (xs : List Json) : allUnsigned xs = xs.map unsigned := by
  induction xs with
  | nil => rfl
  | cons x xs ih => rw [allUnsigned, ih, List.map_cons]

theorem fieldsUnsigned_eq (fs : List (String × Json)) : fieldsUnsigned fs = fs.map fieldUnsigned := by
  induction fs with
  | nil => rfl
  | cons f fs ih => rw [fieldsUnsigned, ih, List.map_cons]

/-- Texts by which elements that agree on an image are told apart, whatever follows them. -/
def TellsApart {α β : Type} (image : α → β) (text : α → String) (x : α) : Prop :=
  ∀ (y : α) {r s : List Char}, image x = image y → (text x).toList ++ r = (text y).toList ++ s → x = y ∧ r = s

/-- The text of a list goes on with a comma after its first item, or ends there. -/
theorem toList_intercalate_cons (first : String) (texts : List String) :
    (",".intercalate (first :: texts)).toList =
      first.toList ++ (if texts = [] then [] else ',' :: (",".intercalate texts).toList) := by
  cases texts with
  | nil => simp
  | cons second texts => simp [String.intercalate_cons_cons]

/-- Lists are told apart by the texts of their elements with commas between them. -/
theorem tellsApart_intercalate {α β : Type} {image : α → β} {text : α → String} {xs : List α}
    (each : ∀ x ∈ xs, TellsApart image text x) :
    TellsApart (List.map image) (fun xs => ",".intercalate (xs.map text)) xs := by
  induction xs with
  | nil =>
    intro ys r s agree same
    cases ys with
    | nil => exact ⟨rfl, same⟩
    | cons y ys => cases agree
  | cons x xs ih =>
    intro ys r s agree same
    cases ys with
    | nil => cases agree
    | cons y ys =>
      obtain ⟨first, later⟩ := List.cons.inj agree
      simp only [List.map_cons, toList_intercalate_cons, List.append_assoc] at same
      obtain ⟨rfl, rest⟩ := each x List.mem_cons_self y first same
      have length : xs.length = ys.length := by simpa using congrArg List.length later
      by_cases ends : xs = []
      · obtain rfl := ends
        obtain rfl : ys = [] := List.eq_nil_of_length_eq_zero length.symm
        exact ⟨rfl, rest⟩
      · have goes : ys ≠ [] := fun nothing => ends (List.eq_nil_of_length_eq_zero (by rw [length, nothing]; rfl))
        simp only [List.map_eq_nil_iff, ends, goes, if_false] at rest
        obtain ⟨same, ended⟩ := ih (fun z member => each z (List.mem_cons_of_mem _ member)) ys later
          (List.cons.inj rest).2
        exact ⟨congrArg (x :: ·) same, ended⟩

/-- Documents that agree up to the signs of zeros are identical if their texts are, whatever follows them. -/
theorem tellsApart_text (x : Json) : TellsApart unsigned text x := by
  induction x using Json.induction with
  | null =>
    intro y r s agree same
    cases y with
    | null => exact ⟨rfl, List.append_cancel_left same⟩
    | _ => simp [unsigned] at agree
  | bool b =>
    intro y r s agree same
    cases y with
    | bool c =>
      obtain rfl : b = c := Json.bool.inj agree
      exact ⟨rfl, List.append_cancel_left same⟩
    | _ => simp [unsigned] at agree
  | str k =>
    intro y r s agree same
    cases y with
    | str l =>
      obtain rfl : k = l := Json.str.inj agree
      exact ⟨rfl, List.append_cancel_left same⟩
    | _ => simp [unsigned] at agree
  | num m =>
    intro y r s agree same
    cases y with
    | num n =>
      obtain ⟨rfl, rest⟩ := Number.text_head (Json.num.inj agree) same
      exact ⟨rfl, rest⟩
    | _ => simp [unsigned] at agree
  | arr xs each =>
    intro y r s agree same
    cases y with
    | arr ys =>
      simp only [unsigned, Json.arr.injEq, allUnsigned_eq] at agree
      simp only [text, itemTexts_eq, String.toList_append, List.append_assoc] at same
      obtain ⟨rfl, rest⟩ := tellsApart_intercalate each ys agree (List.append_cancel_left same)
      exact ⟨rfl, List.append_cancel_left rest⟩
    | _ => simp [unsigned] at agree
  | obj fs each =>
    intro y r s agree same
    cases y with
    | obj gs =>
      simp only [unsigned, Json.obj.injEq, fieldsUnsigned_eq] at agree
      simp only [text, fieldTexts_eq, String.toList_append, List.append_assoc] at same
      have fields : ∀ f ∈ fs, TellsApart fieldUnsigned fieldText f := by
        rintro ⟨k, v⟩ member ⟨l, w⟩ r s agree same
        obtain ⟨rfl, value⟩ := Prod.mk.inj (show (k, unsigned v) = (l, unsigned w) from agree)
        simp only [fieldText, String.toList_append, List.append_assoc] at same
        obtain ⟨rfl, rest⟩ := each (k, v) member w value (List.append_cancel_left (List.append_cancel_left same))
        exact ⟨rfl, rest⟩
      obtain ⟨rfl, rest⟩ := tellsApart_intercalate fields gs agree (List.append_cancel_left same)
      exact ⟨rfl, List.append_cancel_left rest⟩
    | _ => simp [unsigned] at agree

end Json
end Sift
