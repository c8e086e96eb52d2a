import Sift.Proofs.Json.Equality
import Sift.Query.Digest
import Mathlib.Logic.Basic

/-!
# Equal values and their digests

Values are equal if they agree up to the signs of the zeros in documents. The digest
of a document is its text, which shows these signs: equal values have one digest only
if they are identical.
-/
namespace Sift

/-! ## Equality by images -/

/-- Elements are equal exactly if they lie in a domain and have one image. -/
def EqualByImage {α β : Type} [BEq α] (domain : α → Prop) (image : α → β) : Prop :=
  ∀ a b : α, (a == b) = true ↔ domain a ∧ domain b ∧ image a = image b

/-- Equal elements with one digest are identical. -/
def Identifies {α β : Type} [BEq α] (digest : α → β) : Prop :=
  ∀ a b : α, (a == b) = true → digest a = digest b → a = b

variable {α β : Type} [BEq α]

/-- What compares images is an equivalence. -/
theorem equivalence_of_image {domain : α → Prop} (image : α → β)
    (agree : ∀ a b : α, domain a → domain b → ((a == b) = true ↔ image a = image b)) :
    Equivalence fun a b : {a : α // domain a} => (a.1 == b.1) = true := by
  refine ⟨fun a => ?_, fun {a b} same => ?_, fun {a b c} left right => ?_⟩
  · exact (agree a.1 a.1 a.2 a.2).mpr rfl
  · rw [agree _ _ a.2 b.2] at same
    exact (agree _ _ b.2 a.2).mpr same.symm
  · rw [agree _ _ a.2 b.2] at left
    rw [agree _ _ b.2 c.2] at right
    exact (agree _ _ a.2 c.2).mpr (left.trans right)

theorem EqualByImage.equivalence {domain : α → Prop} {image : α → β} (equal : EqualByImage domain image) :
    Equivalence fun a b : {a : α // domain a} => (a.1 == b.1) = true :=
  equivalence_of_image image fun a b left right => by
    rw [equal a b]
    exact ⟨fun all => all.2.2, fun same => ⟨left, right, same⟩⟩

theorem EqualByImage.symm {domain : α → Prop} {image : α → β} (equal : EqualByImage domain image) {a b : α}
    (same : (a == b) = true) : (b == a) = true := by
  rw [equal] at same ⊢
  exact ⟨same.2.1, same.1, same.2.2.symm⟩

/-- Lists are compared element by element. -/
theorem EqualByImage.list {domain : α → Prop} {image : α → β} (equal : EqualByImage domain image) :
    EqualByImage (fun xs : List α => ∀ x ∈ xs, domain x) (List.map image) := by
  intro xs
  induction xs with
  | nil => intro ys; cases ys <;> simp
  | cons x xs ih =>
    intro ys
    cases ys with
    | nil => simp
    | cons y ys =>
      rw [List.cons_beq_cons, Bool.and_eq_true, equal x y, ih ys]
      simp only [List.forall_mem_cons, List.map_cons, List.cons.injEq]
      tauto

theorem Identifies.list {digest : α → β} (identifies : Identifies digest) : Identifies (List.map digest) := by
  intro xs
  induction xs with
  | nil => intro ys same _; cases ys with | nil => rfl | cons y ys => cases same
  | cons x xs ih =>
    intro ys same digests
    cases ys with
    | nil => cases same
    | cons y ys =>
      rw [List.cons_beq_cons, Bool.and_eq_true] at same
      obtain ⟨first, later⟩ := List.cons.inj digests
      rw [identifies x y same.1 first, ih ys same.2 later]

/-! ## Values -/

namespace Value

/-- Whether every number in a document is one. The number NaN itself equals itself, by its bits. -/
def isNumeric : Value → Bool
  | .json j => j.isNumeric
  | _ => true

/-- The value with positive zeros for negative ones in documents. -/
def unsigned : Value → Value
  | .json j => .json j.unsigned
  | v => v

/-- Values are equal exactly if the numbers in their documents are numbers and they agree up to the signs of zeros
in documents. -/
theorem equalByImage : EqualByImage (fun v : Value => v.isNumeric = true) unsigned := by
  intro v w
  show v.same w = true ↔ _
  cases v with
  | json x =>
    cases w with
    | json y => exact (Json.same_iff x y).trans (by simp [isNumeric, unsigned])
    | _ => simp [same, unsigned]
  | float x =>
    cases w with
    | float y => cases x; cases y; simp [same, isNumeric, unsigned]
    | _ => simp [same, unsigned]
  | uuid u =>
    cases w with
    | uuid v => cases u; cases v; simp [same, isNumeric, unsigned]
    | _ => simp [same, unsigned]
  | timestamp t =>
    cases w with
    | timestamp u => cases t; cases u; simp [same, isNumeric, unsigned]
    | _ => simp [same, unsigned]
  | date d =>
    cases w with
    | date e => cases d; cases e; simp [same, isNumeric, unsigned]
    | _ => simp [same, unsigned]
  | _ => cases w <;> simp [same, isNumeric, unsigned]

theorem identifies_digest : Identifies Value.digest := by
  intro v w same digests
  obtain ⟨-, -, agree⟩ := (equalByImage v w).mp same
  cases v with
  | json x =>
    cases w with
    | json y =>
      have text : x.text.toList ++ [] = y.text.toList ++ [] := by rw [Digest.json.inj digests]
      rw [(x.tellsApart_text y (Value.json.inj agree) text).1]
    | _ => cases digests
  | _ =>
    cases w with
    | json y => cases digests
    | _ => exact agree

end Value
end Sift
