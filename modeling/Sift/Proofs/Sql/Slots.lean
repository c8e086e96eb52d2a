import Sift.Proofs.Binding
import Sift.Sql.Condition

/-!
# Slots of printed conditions

A condition or a source emits the values that stand in it, in the order of its
text: each is bound once, and its slot stands where its value stood.
-/
namespace Sift

namespace SqlText

@[simp] theorem slotNames_empty : empty.slotNames = [] := rfl

@[simp] theorem slotNames_raw (s : String) : (raw s).slotNames = [] := rfl

@[simp] theorem slotNames_slot (name : String) : (slot name).slotNames = [name] := rfl

theorem map_appendSlots (u : SqlText) (slots : List (String × String)) (some : slots ≠ []) :
    (appendSlots u slots).map (·.1) = slots.map (·.1) ++ u.slots.map (·.1) := by
  induction slots with
  | nil => exact absurd rfl some
  | cons s rest ih =>
    cases rest with
    | nil => rfl
    | cons t more =>
      show s.1 :: (appendSlots u (t :: more)).map (·.1) = _
      rw [ih (List.cons_ne_nil t more)]
      rfl

@[simp] theorem slotNames_append (t u : SqlText) :
    (t ++ u).slotNames = t.slotNames ++ u.slotNames := by
  show (append t u).slotNames = _
  obtain ⟨head, slots⟩ := t
  cases slots with
  | nil => rfl
  | cons s rest => exact map_appendSlots u (s :: rest) (List.cons_ne_nil s rest)

theorem slotNames_foldl (t : SqlText) (ts : List SqlText) :
    (ts.foldl append t).slotNames = t.slotNames ++ ts.flatMap slotNames := by
  induction ts generalizing t with
  | nil => simp
  | cons u us ih =>
    rw [List.foldl_cons, ih, List.flatMap_cons, ← List.append_assoc]
    congr 1
    exact slotNames_append t u

@[simp] theorem slotNames_concat (ts : List SqlText) :
    (concat ts).slotNames = ts.flatMap slotNames := by
  rw [concat, slotNames_foldl, slotNames_empty, List.nil_append]

@[simp] theorem slotNames_join (separator : String) (ts : List SqlText) :
    (join separator ts).slotNames = ts.flatMap slotNames := by
  induction ts with
  | nil => rfl
  | cons t rest ih =>
    cases rest with
    | nil => simp [join]
    | cons u us => simp [join, ih]

end SqlText

@[simp] theorem slotNames_andAll (ts : List SqlText) :
    (andAll ts).slotNames = ts.flatMap SqlText.slotNames := by
  simp [andAll, List.flatMap_map]

/-! ## What is emitted -/

theorem emits_bindName (base : String) (v : Value) :
    Emits (fun name => [name]) [] (bindName base v) [(base, v)] :=
  fun _ => ⟨rfl, rfl⟩

theorem emits_bindSlot (base : String) (v : Value) :
    Emits SqlText.slotNames [] (bindSlot base v) [(base, v)] :=
  (emits_bindName base v).map fun _ => rfl

theorem emits_bindSlots (base : String) (vs : List Value) :
    Emits (List.flatMap SqlText.slotNames) [] (bindSlots base vs) (vs.map fun v => (base, v)) := by
  induction vs with
  | nil => exact Emits.pure rfl
  | cons v vs ih =>
    exact (emits_bindSlot base v).bind fun s => ih.map fun ss => rfl

/-- The values of a test, in the order of its text. -/
def Test.values : Test → List Value
  | .compare _ v => [v]
  | .compareLength _ n => [.int n]
  | .between _ lower upper => [lower, upper]
  | .lengthBetween _ lower upper => [.int lower, .int upper]
  | .isIn _ vs => vs
  | .like _ pattern _ => [.text pattern]
  | .isNull _ | .isTrue _ | .isFalse _ | .blank | .filled => []

mutual

/-- The values of a condition and the columns they are compared with, in the order of its text. -/
def Condition.bindings : Condition → List (String × Value)
  | .never => []
  | .test _ c t => t.values.map fun v => (c.column, v)
  | .subquery _ source _ conditions => source.bindings ++ Condition.allBindings conditions
termination_by structural x => x

/-- The values of a source, those of the left side first. -/
def Source.bindings : Source → List (String × Value)
  | .table _ => []
  | .join _ left right _ conditions =>
    left.bindings ++ (right.bindings ++ Condition.allBindings conditions)
termination_by structural x => x

def Condition.allBindings : List Condition → List (String × Value)
  | [] => []
  | c :: cs => c.bindings ++ Condition.allBindings cs
termination_by structural x => x

end

theorem Test.emits (d : Dialect) (c : ColumnRef) (t : Test) :
    Emits SqlText.slotNames [] (t.print d c) (t.values.map fun v => (c.column, v)) := by
  cases t with
  | compare op v => exact (emits_bindSlot c.column v).map fun s => by simp
  | compareLength op n => exact (emits_bindSlot c.column (.int n)).map fun s => by simp
  | between negated lower upper =>
    exact (emits_bindSlot c.column lower).bind fun lo =>
      (emits_bindSlot c.column upper).map fun hi => by simp
  | lengthBetween negated lower upper =>
    exact (emits_bindSlot c.column (.int lower)).bind fun lo =>
      (emits_bindSlot c.column (.int upper)).map fun hi => by simp
  | isIn negated vs => exact (emits_bindSlots c.column vs).map fun ss => by simp
  | like negated pattern escaped =>
    exact (emits_bindSlot c.column (.text pattern)).map fun s => by cases escaped <;> simp
  | isNull negated => exact Emits.pure rfl
  | isTrue negated => exact Emits.pure rfl
  | isFalse negated => exact Emits.pure rfl
  | blank => exact Emits.pure rfl
  | filled => exact Emits.pure rfl

mutual

theorem Condition.emits (d : Dialect) :
    ∀ c : Condition, Emits SqlText.slotNames [] (c.print d) c.bindings
  | .never => Emits.pure rfl
  | .test orNull c t => (t.emits d c).map fun s => by cases orNull <;> simp
  | .subquery negated source link conditions =>
    (source.emits d).bind fun from_ => (Condition.emits_all d conditions).map fun conds => by simp

theorem Source.emits (d : Dialect) :
    ∀ s : Source, Emits SqlText.slotNames [] (s.print d) s.bindings
  | .table t => Emits.pure rfl
  | .join outer left right link conditions =>
    (left.emits d).bind fun l => (right.emits d).bind fun r =>
      (Condition.emits_all d conditions).map fun conds => by
        cases outer <;> cases right.isTable <;> simp

theorem Condition.emits_all (d : Dialect) :
    ∀ cs : List Condition,
      Emits (List.flatMap SqlText.slotNames) [] (Condition.printAll d cs) (Condition.allBindings cs)
  | [] => Emits.pure rfl
  | c :: cs => (c.emits d).bind fun s => (Condition.emits_all d cs).map fun ss => by simp

end

end Sift
