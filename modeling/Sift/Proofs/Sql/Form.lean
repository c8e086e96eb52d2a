import Sift.Statement
import Mathlib.Data.List.Basic

/-!
# Forms

The form of a condition is what is left of it without its values. Values are bound and
never written: what prints conditions of one form gives the same text, and binds
parameters of the same names.
-/
namespace Sift

/-- The names of a map, without the values. -/
def NamedValues.form (m : NamedValues) : NamedValues := ⟨m.entries.map fun e => (e.1, .null)⟩

@[simp] theorem NamedValues.names_form (m : NamedValues) : m.form.names = m.names := by
  simp [form, names]

/-- An insertion changes names by the name of its entry. -/
theorem NamedValues.form_insert (m : NamedValues) (name : String) (v : Value) :
    (m.insert name v).form = ⟨insertEntry name .null m.form.entries⟩ := by
  rw [form, insert, form]
  congr 1
  induction m.entries with
  | nil => rfl
  | cons e entries ih =>
    rw [List.map_cons, insertEntry, insertEntry]
    split
    · rfl
    · rw [List.map_cons, ih]

/-- A state of the names, without their values. -/
def Binding.form (b : Binding) : Binding := ⟨b.naming, b.params.form⟩

/-! ## Actions -/

/-- From states of one form, two actions give results of one form and states of one form. -/
def Agree {α γ : Type} (form : α → γ) (m m' : Binder α) : Prop :=
  ∀ b b' : Binding, b.form = b'.form →
    form (m.run b).1 = form (m'.run b').1 ∧ (m.run b).2.form = (m'.run b').2.form

namespace Agree

variable {α β γ : Type} {form : β → γ}

theorem pure {f : α → γ} {a a' : α} (same : f a = f a') : Agree f (Pure.pure a) (Pure.pure a') :=
  fun _ _ states => ⟨same, states⟩

theorem bind {m m' : Binder α} {k k' : α → Binder β} (first : Agree id m m')
    (second : ∀ a, Agree form (k a) (k' a)) : Agree form (m >>= k) (m' >>= k') := by
  intro b b' states
  obtain ⟨same, states⟩ := first b b' states
  have next := second (m.run b).1 _ _ states
  show form ((k (m.run b).1).run (m.run b).2).1 = form ((k' (m'.run b').1).run (m'.run b').2).1 ∧
    ((k (m.run b).1).run (m.run b).2).2.form = ((k' (m'.run b').1).run (m'.run b').2).2.form
  rwa [← show (m.run b).1 = (m'.run b').1 from same]

/-- An action after which the result is changed. -/
theorem map {m m' : Binder α} (first : Agree id m m') {k k' : α → β} (same : ∀ a, form (k a) = form (k' a)) :
    Agree form (m >>= fun a => Pure.pure (k a)) (m' >>= fun a => Pure.pure (k' a)) :=
  first.bind fun a => Agree.pure (same a)

theorem symm {f : α → γ} {m m' : Binder α} (agree : Agree f m m') : Agree f m' m := by
  intro b b' states
  obtain ⟨same, states⟩ := agree b' b states.symm
  exact ⟨same.symm, states.symm⟩

theorem trans {f : α → γ} {m m' m'' : Binder α} (first : Agree f m m') (second : Agree f m' m'') :
    Agree f m m'' := by
  intro b b' states
  obtain ⟨same, between⟩ := first b b' states
  obtain ⟨same', states'⟩ := second b' b' rfl
  exact ⟨same.trans same', between.trans states'⟩

end Agree

theorem agree_bindSlot (base : String) (v w : Value) : Agree id (bindSlot base v) (bindSlot base w) := by
  rintro ⟨naming, params⟩ ⟨naming', params'⟩ states
  obtain ⟨rfl, names⟩ : naming = naming' ∧ params.form = params'.form := by simpa [Binding.form] using states
  refine ⟨rfl, ?_⟩
  show (⟨_, (params.insert _ v).form⟩ : Binding) = ⟨_, (params'.insert _ w).form⟩
  rw [NamedValues.form_insert, NamedValues.form_insert, names]
  rfl

theorem agree_bindSlots (base : String) (vs : List Value) :
    Agree id (bindSlots base vs) (bindSlots base (vs.map fun _ => .null)) := by
  induction vs with
  | nil => exact .pure rfl
  | cons v vs ih => exact (agree_bindSlot base v .null).bind fun s => ih.map fun ss => rfl

/-! ## Conditions -/

/-- A test without its values. -/
def Test.form : Test → Test
  | .compare op _ => .compare op .null
  | .compareLength op _ => .compareLength op 0
  | .between negated _ _ => .between negated .null .null
  | .lengthBetween negated _ _ => .lengthBetween negated 0 0
  | .isIn negated vs => .isIn negated (vs.map fun _ => .null)
  | .like negated _ escaped => .like negated "" escaped
  | .isNull negated => .isNull negated
  | .isTrue negated => .isTrue negated
  | .isFalse negated => .isFalse negated
  | .blank => .blank
  | .filled => .filled

mutual

/-- A condition without its values. -/
def Condition.form : Condition → Condition
  | .never => .never
  | .test orNull c t => .test orNull c t.form
  | .subquery negated source link conditions => .subquery negated source.form link (Condition.formAll conditions)
termination_by structural x => x

/-- A source without the values of its conditions. -/
def Source.form : Source → Source
  | .table t => .table t
  | .join outer left right link conditions => .join outer left.form right.form link (Condition.formAll conditions)
termination_by structural x => x

def Condition.formAll : List Condition → List Condition
  | [] => []
  | c :: cs => c.form :: Condition.formAll cs
termination_by structural x => x

end

theorem Condition.formAll_eq (cs : List Condition) : formAll cs = cs.map form := by
  induction cs with
  | nil => rfl
  | cons c cs ih => rw [formAll, ih, List.map_cons]

@[simp] theorem Source.isTable_form (s : Source) : s.form.isTable = s.isTable := by cases s <;> rfl

theorem Test.agree_form (d : Dialect) (c : ColumnRef) (t : Test) : Agree id (t.print d c) (t.form.print d c) := by
  cases t with
  | compare op v => exact (agree_bindSlot c.column v .null).map fun s => rfl
  | compareLength op n => exact (agree_bindSlot c.column (.int n) (.int 0)).map fun s => rfl
  | between negated lower upper =>
    exact (agree_bindSlot c.column lower .null).bind fun lo =>
      (agree_bindSlot c.column upper .null).map fun hi => rfl
  | lengthBetween negated lower upper =>
    exact (agree_bindSlot c.column (.int lower) (.int 0)).bind fun lo =>
      (agree_bindSlot c.column (.int upper) (.int 0)).map fun hi => rfl
  | isIn negated vs => exact (agree_bindSlots c.column vs).map fun ss => rfl
  | like negated pattern escaped => exact (agree_bindSlot c.column (.text pattern) (.text "")).map fun s => rfl
  | isNull negated => exact .pure rfl
  | isTrue negated => exact .pure rfl
  | isFalse negated => exact .pure rfl
  | blank => exact .pure rfl
  | filled => exact .pure rfl

mutual

theorem Condition.agree_form (d : Dialect) : ∀ c : Condition, Agree id (c.print d) (c.form.print d)
  | .never => .pure rfl
  | .test _ c t => (t.agree_form d c).map fun _ => rfl
  | .subquery _ source _ conditions =>
    (source.agree_form d).bind fun _ => (Condition.agree_formAll d conditions).map fun _ => rfl

theorem Source.agree_form (d : Dialect) : ∀ s : Source, Agree id (s.print d) (s.form.print d)
  | .table _ => .pure rfl
  | .join _ left right _ conditions =>
    (left.agree_form d).bind fun _ => (right.agree_form d).bind fun _ =>
      (Condition.agree_formAll d conditions).map fun _ => by rw [right.isTable_form]

theorem Condition.agree_formAll (d : Dialect) :
    ∀ cs : List Condition, Agree id (Condition.printAll d cs) (Condition.printAll d (Condition.formAll cs))
  | [] => .pure rfl
  | c :: cs => (c.agree_form d).bind fun _ => (Condition.agree_formAll d cs).map fun _ => rfl

end

/-! ## Selections -/

/-- A selection without its values. -/
def Selection.form (s : Selection) : Selection := ⟨s.source.form, s.conditions.map Condition.form⟩

/-- A scope without its values, whether or not it is predicted to be empty. -/
def Scope.form (s : Scope) : Scope := { s with params := s.params.form, predictsEmpty := false }

/-- Scopes of one form have the same text and parameters of the same names. -/
theorem Scope.form_eq_iff {s t : Scope} : s.form = t.form ↔
    s.source = t.source ∧ s.conditions = t.conditions ∧ s.params.form = t.params.form := by
  rw [form, form, Scope.mk.injEq]
  simp only [and_true]

theorem Scope.text_of_form {s t : Scope} (same : s.form = t.form) : s.text = t.text := by
  obtain ⟨source, conditions, -⟩ := form_eq_iff.mp same
  rw [text, text, where?, where?, source, conditions]

theorem Selection.agree_form (d : Dialect) (predictsEmpty predictsEmpty' : Bool) (s : Selection) :
    Agree Scope.form (s.print d predictsEmpty) (s.form.print d predictsEmpty') := by
  refine (s.source.agree_form d).bind fun source => ?_
  rw [Selection.form, ← Condition.formAll_eq]
  refine (Condition.agree_formAll d s.conditions).bind fun conditions b b' states => ⟨?_, states⟩
  show (⟨source, conditions, b.params.form, false⟩ : Scope) = ⟨source, conditions, b'.params.form, false⟩
  rw [show b.params.form = b'.params.form from congrArg Binding.params states]

/-- Selections of one form print scopes of one form. -/
theorem Selection.agree {s t : Selection} (same : s.form = t.form) (d : Dialect)
    (predictsEmpty predictsEmpty' : Bool) :
    Agree Scope.form (s.print d predictsEmpty) (t.print d predictsEmpty') :=
  (s.agree_form d predictsEmpty false).trans (same ▸ (t.agree_form d predictsEmpty' false).symm)

/-! ## Windows -/

/-- A window without its numbers. -/
def Pagination.form (w : Pagination) : Pagination := ⟨w.limit.map fun _ => 0, w.offset.map fun _ => 0⟩

theorem Statement.agree_window? (d : Dialect) (w : Pagination) : Agree id (window? d w) (window? d w.form) := by
  have absent : Agree id (pure none : Binder (Option SqlText)) (pure none) := .pure rfl
  have slot (base : String) (n : Int64) :
      Agree id (do return some (← bindSlot base (.int n))) (do return some (← bindSlot base (.int 0))) :=
    (agree_bindSlot base (.int n) (.int 0)).map fun s => rfl
  obtain ⟨_ | limit, _ | offset⟩ := w
  · exact absent.bind fun l => absent.map fun o => rfl
  · exact absent.bind fun l => (slot "offset" offset).map fun o => rfl
  · exact (slot "limit" limit).bind fun l => absent.map fun o => rfl
  · exact (slot "limit" limit).bind fun l => (slot "offset" offset).map fun o => rfl

end Sift
