import Sift.Event
import Mathlib.Data.List.Induction

/-!
# Steps of computations that succeed

A computation that gives a result took each of its steps with a result.
-/
namespace Sift

theorem exists_of_isOk {α : Type} {x : Except Error α} (done : x.isOk = true) : ∃ a, x = .ok a := by
  cases x with
  | error e => cases done
  | ok a => exact ⟨a, rfl⟩

theorem ok_of_isOk {x : Except Error Unit} (done : x.isOk = true) : x = .ok () := by
  obtain ⟨_, same⟩ := exists_of_isOk done
  exact same

/-- The step before a result. -/
theorem ok_of_bind {ε α β : Type} {x : Except ε α} {f : α → Except ε β} {b : β}
    (done : x >>= f = .ok b) : ∃ a, x = .ok a ∧ f a = .ok b := by
  cases x with
  | error e => cases done
  | ok a => exact ⟨a, rfl, done⟩

theorem ok_of_map {ε α β : Type} {x : Except ε α} {f : α → β} {b : β} (done : x.map f = .ok b) :
    ∃ a, x = .ok a ∧ f a = b := by
  cases x with
  | error e => cases done
  | ok a => exact ⟨a, rfl, Except.ok.inj done⟩

/-- The steps after a check that throws. -/
theorem ok_of_guard {ε β : Type} {p : Prop} [Decidable p] {e : ε} {f : Unit → Except ε β} {b : β}
    (done : (if p then throw e >>= f else f ()) = .ok b) : ¬p ∧ f () = .ok b := by
  by_cases refused : p
  · rw [if_pos refused] at done
    cases done
  · rw [if_neg refused] at done
    exact ⟨refused, done⟩

/-- A check of every element of a list succeeds exactly when each of them passes. -/
theorem forM_ok_iff {ε α : Type} {xs : List α} {check : α → Except ε Unit} :
    xs.forM check = .ok () ↔ ∀ x ∈ xs, check x = .ok () := by
  induction xs with
  | nil => simp [List.forM, pure, Except.pure]
  | cons x xs ih =>
    show (check x >>= fun _ => xs.forM check) = _ ↔ _
    rw [List.forall_mem_cons, ← ih]
    constructor
    · intro done
      obtain ⟨_, first, rest⟩ := ok_of_bind done
      exact ⟨first, rest⟩
    · rintro ⟨first, rest⟩
      rw [first]
      exact rest

theorem mapM_eq_ok {ε α β : Type} {f : α → Except ε β} {h : α → β} {xs : List α}
    (each : ∀ x ∈ xs, f x = .ok (h x)) : xs.mapM f = .ok (xs.map h) := by
  induction xs with
  | nil => rfl
  | cons x xs ih =>
    rw [List.mapM_cons, each x List.mem_cons_self, ih fun y member => each y (List.mem_cons_of_mem _ member)]
    rfl

/-- A run over a list gives the state of what was read exactly when that is admitted, if each step does for what
was admitted before it. -/
theorem foldlM_eq_ok_iff {ε σ α : Type} {step : σ → α → Except ε σ} {state : List α → σ} {Admitted : List α → Prop}
    (start : Admitted []) (before : ∀ xs x, Admitted (xs ++ [x]) → Admitted xs)
    (each : ∀ xs x, Admitted xs → ∀ s, step (state xs) x = .ok s ↔ Admitted (xs ++ [x]) ∧ state (xs ++ [x]) = s)
    (xs : List α) (s : σ) : xs.foldlM step (state []) = .ok s ↔ Admitted xs ∧ state xs = s := by
  -- from the right, since a step comes after the run over all that stands before
  induction xs using List.reverseRecOn generalizing s with
  | nil =>
    constructor
    · rintro ⟨rfl⟩
      exact ⟨start, rfl⟩
    · rintro ⟨-, rfl⟩
      rfl
  | append_singleton xs x ih =>
    have last (t : σ) : [x].foldlM step t = step t x := by simp only [List.foldlM_cons, List.foldlM_nil, bind_pure]
    rw [List.foldlM_append]
    constructor
    · intro done
      obtain ⟨t, first, done⟩ := ok_of_bind done
      obtain ⟨admitted, rfl⟩ := (ih t).mp first
      rw [last] at done
      exact (each xs x admitted s).mp done
    · rintro ⟨admitted, rfl⟩
      have earlier : Admitted xs := before xs x admitted
      rw [(ih (state xs)).mpr ⟨earlier, rfl⟩]
      show [x].foldlM step (state xs) = .ok (state (xs ++ [x]))
      rw [last, (each xs x earlier _).mpr ⟨admitted, rfl⟩]

/-- The step that an operation took before its result. -/
theorem Traced.result_of_bind {α β : Type} {x : Traced α} {f : α → Traced β} {b : β}
    (done : (x >>= f).result = .ok b) : ∃ a, x.result = .ok a ∧ (f a).result = .ok b := by
  rw [result_bind] at done
  exact ok_of_bind done

/-- What follows a step that succeeds. -/
theorem Traced.result_bind_of_ok {α β : Type} {x : Traced α} {f : α → Traced β} {a : α}
    (step : x.result = .ok a) : (x >>= f).result = (f a).result := by
  rw [result_bind, step]
  rfl

end Sift
