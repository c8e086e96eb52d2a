import Sift.Filter
import Sift.Proofs.Restriction.Constructors

/-!
# Filters and their payloads

A payload that does not fit its operation is refused as an argument. One that fits
gives a restriction of the constructors, so a filter can ask for nothing that could
not be asked for by them.
-/
namespace Sift

/-- What can fail only on its arguments. -/
def RefusesArguments {α : Type} (x : Except Error α) : Prop := ∀ e, x = .error e → ∃ cause, e = .argument cause

namespace RefusesArguments

variable {α β : Type}

theorem ok (a : α) : RefusesArguments (.ok a : Except Error α) := by
  intro e same
  cases same

theorem error (cause : ArgumentError) : RefusesArguments (.error (.argument cause) : Except Error α) := by
  intro e same
  exact ⟨cause, (Except.error.inj same).symm⟩

theorem bind {x : Except Error α} {f : α → Except Error β} (first : RefusesArguments x)
    (second : ∀ a, RefusesArguments (f a)) : RefusesArguments (x >>= f) := by
  cases x with
  | error e =>
    intro e' same
    exact first e' (congrArg Except.error (Except.error.inj same))
  | ok a => exact second a

theorem map {x : Except Error α} (first : RefusesArguments x) (f : α → β) : RefusesArguments (x.map f) := by
  cases x with
  | error e =>
    intro e' same
    exact first e' (congrArg Except.error (Except.error.inj same))
  | ok a => exact ok (f a)

end RefusesArguments

namespace Restriction

open RefusesArguments

theorem refuses_requireValue (v : Value) (operation : String) : RefusesArguments (requireValue v operation) := by
  rw [requireValue]
  split
  · exact error _
  · exact ok _

theorem refuses_requireLength (n : Int64) (operation : String) : RefusesArguments (requireLength n operation) := by
  rw [requireLength]
  split
  · exact error _
  · exact ok _

theorem refuses_between (lower upper : Value) : RefusesArguments (between lower upper) := by
  unfold between
  refine (refuses_requireValue lower _).bind fun _ => (refuses_requireValue upper _).bind fun _ => ?_
  split
  · exact ok _
  · split
    · exact error _
    · exact ok _
    · exact error _

theorem refuses_distinct (seen vs : List Value) : RefusesArguments (distinct seen vs) := by
  induction vs generalizing seen with
  | nil => exact ok seen
  | cons v vs ih => exact (refuses_requireValue v _).bind fun _ => ih _

theorem refuses_isIn (vs : List Value) : RefusesArguments (isIn vs) :=
  (refuses_distinct [] vs).bind fun _ => ok _

theorem refuses_lengthLess (n : Int64) : RefusesArguments (lengthLess n) := by
  rw [lengthLess]
  split
  · exact error _
  · exact ok _

theorem refuses_lengthBetween (lower upper : Int64) : RefusesArguments (lengthBetween lower upper) := by
  unfold lengthBetween
  refine (refuses_requireLength lower _).bind fun _ => ?_
  split
  · exact error _
  · exact ok _

end Restriction

namespace Filter

open RefusesArguments

variable (f : Filter)

theorem refuses_text : RefusesArguments f.text := by
  rw [text]
  split
  · exact ok _
  · exact error _

theorem refuses_list : RefusesArguments f.list := by
  rw [list]
  split
  · exact ok _
  · exact error _

theorem refuses_pair : RefusesArguments f.pair := by
  rw [pair]
  split
  · exact ok _
  · exact error _

theorem refuses_integer (j : Json) : RefusesArguments (f.integer j) := by
  rw [integer]
  split
  · exact ok _
  · exact error _

theorem refuses_positive : RefusesArguments f.positive := by
  unfold positive
  cases f.op with
  | eq | ne | isNull | isNotNull | isTrue | isFalse | empty | notEmpty => exact ok _
  | lt | lte | gt | gte => exact (Restriction.refuses_requireValue _ _).bind fun _ => ok _
  | between => exact f.refuses_pair.bind fun _ => Restriction.refuses_between _ _
  | isIn => exact f.refuses_list.bind fun _ => Restriction.refuses_isIn _
  | notIn => exact f.refuses_list.bind fun _ => (Restriction.refuses_isIn _).bind fun _ => ok _
  | like | contains | startsWith | endsWith => exact f.refuses_text.map _
  | lengthLt => exact (f.refuses_integer _).bind Restriction.refuses_lengthLess
  | lengthLte | lengthGt | lengthGte =>
    exact (f.refuses_integer _).bind fun _ => (Restriction.refuses_requireLength _ _).bind fun _ => ok _
  | lengthBetween =>
    exact f.refuses_pair.bind fun _ => (f.refuses_integer _).bind fun _ => (f.refuses_integer _).bind fun _ =>
      Restriction.refuses_lengthBetween _ _

/-- A payload is refused as an argument. -/
theorem refuses_toRestriction : RefusesArguments f.toRestriction := f.refuses_positive.map _

variable {f} {x : Restriction}

theorem constructed_of_positive (done : f.positive = .ok x) : x.Constructed := by
  unfold positive at done
  generalize f.op = op at done
  cases op with
  | eq => exact Except.ok.inj done ▸ .equals _
  | ne => exact Except.ok.inj done ▸ .notEquals _
  | lt => exact .less done
  | lte => exact .lessOrEqual done
  | gt => exact .greater done
  | gte => exact .greaterOrEqual done
  | between => obtain ⟨_, -, done⟩ := ok_of_bind done; exact .between done
  | isIn => obtain ⟨_, -, done⟩ := ok_of_bind done; exact .isIn done
  | notIn => obtain ⟨_, -, done⟩ := ok_of_bind done; exact .notIn done
  | like => obtain ⟨_, -, rfl⟩ := ok_of_map done; exact .like _
  | contains => obtain ⟨_, -, rfl⟩ := ok_of_map done; exact .contains _
  | startsWith => obtain ⟨_, -, rfl⟩ := ok_of_map done; exact .startsWith _
  | endsWith => obtain ⟨_, -, rfl⟩ := ok_of_map done; exact .endsWith _
  | isNull => exact Except.ok.inj done ▸ .isNull
  | isNotNull => exact Except.ok.inj done ▸ .isNotNull
  | isTrue => exact Except.ok.inj done ▸ .isTrue
  | isFalse => exact Except.ok.inj done ▸ .isFalse
  | empty => exact Except.ok.inj done ▸ .empty
  | notEmpty => exact Except.ok.inj done ▸ .notEmpty
  | lengthLt => obtain ⟨_, -, done⟩ := ok_of_bind done; exact .lengthLess done
  | lengthLte => obtain ⟨_, -, done⟩ := ok_of_bind done; exact .lengthLessOrEqual done
  | lengthGt => obtain ⟨_, -, done⟩ := ok_of_bind done; exact .lengthGreater done
  | lengthGte => obtain ⟨_, -, done⟩ := ok_of_bind done; exact .lengthGreaterOrEqual done
  | lengthBetween =>
    obtain ⟨_, -, done⟩ := ok_of_bind done
    obtain ⟨_, -, done⟩ := ok_of_bind done
    obtain ⟨_, -, done⟩ := ok_of_bind done
    exact .lengthBetween done

/-- A payload that fits gives a restriction of the constructors, or the opposite of one. -/
theorem constructed_of_toRestriction (done : f.toRestriction = .ok x) : x.Constructed := by
  obtain ⟨y, positive, rfl⟩ := ok_of_map done
  split
  · exact .negate (constructed_of_positive positive)
  · exact constructed_of_positive positive

end Filter
end Sift
