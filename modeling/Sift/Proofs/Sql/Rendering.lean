import Sift.Proofs.Sql.Slots

/-!
# Positional placeholders

A text whose slots have different names, each with a value, renders in both
styles: the placeholders count the slots, and the values are those of the slots in
their order.
-/
namespace Sift

/-- The placeholder of the slot with a given number of slots before it. -/
def PlaceholderStyle.placeholder : PlaceholderStyle → Nat → String
  | .dollar, index => "$" ++ toString (index + 1)
  | .question, _ => "?"

namespace SqlText

/-- Slots as placeholders that count on from an index, each with the characters after it. -/
def positional (style : PlaceholderStyle) : Nat → List (String × String) → String
  | _, [] => ""
  | index, (_, after) :: rest =>
    style.placeholder index ++ after ++ positional style (index + 1) rest

/-- Without numbers it does not matter which names were numbered before. -/
theorem renderSlots_question (params : Params) (numbered numbered' : List String)
    (slots : List (String × String)) :
    renderSlots .question params numbered slots = renderSlots .question params numbered' slots := by
  induction slots with
  | nil => rfl
  | cons s rest ih => simp only [renderSlots, ih]

theorem renderSlots_eq (style : PlaceholderStyle) (params : Params) (numbered : List String)
    {slots : List (String × String)} {vs : List Value} (distinct : (slots.map (·.1)).Nodup)
    (new : ∀ name ∈ numbered, name ∉ slots.map (·.1))
    (resolved : params.Resolve (slots.map (·.1)) vs) :
    renderSlots style params numbered slots = .ok ⟨positional style numbered.length slots, vs⟩ := by
  induction slots generalizing numbered vs with
  | nil =>
    cases resolved
    rfl
  | cons s rest ih =>
    obtain ⟨name, after⟩ := s
    obtain ⟨absent, distinct⟩ := List.nodup_cons.mp distinct
    cases resolved with
    | @cons _ v _ vs value resolved =>
    have unnumbered : numbered.idxOf? name = none := by
      rw [List.idxOf?_eq_none_iff]
      intro member
      exact new name member (by simp)
    have newRest : ∀ n ∈ numbered ++ [name], n ∉ rest.map (·.1) := by
      intro n member again
      rcases List.mem_append.mp member with old | last
      · exact new n old (List.mem_cons_of_mem _ again)
      · rw [List.mem_singleton.mp last] at again
        exact absent again
    have tail := ih (numbered ++ [name]) distinct newRest resolved
    rw [List.length_append, List.length_singleton] at tail
    cases style with
    | question =>
      rw [renderSlots_question params _ numbered] at tail
      simp only [renderSlots, value, tail]
      rfl
    | dollar =>
      simp only [renderSlots, value, unnumbered, tail]
      rfl

/-- A text with different slots renders in both styles, to one value for each slot. -/
theorem render_eq (t : SqlText) (style : PlaceholderStyle) {params : Params} {vs : List Value}
    (distinct : t.slotNames.Nodup) (resolved : params.Resolve t.slotNames vs) :
    t.render style params = .ok ⟨t.head ++ positional style 0 t.slots, vs⟩ := by
  have slots := renderSlots_eq style params [] distinct (by simp) resolved
  rw [List.length_nil] at slots
  rw [render, slots]
  rfl

end SqlText
end Sift
