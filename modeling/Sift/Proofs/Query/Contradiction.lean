import Sift.Proofs.Query.Prediction
import Sift.Proofs.Value.Consistency

/-!
# Ranges that contradict each other

The bounds of a column are folded into one tightest bound for each side. For bounds of
one kind that is ordered by itself, the fold finds a contradiction exactly if two bounds
contradict each other, in whatever order and however often they are given. Bounds that
are not all comparable are never found to contradict each other.
-/
namespace Sift

/-- Whether the values of a kind are ordered among themselves alone, and equal only if they are identical. Integers
are, as long as no float is among them; both zeros of floats are equal, and texts are ordered by a collation. -/
def Kind.isExact : Kind → Bool
  | .bool | .int | .uuid | .timestamp | .date => true
  | .null | .float | .text | .json => false

namespace Value

/-- Where a value of an exact kind stands among those of its kind. -/
def place : Value → ℤ ×ₗ ℕ
  | .bool b => toLex (0, b.toNat)
  | .int i => toLex (i.toInt, 0)
  | .uuid u => toLex (0, u.bits.toNat)
  | .timestamp t => toLex (t.second, t.nano)
  | .date d => toLex (d.day, 0)
  | .null | .float _ | .text _ | .json _ => toLex (0, 0)

section

variable {a b : Value} (exactly : a.kind.isExact = true) (same : b.kind = a.kind)
include exactly same

/-- Values of an exact kind are compared by their places. -/
theorem compareUncollated?_of_kind : a.compareUncollated? b = some (compare a.place b.place) := by
  have whole (i j : ℤ) : compare (toLex (i, 0) : ℤ ×ₗ ℕ) (toLex (j, 0)) = compare i j := Ordering.then_eq
  cases a with
  | bool p =>
    cases b with
    | bool q => cases p <;> cases q <;> rfl
    | _ => cases same
  | int i =>
    cases b with
    | int j => exact congrArg some (whole i.toInt j.toInt).symm
    | _ => cases same
  | uuid u =>
    cases b with
    | uuid w => rfl
    | _ => cases same
  | timestamp s =>
    cases b with
    | timestamp t => rfl
    | _ => cases same
  | date d =>
    cases b with
    | date e => exact congrArg some (whole d.day e.day).symm
    | _ => cases same
  | _ => cases exactly

theorem eq_of_place (places : a.place = b.place) : a = b := by
  cases a with
  | bool p =>
    cases b with
    | bool q => cases p <;> cases q <;> first | rfl | cases places
    | _ => cases same
  | int i =>
    cases b with
    | int j =>
      obtain ⟨numbers, -⟩ := Prod.mk.inj (toLex.injective places)
      rw [Int64.toInt_inj.mp numbers]
    | _ => cases same
  | uuid u =>
    cases b with
    | uuid w =>
      obtain ⟨-, numbers⟩ := Prod.mk.inj (toLex.injective places)
      obtain ⟨bits⟩ := u
      obtain ⟨bits'⟩ := w
      obtain rfl : bits = bits' := BitVec.eq_of_toNat_eq numbers
      rfl
    | _ => cases same
  | timestamp s =>
    cases b with
    | timestamp t =>
      obtain ⟨seconds, nanos⟩ := Prod.mk.inj (toLex.injective places)
      obtain ⟨second, nano, _, _⟩ := s
      obtain ⟨second', nano', _, _⟩ := t
      cases seconds
      cases nanos
      rfl
    | _ => cases same
  | date d =>
    cases b with
    | date e =>
      obtain ⟨days, -⟩ := Prod.mk.inj (toLex.injective places)
      obtain ⟨day, _⟩ := d
      obtain ⟨day', _⟩ := e
      cases days
      rfl
    | _ => cases same
  | _ => cases exactly

end

/-- Two values have an order under every collation exactly if they lie on one scale that is not that of texts. -/
theorem isSome_compareUncollated?_iff {a b : Value} :
    (a.compareUncollated? b).isSome = true ↔ ∃ k, k ≠ .text ∧ a.scale? = some k ∧ b.scale? = some k := by
  cases a <;> cases b <;>
    simp [compareUncollated?, compare?, scale?, kind, Double.isSome_compare?, Double.isNaN_ofInt]

end Value

namespace Bound

/-- A lower and an upper bound of an exact kind that no value meets: the upper one stands before the lower one, or
both at one place that one of them excludes. -/
def Opposes (lower upper : Bound) : Prop :=
  upper.value.place < lower.value.place ∨
    lower.value = upper.value ∧ (lower.inclusive = false ∨ upper.inclusive = false)

/-- A bound leaves out what another one of the same side does; `side` is the order of a tighter bound to another one. -/
def Covers (side : Ordering) (t b : Bound) : Prop :=
  compare t.value.place b.value.place = side ∨ t.value = b.value ∧ (t.inclusive = true → b.inclusive = true)

theorem Covers.refl (side : Ordering) (b : Bound) : b.Covers side b := .inr ⟨rfl, id⟩

theorem Covers.trans {side : Ordering} {a b c : Bound} (first : a.Covers side b) (last : b.Covers side c) :
    a.Covers side c := by
  rcases first with beyond | ⟨same, stricter⟩
  · rcases last with beyond' | ⟨same', -⟩
    · exact .inl (compare_trans beyond beyond')
    · exact .inl (same' ▸ beyond)
  · rcases last with beyond' | ⟨same', stricter'⟩
    · exact .inl (same ▸ beyond')
    · exact .inr ⟨same.trans same', fun inclusive => stricter' (stricter inclusive)⟩

/-! ## One tightest bound -/

/-- There are two orders of different elements. -/
theorem swap_eq_of_ne {o side : Ordering} (strict : o ≠ .eq) (directed : side ≠ .eq) (other : o ≠ side) :
    o.swap = side := by
  cases o <;> cases side <;> first | rfl | contradiction

section

variable {side : Ordering} (directed : side ≠ .eq)
include directed

/-- Of two bounds of an exact kind the tighter one is one of them, and leaves out what both do. -/
theorem tighten?_of_kind {old new : Bound} (exactly : new.value.kind.isExact = true)
    (same : old.value.kind = new.value.kind) :
    ∃ t, tighten? side old new = some t ∧ (t = old ∨ t = new) ∧ t.Covers side old ∧ t.Covers side new := by
  rw [tighten?, Value.compareUncollated?_of_kind exactly same, Option.map_some]
  by_cases tighter : compare new.value.place old.value.place = side
  · rw [if_pos tighter]
    exact ⟨new, rfl, .inr rfl, .inl tighter, .refl side new⟩
  · rw [if_neg tighter]
    by_cases equal : compare new.value.place old.value.place = .eq
    · rw [if_pos equal]
      have tied : new.value = old.value := Value.eq_of_place exactly same (compare_eq_iff_eq.mp equal)
      obtain ⟨value, inclusive⟩ := old
      obtain ⟨value', inclusive'⟩ := new
      cases tied
      refine ⟨_, rfl, ?_, .inr ⟨rfl, fun both => (Bool.and_eq_true_iff.mp both).1⟩,
        .inr ⟨rfl, fun both => (Bool.and_eq_true_iff.mp both).2⟩⟩
      cases inclusive
      · exact .inl rfl
      · exact .inr rfl
    · rw [if_neg equal]
      refine ⟨old, rfl, .inl rfl, .refl side old, .inl ?_⟩
      have swapped : compare old.value.place new.value.place = (compare new.value.place old.value.place).swap :=
        Std.OrientedCmp.eq_swap
      rw [swapped]
      exact swap_eq_of_ne equal directed tighter

/-- Bounds of one exact kind have a tightest one among them that leaves out what each of them does. -/
theorem tightest?_of_kind {k : Kind} (exactly : k.isExact = true) {bs : List Bound} (nonempty : bs ≠ [])
    (kinds : ∀ b ∈ bs, b.value.kind = k) :
    ∃ t ∈ bs, tightest? side bs = some t ∧ ∀ b ∈ bs, t.Covers side b := by
  obtain ⟨b, bs, rfl⟩ := List.exists_cons_of_ne_nil nonempty
  rw [tightest?]
  clear nonempty
  -- the fold goes on with the tighter of the first two bounds in place of both
  induction bs generalizing b with
  | nil => exact ⟨b, List.mem_cons_self, rfl, fun c only => List.mem_singleton.mp only ▸ .refl side c⟩
  | cons c bs ih =>
    have ofFirst : b.value.kind = k := kinds b (by simp)
    have ofNext : c.value.kind = k := kinds c (by simp)
    have exactNext : c.value.kind.isExact = true := ofNext ▸ exactly
    obtain ⟨m, step, which, overFirst, overNext⟩ := tighten?_of_kind directed exactNext (ofFirst.trans ofNext.symm)
    have among : m ∈ b :: c :: bs := by rcases which with rfl | rfl <;> simp
    obtain ⟨t, member, run, covers⟩ := ih m fun d inRest => by
      rcases List.mem_cons.mp inRest with rfl | inRest
      · exact kinds d among
      · exact kinds d (by simp [inRest])
    rw [List.foldlM_cons, step]
    refine ⟨t, ?_, run, ?_⟩
    · rcases List.mem_cons.mp member with rfl | member
      · exact among
      · simp [member]
    · have overStep : t.Covers side m := covers m List.mem_cons_self
      intro d inAll
      rcases List.mem_cons.mp inAll with rfl | inAll
      · exact overStep.trans overFirst
      rcases List.mem_cons.mp inAll with rfl | inAll
      · exact overStep.trans overNext
      · exact covers d (List.mem_cons_of_mem _ inAll)

end

theorem excludes_iff {lower upper : Bound} (exactly : lower.value.kind.isExact = true)
    (same : upper.value.kind = lower.value.kind) : lower.excludes upper = true ↔ lower.Opposes upper := by
  rw [excludes, Value.compareUncollated?_of_kind exactly same, Opposes]
  cases ordered : compare lower.value.place upper.value.place with
  | lt =>
    have less : lower.value.place < upper.value.place := compare_lt_iff_lt.mp ordered
    have different : lower.value ≠ upper.value := fun equal => absurd less (equal ▸ lt_irrefl _)
    simp [less.le, different]
  | eq =>
    have equal : lower.value = upper.value := Value.eq_of_place exactly same (compare_eq_iff_eq.mp ordered)
    simp [equal]
  | gt => simp [compare_gt_iff_gt.mp ordered]

theorem Covers.above {t b : Bound} (covers : t.Covers .gt b) :
    b.value.place < t.value.place ∨ t.value = b.value ∧ (b.inclusive = false → t.inclusive = false) :=
  covers.imp compare_gt_iff_gt.mp (And.imp_right fun stricter strict =>
    Bool.eq_false_iff.mpr fun inclusive => Bool.eq_false_iff.mp strict (stricter inclusive))

theorem Covers.below {t b : Bound} (covers : t.Covers .lt b) :
    t.value.place < b.value.place ∨ t.value = b.value ∧ (b.inclusive = false → t.inclusive = false) :=
  covers.imp compare_lt_iff_lt.mp (And.imp_right fun stricter strict =>
    Bool.eq_false_iff.mpr fun inclusive => Bool.eq_false_iff.mp strict (stricter inclusive))

/-- Tighter bounds contradict each other if the bounds do. -/
theorem Opposes.tighter {lower upper t u : Bound} (opposes : lower.Opposes upper) (above : t.Covers .gt lower)
    (below : u.Covers .lt upper) : t.Opposes u := by
  have atUpper : u.value.place ≤ upper.value.place :=
    below.below.elim le_of_lt fun ⟨same, _⟩ => (congrArg _ same).le
  rcases opposes with apart | ⟨equal, strict⟩
  · have atLower : lower.value.place ≤ t.value.place :=
      above.above.elim le_of_lt fun ⟨same, _⟩ => (congrArg _ same).ge
    exact .inl ((atUpper.trans_lt apart).trans_le atLower)
  · rcases above.above with beyond | ⟨same, stricter⟩
    · exact .inl (atUpper.trans_lt (equal ▸ beyond))
    · rcases below.below with beyond | ⟨same', stricter'⟩
      · left
        rw [same, equal]
        exact beyond
      · exact .inr ⟨same.trans (equal.trans same'.symm), strict.imp stricter stricter'⟩

/-! ## Bounds that are not comparable -/

/-- The bounds of a side that has a tightest one lie on its scale. -/
theorem scale?_eq_of_tightest? {side : Ordering} {bs : List Bound} {t : Bound} (tightest : tightest? side bs = some t) :
    ∀ b ∈ bs, b.value.scale? = t.value.scale? := by
  cases bs with
  | nil => cases tightest
  | cons b bs =>
    rw [tightest?] at tightest
    induction bs generalizing b with
    | nil =>
      obtain rfl : b = t := Option.some.inj tightest
      exact fun c only => List.mem_singleton.mp only ▸ rfl
    | cons c bs ih =>
      rw [List.foldlM_cons] at tightest
      obtain ⟨m, step, run⟩ := Option.bind_eq_some_iff.mp tightest
      obtain ⟨o, known, rfl⟩ := Option.map_eq_some_iff.mp step
      obtain ⟨k, -, ofNext, ofFirst⟩ := Value.isSome_compareUncollated?_iff.mp (Option.isSome_of_eq_some known)
      have rest := ih _ run
      have atStep := rest _ List.mem_cons_self
      have common : some k = t.value.scale? := by
        rw [← atStep]
        split
        · exact ofNext.symm
        · split <;> exact ofFirst.symm
      intro d member
      rcases List.mem_cons.mp member with rfl | member
      · exact ofFirst.trans common
      rcases List.mem_cons.mp member with rfl | member
      · exact ofNext.trans common
      · exact rest d (List.mem_cons_of_mem _ member)

end Bound

namespace Restriction

variable {xs : List Restriction}

/-- The lower bounds of the restrictions that are not negated. -/
def lowerBounds (xs : List Restriction) : List Bound := (positives xs).filterMap (·.lowerBound?)

/-- The upper bounds of the restrictions that are not negated. -/
def upperBounds (xs : List Restriction) : List Bound := (positives xs).filterMap (·.upperBound?)

theorem mem_positives_iff {p : Predicate} :
    p ∈ positives xs ↔ ∃ x ∈ xs, x.negated = false ∧ x.predicate = p := by
  simp [positives, and_assoc]

theorem mem_lowerBounds_iff {b : Bound} :
    b ∈ lowerBounds xs ↔ ∃ x ∈ xs, x.negated = false ∧ x.predicate.lowerBound? = some b := by
  simp [lowerBounds, mem_positives_iff]
  grind

theorem mem_upperBounds_iff {b : Bound} :
    b ∈ upperBounds xs ↔ ∃ x ∈ xs, x.negated = false ∧ x.predicate.upperBound? = some b := by
  simp [upperBounds, mem_positives_iff]
  grind

theorem contradict_eq_true_iff : contradict xs = true ↔
    ∃ t u, Bound.tightest? .gt (lowerBounds xs) = some t ∧ Bound.tightest? .lt (upperBounds xs) = some u ∧
      t.excludes u = true := by
  rw [contradict, lowerBounds, upperBounds]
  split
  next t u above below => simp [above, below]
  next missing =>
    constructor
    · intro impossible
      cases impossible
    · rintro ⟨t, u, above, below, -⟩
      exact absurd below (missing t u above)

/-- Bounds that contradict each other lie on one scale that is not that of texts. -/
theorem scale_of_contradict (contradiction : contradict xs = true) :
    ∃ k, k ≠ .text ∧ ∀ v ∈ boundValues xs, v.scale? = some k := by
  obtain ⟨t, u, above, below, excluded⟩ := contradict_eq_true_iff.mp contradiction
  have comparable : (t.value.compareUncollated? u.value).isSome = true := by
    rw [Bound.excludes] at excluded
    cases known : t.value.compareUncollated? u.value with
    | none => rw [known] at excluded; cases excluded
    | some o => rfl
  obtain ⟨k, collated, atLower, atUpper⟩ := Value.isSome_compareUncollated?_iff.mp comparable
  refine ⟨k, collated, fun v member => ?_⟩
  obtain ⟨b, bound, rfl⟩ := List.mem_map.mp member
  rcases List.mem_append.mp bound with lower | upper
  · exact (Bound.scale?_eq_of_tightest? above b lower).trans atLower
  · exact (Bound.scale?_eq_of_tightest? below b upper).trans atUpper

/-- Bounds of one exact kind contradict each other exactly if two of them do. -/
theorem contradict_iff_opposes {k : Kind} (exactly : k.isExact = true) (kinds : ∀ v ∈ boundValues xs, v.kind = k) :
    contradict xs = true ↔ ∃ lower ∈ lowerBounds xs, ∃ upper ∈ upperBounds xs, lower.Opposes upper := by
  have ofLower : ∀ b ∈ lowerBounds xs, b.value.kind = k := fun b member =>
    kinds _ (List.mem_map_of_mem (List.mem_append_left _ member))
  have ofUpper : ∀ b ∈ upperBounds xs, b.value.kind = k := fun b member =>
    kinds _ (List.mem_map_of_mem (List.mem_append_right _ member))
  have excludes_iff_of_mem {t u : Bound} (lower : t ∈ lowerBounds xs) (upper : u ∈ upperBounds xs) :
      t.excludes u = true ↔ t.Opposes u :=
    Bound.excludes_iff (ofLower t lower ▸ exactly) ((ofUpper u upper).trans (ofLower t lower).symm)
  rw [contradict_eq_true_iff]
  constructor
  · rintro ⟨t, u, above, below, excluded⟩
    obtain ⟨t', lower, above', -⟩ := Bound.tightest?_of_kind (show Ordering.gt ≠ .eq by decide) exactly
      (fun missing => by rw [missing] at above; cases above) ofLower
    obtain ⟨u', upper, below', -⟩ := Bound.tightest?_of_kind (show Ordering.lt ≠ .eq by decide) exactly
      (fun missing => by rw [missing] at below; cases below) ofUpper
    obtain rfl : t = t' := Option.some.inj (above.symm.trans above')
    obtain rfl : u = u' := Option.some.inj (below.symm.trans below')
    exact ⟨t, lower, u, upper, (excludes_iff_of_mem lower upper).mp excluded⟩
  · rintro ⟨lower, inLower, upper, inUpper, opposes⟩
    obtain ⟨t, inLower', above, overLower⟩ := Bound.tightest?_of_kind (show Ordering.gt ≠ .eq by decide) exactly
      (List.ne_nil_of_mem inLower) ofLower
    obtain ⟨u, inUpper', below, underUpper⟩ := Bound.tightest?_of_kind (show Ordering.lt ≠ .eq by decide) exactly
      (List.ne_nil_of_mem inUpper) ofUpper
    have tighter : t.Opposes u := opposes.tighter (overLower lower inLower) (underUpper upper inUpper)
    exact ⟨t, u, above, below, (excludes_iff_of_mem inLower' inUpper').mpr tighter⟩

/-- Two restrictions, or one of them with itself, that bound a column so that no value of an exact kind is left. -/
def Clash (x y : Restriction) : Prop :=
  x.negated = false ∧ y.negated = false ∧ ∃ lower upper,
    x.predicate.lowerBound? = some lower ∧ y.predicate.upperBound? = some upper ∧ lower.Opposes upper

theorem contradict_iff_clash {k : Kind} (exactly : k.isExact = true) (kinds : ∀ v ∈ boundValues xs, v.kind = k) :
    contradict xs = true ↔ ∃ x ∈ xs, ∃ y ∈ xs, x.Clash y := by
  rw [contradict_iff_opposes exactly kinds]
  constructor
  · rintro ⟨lower, inLower, upper, inUpper, opposes⟩
    obtain ⟨x, member, plain, above⟩ := mem_lowerBounds_iff.mp inLower
    obtain ⟨y, member', plain', below⟩ := mem_upperBounds_iff.mp inUpper
    exact ⟨x, member, y, member', plain, plain', lower, upper, above, below, opposes⟩
  · rintro ⟨x, member, y, member', plain, plain', lower, upper, above, below, opposes⟩
    exact ⟨lower, mem_lowerBounds_iff.mpr ⟨x, member, plain, above⟩,
      upper, mem_upperBounds_iff.mpr ⟨y, member', plain', below⟩, opposes⟩

theorem boundValues_subset {ys : List Restriction} (same : ∀ x, x ∈ ys ↔ x ∈ xs) :
    boundValues ys ⊆ boundValues xs := by
  intro v member
  obtain ⟨b, bound, rfl⟩ := List.mem_map.mp member
  refine List.mem_map_of_mem (List.mem_append.mpr ((List.mem_append.mp bound).imp ?_ ?_))
  · intro lower
    obtain ⟨x, member, plain⟩ := mem_lowerBounds_iff.mp lower
    exact mem_lowerBounds_iff.mpr ⟨x, (same x).mp member, plain⟩
  · intro upper
    obtain ⟨x, member, plain⟩ := mem_upperBounds_iff.mp upper
    exact mem_upperBounds_iff.mpr ⟨x, (same x).mp member, plain⟩

/-- If the bounds of a column are all of one exact kind, its restrictions contradict each other exactly if a lower
bound and an upper bound of them do, and so do all restrictions that are the same but for order and repetition. If
two bounds of the column are not comparable, or the tightest ones of both sides are not, they never do. -/
theorem contradict_exact_on_kind (xs : List Restriction) :
    (∀ k : Kind, k.isExact = true → (∀ v ∈ boundValues xs, v.kind = k) →
      (contradict xs = true ↔ ∃ x ∈ xs, ∃ y ∈ xs, x.Clash y) ∧
      ∀ ys : List Restriction, (∀ x, x ∈ ys ↔ x ∈ xs) → contradict ys = contradict xs) ∧
    (∀ a ∈ boundValues xs, ∀ b ∈ boundValues xs, a.compareUncollated? b = none → contradict xs = false) ∧
    ∀ lower upper, Bound.tightest? .gt (lowerBounds xs) = some lower →
      Bound.tightest? .lt (upperBounds xs) = some upper → lower.value.compareUncollated? upper.value = none →
      contradict xs = false := by
  refine ⟨fun k exactly kinds => ⟨contradict_iff_clash exactly kinds, fun ys same => ?_⟩, ?_, ?_⟩
  · have kinds' : ∀ v ∈ boundValues ys, v.kind = k := fun v member => kinds v (boundValues_subset same member)
    rw [Bool.eq_iff_iff, contradict_iff_clash exactly kinds, contradict_iff_clash exactly kinds']
    simp only [same]
  · intro a inBounds b inBounds' incomparable
    refine Bool.eq_false_iff.mpr fun contradiction => ?_
    obtain ⟨k, collated, scales⟩ := scale_of_contradict contradiction
    have comparable := Value.isSome_compareUncollated?_iff.mpr ⟨k, collated, scales a inBounds, scales b inBounds'⟩
    rw [incomparable] at comparable
    cases comparable
  · intro lower upper above below incomparable
    refine Bool.eq_false_iff.mpr fun contradiction => ?_
    obtain ⟨t, u, above', below', excluded⟩ := contradict_eq_true_iff.mp contradiction
    obtain rfl : lower = t := Option.some.inj (above.symm.trans above')
    obtain rfl : upper = u := Option.some.inj (below.symm.trans below')
    rw [Bound.excludes, incomparable] at excluded
    cases excluded

/-- More than 5 and between 2 and 5 leaves no integer, next to a pattern and a negated bound and in any order; bounds
of texts leave some. -/
theorem contradict_exact_on_kind_mixed :
    contradict [of (.greater (.int 5)), of (.like "a%"), ⟨.less (.int 0), true⟩,
      of (.between (.int 2) (.int 5))] = true ∧
    contradict [of (.between (.int 2) (.int 5)), ⟨.less (.int 0), true⟩, of (.like "a%"), of (.greater (.int 5)),
      of (.between (.int 2) (.int 5))] = true ∧
    contradict [of (.greater (.text "b")), of (.greater (.text "c")), of (.less (.text "a"))] = false ∧
    contradict [of (.greater (.text "b")), of (.less (.text "a"))] = false := by
  obtain ⟨exactly, -⟩ := contradict_exact_on_kind
    [of (.greater (.int 5)), of (.like "a%"), ⟨.less (.int 0), true⟩, of (.between (.int 2) (.int 5))]
  obtain ⟨iff_clash, anyOrder⟩ := exactly .int rfl (by simp [boundValues, positives, of, Predicate.lowerBound?,
    Predicate.upperBound?, Value.kind])
  have clash : contradict _ = true := iff_clash.mpr ⟨of (.greater (.int 5)), by simp, of (.between (.int 2) (.int 5)),
    by simp, rfl, rfl, _, _, rfl, rfl, .inr ⟨rfl, .inl rfl⟩⟩
  refine ⟨clash, (anyOrder _ fun x => ?_).trans clash, ?_, ?_⟩
  · simp only [List.mem_cons, List.not_mem_nil]
    tauto
  · exact (contradict_exact_on_kind _).2.1 (.text "b") (by simp [boundValues, positives, of, Predicate.lowerBound?])
      (.text "c") (by simp [boundValues, positives, of, Predicate.lowerBound?]) rfl
  · exact (contradict_exact_on_kind _).2.2 ⟨.text "b", false⟩ ⟨.text "a", false⟩ rfl rfl rfl

end Restriction
end Sift
