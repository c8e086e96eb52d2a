import Sift.Proofs.Value.Order
import Sift.Query.Range

/-!
# Queries predicted to be empty

A value that satisfies restrictions lies inside each of their bounds, so bounds that
exclude each other are satisfied by none, as long as the order of the value and the
bounds is coherent. It fails to be for a double that equals two different integers,
and every such value is one that a contradiction overlooks.
-/
namespace Sift

namespace Bound

/-- Whether a value lies inside a bound; `side` is the order of the values inside to it. -/
def Admits (side : Ordering) (v : Value) (b : Bound) : Prop :=
  ∃ o, v.compare? b.value = some o ∧ (o = side ∨ o = .eq ∧ b.inclusive = true)

/-- The tighter of two bounds admits what both admit. -/
theorem admits_tighten {side : Ordering} {v : Value} {old new t : Bound}
    (tightened : tighten? side old new = some t) (inOld : old.Admits side v)
    (inNew : new.Admits side v) (clear : ¬ v.Conflated new.value old.value) :
    t.Admits side v ∧ (t.value = old.value ∨ t.value = new.value) := by
  obtain ⟨o, known, rfl⟩ := Option.map_eq_some_iff.mp tightened
  by_cases tighter : o = side
  · rw [if_pos tighter]
    exact ⟨inNew, .inr rfl⟩
  · rw [if_neg tighter]
    by_cases equal : o = .eq
    · rw [if_pos equal]
      refine ⟨?_, .inl rfl⟩
      obtain ⟨toOld, comparedOld, sideOld⟩ := inOld
      obtain ⟨toNew, comparedNew, sideNew⟩ := inNew
      have coherent :=
        (Value.coherent_or_conflated comparedNew comparedOld known).resolve_right clear
      have same : toNew = toOld := coherent.equal equal
      refine ⟨toOld, comparedOld, ?_⟩
      rcases sideOld with inside | ⟨touching, inclusive⟩
      · exact .inl inside
      · rcases sideNew with inside | ⟨-, inclusive'⟩
        · exact .inl (same ▸ inside)
        · exact .inr ⟨touching, by simp [inclusive, inclusive']⟩
    · rw [if_neg equal]
      exact ⟨inOld, .inl rfl⟩

/-- What a satisfied restriction says of its bound: the value lies inside it, or the bound is equal
to the value without being ordered. -/
def Fits (side : Ordering) (v : Value) (b : Bound) : Prop := b.Admits side v ∨ b.value.Unordered

theorem admits_of_compared {side : Ordering} {v : Value} {b : Bound} {w : Value} {o : Ordering}
    (fits : b.Fits side v) (compared : b.value.compare? w = some o ∨ w.compare? b.value = some o) :
    b.Admits side v := by
  rcases fits with admits | unordered
  · exact admits
  · rcases compared with compared | compared
    · rw [(unordered w).1] at compared
      cases compared
    · rw [(unordered w).2] at compared
      cases compared

/-- The tightest of the bounds that a value fits is one that it fits. -/
theorem fits_foldlM {side : Ordering} {v : Value} {bs : List Bound} {b t : Bound}
    (tightest : bs.foldlM (tighten? side) b = some t) (first : b.Fits side v)
    (rest : ∀ c ∈ bs, c.Fits side v)
    (clear : ∀ c ∈ b :: bs, ∀ d ∈ b :: bs, ¬ v.Conflated c.value d.value) :
    t.Fits side v ∧ ∃ c ∈ b :: bs, t.value = c.value := by
  induction bs generalizing b with
  | nil =>
    rw [List.foldlM_nil] at tightest
    rw [← Option.some.inj tightest]
    exact ⟨first, b, List.mem_cons_self, rfl⟩
  | cons c bs ih =>
    rw [List.foldlM_cons] at tightest
    obtain ⟨m, step, tightest⟩ := Option.bind_eq_some_iff.mp tightest
    obtain ⟨o, known, -⟩ := Option.map_eq_some_iff.mp step
    have compared := Value.compare?_of_uncollated known
    have inOld := admits_of_compared first (.inr compared)
    have inNew := admits_of_compared (rest c List.mem_cons_self) (.inl compared)
    obtain ⟨inside, value⟩ := admits_tighten step inOld inNew
      (clear c (by simp) b (by simp))
    have among : ∃ d ∈ b :: c :: bs, m.value = d.value := by
      rcases value with value | value
      · exact ⟨b, by simp, value⟩
      · exact ⟨c, by simp, value⟩
    have later : ∀ d ∈ m :: bs, ∃ e ∈ b :: c :: bs, d.value = e.value := by
      intro d member
      rcases List.mem_cons.mp member with rfl | member
      · exact among
      · exact ⟨d, by simp [member], rfl⟩
    obtain ⟨fits, d, member, same⟩ := ih tightest (.inl inside)
      (fun d member => rest d (List.mem_cons_of_mem _ member)) (by
        intro d inD e inE
        obtain ⟨d', inD', sameD⟩ := later d inD
        obtain ⟨e', inE', sameE⟩ := later e inE
        rw [sameD, sameE]
        exact clear d' inD' e' inE')
    obtain ⟨e, inE, sameE⟩ := later d member
    exact ⟨fits, e, inE, same.trans sameE⟩

theorem fits_tightest {side : Ordering} {v : Value} {bs : List Bound} {t : Bound}
    (tightest : tightest? side bs = some t) (all : ∀ b ∈ bs, b.Fits side v)
    (clear : ∀ c ∈ bs, ∀ d ∈ bs, ¬ v.Conflated c.value d.value) :
    t.Fits side v ∧ ∃ c ∈ bs, t.value = c.value := by
  cases bs with
  | nil => cases tightest
  | cons b bs =>
    exact fits_foldlM tightest (all b List.mem_cons_self)
      (fun c member => all c (List.mem_cons_of_mem _ member)) clear

/-- Bounds that admit one value do not exclude each other. -/
theorem not_excludes {v : Value} {lower upper : Bound} (above : lower.Fits .gt v)
    (below : upper.Fits .lt v) (clear : ¬ v.Conflated lower.value upper.value) :
    lower.excludes upper = false := by
  rw [excludes]
  cases known : lower.value.compareUncollated? upper.value with
  | none => rfl
  | some o =>
    have compared := Value.compare?_of_uncollated known
    obtain ⟨toLower, comparedLower, above⟩ := admits_of_compared above (.inl compared)
    obtain ⟨toUpper, comparedUpper, below⟩ := admits_of_compared below (.inr compared)
    have coherent :=
      (Value.coherent_or_conflated comparedLower comparedUpper known).resolve_right clear
    cases o with
    | lt => rfl
    | eq =>
      have same := coherent.equal rfl
      rcases above with rfl | ⟨rfl, lowerInclusive⟩
      · rw [← same] at below
        simp at below
      · rw [← same] at below
        have upperInclusive : upper.inclusive = true := by simpa using below
        simp [lowerInclusive, upperInclusive]
    | gt =>
      have first : toLower.isGE := by
        rcases above with rfl | ⟨rfl, -⟩ <;> rfl
      rw [coherent.above rfl first] at below
      simp at below

end Bound

/-! ## Restrictions -/

namespace Predicate

theorem eval_of_present {v : Value} (present : v.isNull = false) (p : Predicate) :
    p.eval v = p.evalPresent v := by
  unfold eval
  simp [present]

/-- A predicate that bounds a value is not true of null. -/
theorem present_of_bounded {p : Predicate} {v : Value} {b : Bound} (holds : p.eval v = some true)
    (bound : p.lowerBound? = some b ∨ p.upperBound? = some b) : v.isNull = false := by
  by_contra missing
  have missing : v.isNull = true := by simpa using missing
  cases p with
  | isNull | isTrue | isFalse | empty => rcases bound with bound | bound <;> cases bound
  | _ => simp [eval, missing] at holds

theorem fits_of_inside {side o : Ordering} {v x : Value} (compared : v.compare? x = some o)
    (inside : o = side) (inclusive : Bool) : Bound.Fits side v ⟨x, inclusive⟩ :=
  .inl ⟨o, compared, .inl inside⟩

theorem fits_of_touching {side o : Ordering} {v x : Value} (compared : v.compare? x = some o)
    (inside : o = side ∨ o = .eq) : Bound.Fits side v ⟨x, true⟩ :=
  .inl ⟨o, compared, inside.imp_right fun touching => ⟨touching, rfl⟩⟩

/-- A value fits the bound that equality with another value is, on either side. -/
theorem fits_of_equals {v x : Value} (side : Ordering) (present : v.isNull = false)
    (equal : v.equals x = true) : Bound.Fits side v ⟨x, true⟩ := by
  cases compared : v.compare? x with
  | none => exact .inr (Value.unordered_of_equals present equal compared)
  | some o =>
    rw [Value.equals, compared] at equal
    exact fits_of_touching compared (.inr (Ordering.isEq_iff_eq_eq.mp equal))

/-- A value between two others lies to both. -/
theorem compared_of_between {v lower upper : Value}
    (holds : (between lower upper).evalPresent v = some true) :
    (∃ o, v.compare? lower = some o ∧ (o = .gt ∨ o = .eq)) ∧
      ∃ o, v.compare? upper = some o ∧ (o = .lt ∨ o = .eq) := by
  obtain ⟨above, compared, rest⟩ := Option.bind_eq_some_iff.mp holds
  obtain ⟨below, compared', inside⟩ := Option.bind_eq_some_iff.mp rest
  obtain ⟨notBelow, notAbove⟩ := Bool.and_eq_true_iff.mp (Option.some.inj inside)
  exact ⟨⟨above, compared, Ordering.isGE_iff_eq_gt_or_eq_eq.mp notBelow⟩,
    ⟨below, compared', Ordering.isLE_iff_eq_lt_or_eq_eq.mp notAbove⟩⟩

/-- A value of which a predicate is true fits its lower bound. -/
theorem fits_lowerBound {p : Predicate} {v : Value} {b : Bound} (holds : p.eval v = some true)
    (bound : p.lowerBound? = some b) : b.Fits .gt v := by
  have present := present_of_bounded holds (.inl bound)
  rw [eval_of_present present] at holds
  cases p with
  | equals x =>
    cases bound
    exact fits_of_equals .gt present (Option.some.inj holds)
  | greater x =>
    cases bound
    obtain ⟨o, compared, above⟩ := Option.map_eq_some_iff.mp holds
    exact fits_of_inside compared (Ordering.isGT_iff_eq_gt.mp above) false
  | greaterOrEqual x =>
    cases bound
    obtain ⟨o, compared, above⟩ := Option.map_eq_some_iff.mp holds
    exact fits_of_touching compared (Ordering.isGE_iff_eq_gt_or_eq_eq.mp above)
  | between lower upper =>
    cases bound
    obtain ⟨⟨o, compared, above⟩, -⟩ := compared_of_between holds
    exact fits_of_touching compared above
  | _ => cases bound

/-- A value of which a predicate is true fits its upper bound. -/
theorem fits_upperBound {p : Predicate} {v : Value} {b : Bound} (holds : p.eval v = some true)
    (bound : p.upperBound? = some b) : b.Fits .lt v := by
  have present := present_of_bounded holds (.inr bound)
  rw [eval_of_present present] at holds
  cases p with
  | equals x =>
    cases bound
    exact fits_of_equals .lt present (Option.some.inj holds)
  | less x =>
    cases bound
    obtain ⟨o, compared, below⟩ := Option.map_eq_some_iff.mp holds
    exact fits_of_inside compared (Ordering.isLT_iff_eq_lt.mp below) false
  | lessOrEqual x =>
    cases bound
    obtain ⟨o, compared, below⟩ := Option.map_eq_some_iff.mp holds
    exact fits_of_touching compared (Ordering.isLE_iff_eq_lt_or_eq_eq.mp below)
  | between lower upper =>
    cases bound
    obtain ⟨-, ⟨o, compared, below⟩⟩ := compared_of_between holds
    exact fits_of_touching compared below
  | _ => cases bound

end Predicate

namespace Restriction

/-- The values that restrictions which are not negated bound a column by. -/
def boundValues (xs : List Restriction) : List Value :=
  ((positives xs).filterMap (·.lowerBound?) ++ (positives xs).filterMap (·.upperBound?)).map (·.value)

/-- Whether a value of a column is conflated with two of its bounds. -/
def Misread (xs : List Restriction) (v : Value) : Prop :=
  ∃ a ∈ boundValues xs, ∃ b ∈ boundValues xs, v.Conflated a b

theorem holds_of_predictsEmpty {x : Restriction} (predicted : x.predictsEmpty = true) (v : Value) :
    x.holds v = false := by
  obtain ⟨p, negated⟩ := x
  cases p with
  | isIn vs =>
    cases vs with
    | nil =>
      have positive : negated = false := by simpa [predictsEmpty] using predicted
      cases missing : v.isNull <;> simp [holds, Predicate.eval, Predicate.evalPresent, missing, positive]
    | cons w ws => cases predicted
  | _ => cases predicted

theorem eval_of_positive {xs : List Restriction} {v : Value} (all : ∀ x ∈ xs, x.holds v = true)
    {p : Predicate} (member : p ∈ positives xs) : p.eval v = some true := by
  obtain ⟨x, inFilter, rfl⟩ := List.mem_map.mp member
  obtain ⟨inXs, positive⟩ := List.mem_filter.mp inFilter
  have holds := all x inXs
  have positive : x.negated = false := by simpa using positive
  rw [Restriction.holds, positive] at holds
  cases truth : x.predicate.eval v with
  | none => rw [truth] at holds; cases holds
  | some b => rw [truth] at holds; simpa using holds

/-- A contradiction between restrictions that a value satisfies misreads the value. -/
theorem misread_of_contradict {xs : List Restriction} {v : Value} (contradicted : contradict xs = true)
    (all : ∀ x ∈ xs, x.holds v = true) : Misread xs v := by
  by_contra clear
  have lowers : ∀ b ∈ (positives xs).filterMap (·.lowerBound?), b.Fits .gt v := by
    intro b member
    obtain ⟨p, inPositives, bound⟩ := List.mem_filterMap.mp member
    exact Predicate.fits_lowerBound (eval_of_positive all inPositives) bound
  have uppers : ∀ b ∈ (positives xs).filterMap (·.upperBound?), b.Fits .lt v := by
    intro b member
    obtain ⟨p, inPositives, bound⟩ := List.mem_filterMap.mp member
    exact Predicate.fits_upperBound (eval_of_positive all inPositives) bound
  have apart : ∀ c ∈ (positives xs).filterMap (·.lowerBound?) ++ (positives xs).filterMap (·.upperBound?),
      ∀ d ∈ (positives xs).filterMap (·.lowerBound?) ++ (positives xs).filterMap (·.upperBound?),
        ¬ v.Conflated c.value d.value := by
    intro c inC d inD conflated
    exact clear ⟨c.value, List.mem_map_of_mem inC, d.value, List.mem_map_of_mem inD, conflated⟩
  rw [contradict] at contradicted
  split at contradicted
  next lower upper tightLower tightUpper =>
    obtain ⟨above, c, inC, sameC⟩ := Bound.fits_tightest tightLower lowers
      fun c inC d inD => apart c (List.mem_append_left _ inC) d (List.mem_append_left _ inD)
    obtain ⟨below, d, inD, sameD⟩ := Bound.fits_tightest tightUpper uppers
      fun c inC d inD => apart c (List.mem_append_right _ inC) d (List.mem_append_right _ inD)
    rw [Bound.not_excludes above below] at contradicted
    · cases contradicted
    · rw [sameC, sameD]
      exact apart c (List.mem_append_left _ inC) d (List.mem_append_right _ inD)
  next => cases contradicted

theorem holds_of_eval {p : Predicate} {v : Value} (true_ : p.eval v = some true) : (of p).holds v = true := by
  rw [holds, show (of p).predicate = p from rfl, true_]
  rfl

/-- Two predicates are true of a value although their bounds, one for each, exclude every value. -/
structure Misreading (v : Value) (p q : Predicate) : Prop where
  contradicted : contradict [of p, of q] = true
  first : p.eval v = some true
  second : q.eval v = some true
  firstSide : p.lowerBound?.isSome ≠ p.upperBound?.isSome
  secondSide : q.lowerBound?.isSome ≠ q.upperBound?.isSome

/-- A predicate that bounds from below and one that bounds from above, both true of a value that
their bounds exclude. -/
theorem misreading_of_pair {v : Value} (p q : Predicate) (lower upper : Bound)
    (below : p.lowerBound? = some lower ∧ p.upperBound? = none)
    (above : q.lowerBound? = none ∧ q.upperBound? = some upper)
    (excluded : lower.excludes upper = true) (first : p.eval v = some true)
    (second : q.eval v = some true) :
    boundValues [of p, of q] = [lower.value, upper.value] ∧ Misreading v p q := by
  have lowers : (positives [of p, of q]).filterMap (·.lowerBound?) = [lower] := by
    simp [positives, of, below.1, above.1]
  have uppers : (positives [of p, of q]).filterMap (·.upperBound?) = [upper] := by
    simp [positives, of, below.2, above.2]
  refine ⟨?_, ?_, first, second, ?_, ?_⟩
  · rw [boundValues, lowers, uppers]
    rfl
  · rw [contradict, lowers, uppers]
    exact excluded
  · simp [below.1, below.2]
  · simp [above.1, above.2]

/-- A double between two integers that it equals. -/
theorem exists_misreading_double {z : Double} {i j : Int64} (greater : j.toInt < i.toInt)
    (left : (Double.ofInt i.toInt).compare? z = some .eq)
    (right : (Double.ofInt j.toInt).compare? z = some .eq) :
    ∃ p q : Predicate, boundValues [of p, of q] = [.int i, .int j] ∧ Misreading (.float z) p q := by
  refine ⟨_, _, misreading_of_pair (.greaterOrEqual (.int i)) (.lessOrEqual (.int j))
    ⟨.int i, true⟩ ⟨.int j, true⟩ ⟨rfl, rfl⟩ ⟨rfl, rfl⟩ ?_ ?_ ?_⟩
  · simp [Bound.excludes, Value.compareUncollated?, Value.compare?, compare_gt_iff_gt.mpr greater]
  · simp [Predicate.eval, Predicate.evalPresent, Value.isNull, Value.compare?, Double.compare?_comm left]
  · simp [Predicate.eval, Predicate.evalPresent, Value.isNull, Value.compare?, Double.compare?_comm right]

/-- An integer, another one and a double that equals both. -/
theorem exists_misreading_int {z : Double} {k i : Int64} (conflates : z.Conflates k i) :
    ∃ p q : Predicate,
      (boundValues [of p, of q] = [.int i, .float z] ∨ boundValues [of p, of q] = [.float z, .int i]) ∧
      Misreading (.int k) p q := by
  obtain ⟨different, left, right⟩ := conflates
  have apart : k.toInt ≠ i.toInt := fun same => different (Int64.toInt_inj.mp same)
  rcases lt_or_gt_of_ne apart with less | greater
  · obtain ⟨values, misreading⟩ := misreading_of_pair (v := .int k)
      (.greaterOrEqual (.float z)) (.less (.int i)) ⟨.float z, true⟩ ⟨.int i, false⟩
      ⟨rfl, rfl⟩ ⟨rfl, rfl⟩
      (by simp [Bound.excludes, Value.compareUncollated?, Value.compare?, Double.compare?_comm right])
      (by simp [Predicate.eval, Predicate.evalPresent, Value.isNull, Value.compare?, left])
      (by simp [Predicate.eval, Predicate.evalPresent, Value.isNull, Value.compare?,
        compare_lt_iff_lt.mpr less])
    exact ⟨_, _, .inr values, misreading⟩
  · obtain ⟨values, misreading⟩ := misreading_of_pair (v := .int k)
      (.greater (.int i)) (.lessOrEqual (.float z)) ⟨.int i, false⟩ ⟨.float z, true⟩
      ⟨rfl, rfl⟩ ⟨rfl, rfl⟩
      (by simp [Bound.excludes, Value.compareUncollated?, Value.compare?, right])
      (by simp [Predicate.eval, Predicate.evalPresent, Value.isNull, Value.compare?,
        compare_gt_iff_gt.mpr greater])
      (by simp [Predicate.eval, Predicate.evalPresent, Value.isNull, Value.compare?, left])
    exact ⟨_, _, .inl values, misreading⟩

/-- Every conflation is misread by some restrictions with its two bounds. -/
theorem exists_misreading {v a b : Value} (conflated : v.Conflated a b) :
    ∃ p q : Predicate, (boundValues [of p, of q] = [a, b] ∨ boundValues [of p, of q] = [b, a]) ∧
      Misreading v p q := by
  unfold Value.Conflated at conflated
  split at conflated
  next z i j =>
    obtain ⟨different, left, right⟩ := conflated
    have apart : i.toInt ≠ j.toInt := fun same => different (Int64.toInt_inj.mp same)
    rcases lt_or_gt_of_ne apart with less | greater
    · obtain ⟨p, q, values, misreading⟩ := exists_misreading_double less right left
      exact ⟨p, q, .inr values, misreading⟩
    · obtain ⟨p, q, values, misreading⟩ := exists_misreading_double greater left right
      exact ⟨p, q, .inl values, misreading⟩
  next k z i =>
    obtain ⟨p, q, values, misreading⟩ := exists_misreading_int conflated
    exact ⟨p, q, values.symm, misreading⟩
  next k i z => exact exists_misreading_int conflated
  next => exact conflated.elim

end Restriction

/-- Whether the value that a row has in a restricted column is conflated with its bounds. -/
def Conditions.Misreads (c : Conditions) (row : Record) : Prop :=
  ∃ column xs, (column, xs) ∈ c.fields ∧ Restriction.Misread xs (row.valueOf column)

/-- Conditions predicted to be empty only hold for a row that they misread. -/
theorem Conditions.misreads_of_predictsEmpty {c : Conditions} {row : Record}
    (predicted : c.predictsEmpty = true) (holds : c.holds row = true) : c.Misreads row := by
  obtain ⟨⟨column, xs⟩, member, empty⟩ := List.any_eq_true.mp predicted
  have all : ∀ x ∈ xs, x.holds (row.valueOf column) = true :=
    List.all_eq_true.mp (List.all_eq_true.mp holds _ member)
  rcases Bool.or_eq_true_iff.mp empty with single | contradicted
  · obtain ⟨x, inXs, predicted⟩ := List.any_eq_true.mp single
    have := all x inXs
    rw [Restriction.holds_of_predictsEmpty predicted] at this
    cases this
  · exact ⟨column, xs, member, Restriction.misread_of_contradict contradicted all⟩

end Sift
