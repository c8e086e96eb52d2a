import Sift.Proofs.Value.Order

/-!
# The order of values as a whole

Values lie on scales, integers and floats on one. Values on one scale have an order, and
the reverse order the other way round. Along a scale the order is transitive but for one
thing: a double can equal two different integers, and then the greater of them is equal to
what is equal to the lesser one. One of two such integers is beyond 2^53.
-/
namespace Sift

namespace Timestamp

instance : Std.TransCmp Timestamp.compare :=
  inferInstanceAs (Std.TransCmp (compareLex (compareOn Timestamp.second) (compareOn Timestamp.nano)))

end Timestamp

theorem some_compare_swap {α : Type} (cmp : α → α → Ordering) [Std.OrientedCmp cmp] (x y : α) :
    some (cmp y x) = (some (cmp x y)).map Ordering.swap := by
  have swapped : cmp y x = (cmp x y).swap := Std.OrientedCmp.eq_swap
  rw [swapped]
  rfl

/-- An order that two values have is that of the first one and a third one if the second and the third have it. -/
theorem compare_trans {α : Type} [LinearOrder α] {side : Ordering} {x y z : α} (first : compare x y = side)
    (last : compare y z = side) : compare x z = side := by
  cases side with
  | lt => exact compare_lt_iff_lt.mpr ((compare_lt_iff_lt.mp first).trans (compare_lt_iff_lt.mp last))
  | eq => exact compare_eq_iff_eq.mpr ((compare_eq_iff_eq.mp first).trans (compare_eq_iff_eq.mp last))
  | gt => exact compare_gt_iff_gt.mpr ((compare_gt_iff_gt.mp last).trans (compare_gt_iff_gt.mp first))

namespace Double

theorem compare?_swap (x y : Double) : y.compare? x = (x.compare? y).map Ordering.swap := by
  unfold compare?
  rw [Bool.or_comm]
  split
  · rfl
  · exact some_compare_swap Ord.compare x.place y.place

theorem isSome_compare? (x y : Double) : (x.compare? y).isSome = (!x.isNaN && !y.isNaN) := by
  unfold compare?
  cases x.isNaN <;> cases y.isNaN <;> rfl

/-- Of two integers that a double equals one is beyond 2^53. -/
theorem Conflates.beyond {x : Double} {i j : Int64} (conflates : x.Conflates i j) :
    2 ^ 53 < i.toInt.natAbs ∨ 2 ^ 53 < j.toInt.natAbs := by
  obtain ⟨different, left, right⟩ := conflates
  by_contra within
  obtain ⟨first, second⟩ := not_or.mp within
  obtain ⟨-, -, atFirst⟩ := compare?_eq_some.mp left
  obtain ⟨-, -, atSecond⟩ := compare?_eq_some.mp right
  have same : (ofInt i.toInt).place = (ofInt j.toInt).place :=
    (compare_eq_iff_eq.mp atFirst).trans (compare_eq_iff_eq.mp atSecond).symm
  exact different (Int64.toInt_inj.mp (place_ofInt_injective (not_lt.mp first) (not_lt.mp second) same))

end Double

namespace Value

/-! ## Scales -/

/-- The scale on which a value is ordered, known by a kind of its values. Integers lie among floats, and null,
documents and NaN on no scale. -/
def scale? : Value → Option Kind
  | .int _ => some .float
  | .float x => if x.isNaN then none else some .float
  | .null | .json _ => none
  | v => some v.kind

/-- Two values are ordered exactly if they lie on one scale. -/
theorem isSome_compare?_iff {a b : Value} :
    (a.compare? b).isSome = true ↔ ∃ k, a.scale? = some k ∧ b.scale? = some k := by
  cases a <;> cases b <;> simp [compare?, scale?, kind, Double.isSome_compare?, Double.isNaN_ofInt]

/-- The third of three values is ordered with the first one if the second one is with both. -/
theorem exists_compare? {a b c : Value} {o p : Ordering} (first : a.compare? b = some o)
    (last : b.compare? c = some p) :
    ∃ q, a.compare? c = some q := by
  obtain ⟨k, atA, atB⟩ := isSome_compare?_iff.mp (Option.isSome_of_eq_some first)
  obtain ⟨l, atB', atC⟩ := isSome_compare?_iff.mp (Option.isSome_of_eq_some last)
  obtain rfl : k = l := Option.some.inj (atB.symm.trans atB')
  exact Option.isSome_iff_exists.mp (isSome_compare?_iff.mpr ⟨k, atA, atC⟩)

/-- Two values have the reverse order the other way round. -/
theorem compare?_swap (a b : Value) : b.compare? a = (a.compare? b).map Ordering.swap := by
  cases a with
  | null => cases b <;> rfl
  | json j => cases b <;> rfl
  | bool p =>
    cases b with
    | bool q => exact some_compare_swap compare p q
    | _ => rfl
  | int i =>
    cases b with
    | int j => exact some_compare_swap compare i.toInt j.toInt
    | float y => exact Double.compare?_swap (.ofInt i.toInt) y
    | _ => rfl
  | float x =>
    cases b with
    | int j => exact Double.compare?_swap x (.ofInt j.toInt)
    | float y => exact Double.compare?_swap x y
    | _ => rfl
  | text s =>
    cases b with
    | text t => exact some_compare_swap compare s t
    | _ => rfl
  | uuid u =>
    cases b with
    | uuid w => exact some_compare_swap compare u.bits.toNat w.bits.toNat
    | _ => rfl
  | timestamp s =>
    cases b with
    | timestamp t => exact some_compare_swap Timestamp.compare s t
    | _ => rfl
  | date d =>
    cases b with
    | date e => exact some_compare_swap compare d.day e.day
    | _ => rfl

/-! ## Three values in a row -/

section

variable {a b c : Value} {o p q : Ordering}

theorem compareUncollated?_of_compare? (first : a.compare? b = some o) (plain : ∀ s, a ≠ .text s) :
    a.compareUncollated? b = some o := by
  cases a with
  | text s => exact absurd rfl (plain s)
  | _ => cases b <;> exact first

/-- Three values are in order as points of a line, unless one is a double that equals the other two. -/
theorem coherent_in_row_or_conflated (first : a.compare? b = some o) (last : b.compare? c = some p)
    (around : a.compare? c = some q) : Coherent o q p ∨ a.Conflated b c := by
  cases b with
  | text t =>
    cases a with
    | text s =>
      cases c with
      | text u =>
        cases first; cases last; cases around
        exact .inl (coherent_of_trans compare s t u)
      | _ => cases last
    | _ => cases first
  | _ => exact coherent_or_conflated first around (compareUncollated?_of_compare? last (fun s same => by cases same))

/-- The order of the first and the last of three values, as it follows from those of the first two and of the last
two where none is greater than the next one: no descent, and equal only if all are equal. -/
def Ascends (o p : Ordering) (around : Option Ordering) : Prop :=
  ∃ q, around = some q ∧ q.isLE = true ∧ (q = .eq → o = .eq ∧ p = .eq)

theorem Ascends.of_coherent (row : Coherent o q p) (first : o.isLE = true) (last : p.isLE = true) :
    Ascends o p (some q) := by
  cases p with
  | lt =>
    have less : q = .lt := row.below rfl first
    exact ⟨q, rfl, by rw [less]; rfl, fun equal => by rw [less] at equal; cases equal⟩
  | eq =>
    have same : o = q := row.equal rfl
    exact ⟨q, rfl, same ▸ first, fun equal => ⟨same.trans equal, rfl⟩⟩
  | gt => cases last

/-- A double among three values equals the other two, which are different integers in an order that this does not
fit: ascending before or after the double, or descending around it. -/
def Disordered : Value → Value → Value → Prop
  | .float x, .int i, .int j => i < j ∧ x.Conflates i j
  | .int i, .int j, .float x => i < j ∧ x.Conflates i j
  | .int i, .float x, .int j => j < i ∧ x.Conflates i j
  | _, _, _ => False

theorem compare?_int_lt {i j : Int64} : (Value.int i).compare? (.int j) = some .lt ↔ i < j := by
  rw [compare?, Option.some.injEq, compare_lt_iff_lt, Int64.lt_iff_toInt_lt]

theorem compare?_int_gt {i j : Int64} : (Value.int i).compare? (.int j) = some .gt ↔ j < i := by
  rw [compare?, Option.some.injEq, compare_gt_iff_gt, Int64.lt_iff_toInt_lt]

/-- Two different integers of which the first one is not greater. -/
theorem lt_of_isLE {i j : Int64} (different : i ≠ j) (ordered : (Value.int i).compare? (.int j) = some o)
    (ascending : o.isLE = true) : i < j := by
  cases o with
  | lt => exact compare?_int_lt.mp ordered
  | eq => exact absurd (Int64.toInt_inj.mp (compare_eq_iff_eq.mp (Option.some.inj ordered))) different
  | gt => cases ascending

theorem Disordered.not_ascends (disordered : Disordered a b c) (first : a.compare? b = some o)
    (last : b.compare? c = some p) : ¬Ascends o p (a.compare? c) := by
  rintro ⟨q, around, ascending, equal⟩
  unfold Disordered at disordered
  split at disordered
  next x i j =>
    -- the double equals the greater integer, but what it equals comes before that
    obtain ⟨less, -, -, equals⟩ := disordered
    have same : q = .eq := Option.some.inj (around.symm.trans (Double.compare?_comm equals))
    rw [compare?_int_lt.mpr less, (equal same).2] at last
    cases last
  next i j x =>
    obtain ⟨less, -, equals, -⟩ := disordered
    have same : q = .eq := Option.some.inj (around.symm.trans equals)
    rw [compare?_int_lt.mpr less, (equal same).1] at first
    cases first
  next i x j =>
    obtain ⟨greater, -, -, -⟩ := disordered
    rw [compare?_int_gt.mpr greater] at around
    cases around
    cases ascending
  next => exact disordered

theorem ascends_of_conflated (conflated : a.Conflated b c) (ordered : ¬Disordered a b c)
    (first : a.compare? b = some o) (last : b.compare? c = some p) (ascending : o.isLE = true)
    (ascending' : p.isLE = true) :
    Ascends o p (a.compare? c) := by
  unfold Conflated at conflated
  split at conflated
  next x i j => exact absurd ⟨lt_of_isLE conflated.1 last ascending', conflated⟩ ordered
  next i x j =>
    have notGreater : ¬j < i := fun greater => ordered ⟨greater, conflated⟩
    have less : i < j := by
      have different : i.toInt ≠ j.toInt := fun same => conflated.1 (Int64.toInt_inj.mp same)
      rw [Int64.lt_iff_toInt_lt] at notGreater ⊢
      omega
    rw [compare?_int_lt.mpr less]
    exact ⟨.lt, rfl, rfl, fun equal => by cases equal⟩
  next i j x => exact absurd ⟨lt_of_isLE conflated.1 first ascending, conflated⟩ ordered
  next => exact conflated.elim

theorem Disordered.beyond (disordered : Disordered a b c) :
    ∃ i, (a = .int i ∨ b = .int i ∨ c = .int i) ∧ 2 ^ 53 < i.toInt.natAbs := by
  unfold Disordered at disordered
  split at disordered
  next x i j => rcases disordered.2.beyond with beyond | beyond <;> exact ⟨_, by simp, beyond⟩
  next i j x => rcases disordered.2.beyond with beyond | beyond <;> exact ⟨_, by simp, beyond⟩
  next i x j => rcases disordered.2.beyond with beyond | beyond <;> exact ⟨_, by simp, beyond⟩
  next => exact disordered.elim

end

/-- Values that have an order have the reverse one the other way round. Of three values, each not greater than the
next one, the first is not greater than the last, and equal to it only if all are equal, exactly if they are not
disordered. Of disordered values one is an integer beyond 2^53. -/
theorem ordered_unless_conflated (a b c : Value) :
    b.compare? a = (a.compare? b).map Ordering.swap ∧
    (∀ o p, a.compare? b = some o → b.compare? c = some p → o.isLE = true → p.isLE = true →
      (Ascends o p (a.compare? c) ↔ ¬Disordered a b c)) ∧
    (Disordered a b c → ∃ i, (a = .int i ∨ b = .int i ∨ c = .int i) ∧ 2 ^ 53 < i.toInt.natAbs) := by
  refine ⟨compare?_swap a b, ?_, Disordered.beyond⟩
  intro o p first last ascending ascending'
  constructor
  · intro ascends disordered
    exact disordered.not_ascends first last ascends
  · intro ordered
    obtain ⟨q, around⟩ := exists_compare? first last
    rcases coherent_in_row_or_conflated first last around with row | conflated
    · rw [around]
      exact .of_coherent row ascending ascending'
    · exact ascends_of_conflated conflated ordered first last ascending ascending'

/-- The integer 1, the double 2^53 and the integer 2^53 are in order. -/
theorem ordered_unless_conflated_one :
    (Value.int 1).compare? (.float (.ofInt 9007199254740992)) = some .lt ∧
    (Value.float (.ofInt 9007199254740992)).compare? (.int 9007199254740992) = some .eq ∧
    Ascends .lt .eq ((Value.int 1).compare? (.int 9007199254740992)) := by
  have first : (Value.int 1).compare? (.float (.ofInt 9007199254740992)) = some .lt := by decide +kernel
  have last : (Value.float (.ofInt 9007199254740992)).compare? (.int 9007199254740992) = some .eq := by decide +kernel
  refine ⟨first, last, ((ordered_unless_conflated _ _ _).2.1 _ _ first last rfl rfl).mpr ?_⟩
  rintro ⟨greater, -⟩
  exact absurd greater (by decide)

/-- The integer 2^53 + 1 is equal to the double 2^53, and this to the integer 2^53, but the first is greater than
the last. And the integer 2^53 is less than 2^53 + 1, this equal to the double, but the first equal to the last. -/
theorem descends_at_double :
    ((Value.int 9007199254740993).compare? (.float (.ofInt 9007199254740992)) = some .eq ∧
      (Value.float (.ofInt 9007199254740992)).compare? (.int 9007199254740992) = some .eq ∧
      (Value.int 9007199254740993).compare? (.int 9007199254740992) = some .gt) ∧
    (Value.int 9007199254740992).compare? (.int 9007199254740993) = some .lt ∧
      (Value.int 9007199254740993).compare? (.float (.ofInt 9007199254740992)) = some .eq ∧
      (Value.int 9007199254740992).compare? (.float (.ofInt 9007199254740992)) = some .eq := by
  decide +kernel

end Value
end Sift
