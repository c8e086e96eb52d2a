import Sift.Proofs.Query.Prediction
import Sift.Proofs.Statement.Parameters

/-!
# Selects that are not run

A select predicted to be empty is answered by an empty page. The page is right for
every row, but for rows with a double that equals two different integers.
-/
namespace Sift

/-- A select predicts what its query predicts. -/
theorem Statement.predictsEmpty_select {cfg : Config} {r : RowType} {q : Query r} {order : OrderBy}
    {window : Pagination} {s : Statement} (done : (select cfg q order window).result = .ok s) :
    s.predictsEmpty = q.predictsEmpty := by
  obtain ⟨ordered, clamped, -, -, -, -, -, rfl⟩ := eq_of_select done
  rfl

/-- No row without a misread value satisfies a query that is predicted to be empty, so that the empty
page that answers its select is right for these rows. Any other row is missed: two bounds that a value is
conflated with are those of a query that is predicted to be empty and holds for the row. -/
theorem predictsEmpty_misses_conflated {r : RowType} (q : Query r) (row : Record) :
    (q.predictsEmpty = true → ¬q.conditions.Misreads row → q.holds row = false) ∧
    (∀ (cfg : Config) (order : OrderBy) (window : Pagination) (s : Statement) (page : Page Record),
      (Statement.select cfg q order window).result = .ok s → s.shortCircuit? = some page →
      ¬q.conditions.Misreads row → q.holds row = false) ∧
    (∀ (f : Field r) (a b : Value), (row.valueOf f.column).Conflated a b → ∃ x y : Restriction,
      (Restriction.boundValues [x, y] = [a, b] ∨ Restriction.boundValues [x, y] = [b, a]) ∧
      ((Query.all.restrict f x).restrict f y).predictsEmpty = true ∧
      ((Query.all.restrict f x).restrict f y).holds row = true) := by
  have sound (predicted : q.predictsEmpty = true) (fine : ¬q.conditions.Misreads row) :
      q.holds row = false := by
    by_contra some
    exact fine (Conditions.misreads_of_predictsEmpty predicted (Bool.eq_true_of_not_eq_false some))
  refine ⟨sound, ?_, ?_⟩
  · intro cfg order window s page done answered fine
    rw [Statement.shortCircuit?, Statement.predictsEmpty_select done] at answered
    split at answered
    next predicted => exact sound predicted fine
    next => cases answered
  · intro f a b conflated
    obtain ⟨p, q, values, misreading⟩ := Restriction.exists_misreading conflated
    have fields : ((Query.all.restrict f (.of p)).restrict f (.of q)).conditions.fields =
        [(f.column, [.of p, .of q])] := by
      simp [Query.restrict, Query.all, Conditions.push, Conditions.pushField, Conditions.empty]
    refine ⟨.of p, .of q, values, ?_, ?_⟩
    · rw [Query.predictsEmpty, Conditions.predictsEmpty, fields]
      simp [misreading.contradicted]
    · rw [Query.holds, Conditions.holds, fields]
      simp [Restriction.holds_of_eval misreading.first, Restriction.holds_of_eval misreading.second]

/-- A row of 5 has no value that is misread, and is not missed. -/
theorem predictsEmpty_misses_conflated_five :
    let r : RowType := ⟨"Person", "people", [⟨"id", "id", false⟩, ⟨"age", "age", true⟩], "id", none, []⟩
    let row : Record := .ofList [("age", .int 5)]
    let q : Query r := (Query.all.restrict ⟨"age"⟩ (.of (.greaterOrEqual (.int 9007199254740993)))).restrict
      ⟨"age"⟩ (.of (.lessOrEqual (.int 9007199254740992)))
    q.predictsEmpty = true ∧ ¬q.conditions.Misreads row ∧ q.holds row = false := by
  intro r row q
  have predicted : q.predictsEmpty = true := by decide +kernel
  have fine : ¬q.conditions.Misreads row := by
    rintro ⟨column, xs, member, a, first, b, second, conflated⟩
    cases List.mem_singleton.mp member
    have bounds (c : Value) (bound : c ∈ Restriction.boundValues
        [.of (.greaterOrEqual (.int 9007199254740993)), .of (.lessOrEqual (.int 9007199254740992))]) :
        ∃ i, c = .int i := by
      rcases List.mem_cons.mp bound with rfl | bound
      · exact ⟨_, rfl⟩
      · exact ⟨_, List.mem_singleton.mp bound⟩
    obtain ⟨i, rfl⟩ := bounds a first
    obtain ⟨j, rfl⟩ := bounds b second
    exact conflated
  exact ⟨predicted, fine, (predictsEmpty_misses_conflated q row).1 predicted fine⟩

/-- A column above 2^53 + 1 and below 2^53, which a row with the double 2^53 satisfies. -/
theorem predictsEmpty_misses_double :
    let r : RowType := ⟨"Person", "people", [⟨"id", "id", false⟩, ⟨"age", "age", true⟩], "id", none, []⟩
    let row : Record := .ofList [("age", .float (.ofInt 9007199254740992))]
    ∃ x y : Restriction, Restriction.greaterOrEqual (.int 9007199254740993) = .ok x ∧
      Restriction.lessOrEqual (.int 9007199254740992) = .ok y ∧
      ∃ q : Query r, q = (Query.all.restrict ⟨"age"⟩ x).restrict ⟨"age"⟩ y ∧
        q.predictsEmpty = true ∧ q.holds row = true := by
  refine ⟨_, _, rfl, rfl, _, rfl, ?_, ?_⟩
  · decide +kernel
  · decide +kernel

end Sift
