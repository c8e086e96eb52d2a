import Sift.Proofs.Pagination
import Sift.Proofs.Statement.Deletion

/-!
# The rows of pages

A select for a page binds the limit that the configuration lets through, and the
offset of the page. The offset counts rows of the requested size: with a limit that
is reduced, the rows between the end of a window and the next page are on no page.
-/
namespace Sift

variable {cfg : Config}

namespace Statement

variable {d : Dialect} {r : RowType}

/-! ## Windows of statements -/

/-- A statement ends in a window whose slots hold a limit and an offset. -/
def Binds (d : Dialect) (s : Statement) (limit offset : Int64) : Prop :=
  ∃ (front : SqlText) (l o : String), s.text = front ++ d.window (some (.slot l)) (some (.slot o)) ∧
    s.params.get? l = some (.int limit) ∧ s.params.get? o = some (.int offset)

theorem slotNames_window (d : Dialect) (l o : String) :
    (d.window (some (.slot l)) (some (.slot o))).slotNames = if d = .ansi then [o, l] else [l, o] := by
  cases d <;> simp [Dialect.window]

/-- The slots of a window are the last ones of its statement, so a statement binds one window. -/
theorem Binds.unique {s : Statement} {limit offset limit' offset' : Int64} (binds : s.Binds d limit offset)
    (binds' : s.Binds d limit' offset') : limit = limit' ∧ offset = offset' := by
  obtain ⟨front, l, o, text, hasLimit, hasOffset⟩ := binds
  obtain ⟨front', l', o', text', hasLimit', hasOffset'⟩ := binds'
  have slots : front.slotNames ++ (if d = .ansi then [o, l] else [l, o]) =
      front'.slotNames ++ (if d = .ansi then [o', l'] else [l', o']) := by
    rw [← slotNames_window, ← slotNames_window, ← SqlText.slotNames_append, ← SqlText.slotNames_append, ← text,
      ← text']
  have last := (List.append_inj' slots (by split <;> rfl)).2
  obtain ⟨rfl, rfl⟩ : l = l' ∧ o = o' := by
    split at last
    · cases last; exact ⟨rfl, rfl⟩
    · cases last; exact ⟨rfl, rfl⟩
  rw [hasLimit] at hasLimit'
  rw [hasOffset] at hasOffset'
  exact ⟨Value.int.inj (Option.some.inj hasLimit'), Value.int.inj (Option.some.inj hasOffset')⟩

/-- The text of a window after other text, with the parameters bound up to its end. -/
theorem binds_of_window (front : SqlText) (b : Binding) (limit offset : Int64) {s : Statement}
    (text : s.text = front ++ ((window? d ⟨some limit, some offset⟩).run b).1)
    (params : s.params = ((window? d ⟨some limit, some offset⟩).run b).2.params) : s.Binds d limit offset := by
  have resolved := b.resolve_bindAll (⟨some limit, some offset⟩ : Pagination).bindings
  rw [← (window?_spec d ⟨some limit, some offset⟩ b).1, ← params] at resolved
  cases resolved with
  | cons hasLimit rest =>
    cases rest with
    | cons hasOffset _ => exact ⟨front, _, _, text, hasLimit, hasOffset⟩

/-! ## Selects of windows -/

/-- The window that a configuration lets through. -/
theorem result_clamp (cfg : Config) (limit offset : Int64) :
    (clamp cfg ⟨some limit, some offset⟩).result = .ok ⟨some (cfg.rowsShown limit), some offset⟩ := by
  unfold clamp Config.rowsShown
  cases cfg.maxPageSize with
  | some max =>
    dsimp only
    split <;> rfl
  | none => rfl

/-- What a select writes if each of its steps succeeds. -/
theorem result_select {q : Query r} {order : OrderBy} {window clamped : Pagination} {ordered : SqlText}
    (windowValid : window.validate = .ok ()) (valid : r.validate = .ok ()) (orderChecked : order.check r = .ok ())
    (reduced : (clamp cfg window).result = .ok clamped) (checked : q.conditions.check r = .ok ())
    (written : (order.clause cfg.dialect OrderBy.unqualified).trace.result = .ok ordered) :
    (select cfg q order window).result =
      let printed := ((q.conditions.selection r).print cfg.dialect q.conditions.predictsEmpty).run .start
      let paged := (window? cfg.dialect clamped).run printed.2
      .ok ⟨("SELECT " ++ columnList cfg r : String) ++ printed.1.text ++ ordered ++ paged.1, paged.2.params,
        printed.1.predictsEmpty, some printed.1, clamped⟩ := by
  unfold select
  refine (Traced.result_bind_of_ok windowValid).trans ?_
  refine (Traced.result_bind_of_ok valid).trans ?_
  refine (Traced.result_bind_of_ok orderChecked).trans ?_
  refine (Traced.result_bind_of_ok reduced).trans ?_
  refine (Traced.result_bind_of_ok (queryScope_eq_ok valid checked)).trans ?_
  refine (Traced.result_bind_of_ok written).trans ?_
  exact result_logged cfg "select" _

/-- A select that succeeds for all rows does so for every window of non-negative numbers. -/
theorem select_binds {q : Query r} {order : OrderBy} {s : Statement}
    (done : (selectAll cfg q order).result = .ok s) {limit offset : Int64}
    (windowValid : (⟨some limit, some offset⟩ : Pagination).validate = .ok ()) :
    ∃ t, (select cfg q order ⟨some limit, some offset⟩).result = .ok t ∧
      t.Binds cfg.dialect (cfg.rowsShown limit) offset := by
  obtain ⟨ordered, -, -, valid, orderChecked, checked, written, -⟩ := eq_of_select done
  exact ⟨_, result_select windowValid valid orderChecked (result_clamp cfg limit offset) checked written,
    binds_of_window _ _ _ _ rfl rfl⟩

/-- A joined select that succeeds for all rows does so for every window of non-negative numbers. -/
theorem joinedSelect_binds {g : JoinGraph} {order : OrderBy} {s : Statement}
    (done : (joinedSelect cfg g order .all).result = .ok s) {limit offset : Int64}
    (valid : (⟨some limit, some offset⟩ : Pagination).validate = .ok ()) :
    ∃ t, (joinedSelect cfg g order ⟨some limit, some offset⟩).result = .ok t ∧
      t.Binds cfg.dialect (cfg.rowsShown limit) offset := by
  obtain ⟨ordered, -, -, written, -⟩ := eq_of_joinedSelect done
  let window : Pagination := ⟨some (cfg.rowsShown limit), some offset⟩
  let paged := (window? cfg.dialect window).run (g.printScope cfg.dialect).2
  refine ⟨⟨("SELECT " ++ g.columnList : String) ++ (g.scope cfg).text ++ ordered ++ paged.1, paged.2.params,
    (g.scope cfg).predictsEmpty, some (g.scope cfg), window⟩, ?_,
    binds_of_window _ (g.printScope cfg.dialect).2 _ _ rfl rfl⟩
  unfold joinedSelect
  refine (Traced.result_bind_of_ok valid).trans ?_
  refine (Traced.result_bind_of_ok (result_clamp cfg limit offset)).trans ?_
  refine (Traced.result_bind_of_ok written).trans ?_
  exact result_logged cfg "joined_select" _

end Statement

/-! ## The rows of a page -/

/-- The selects that a configuration issues, as operations on windows: those that succeed for all rows. -/
inductive Selects (cfg : Config) : (Pagination → Traced Statement) → Prop where
  | table {r : RowType} {q : Query r} {order : OrderBy} {s : Statement}
      (done : (Statement.selectAll cfg q order).result = .ok s) : Selects cfg (Statement.select cfg q order)
  | joined {g : JoinGraph} {order : OrderBy} {s : Statement}
      (done : (Statement.joinedSelect cfg g order .all).result = .ok s) :
      Selects cfg (Statement.joinedSelect cfg g order)

/-- The row with an index lies in the window that a select binds for a page. -/
def ShowsOnPage (cfg : Config) (select : Pagination → Traced Statement) (number size : Int64) (row : Nat) : Prop :=
  ∃ window s limit offset, Pagination.page number size = .ok window ∧ (select window).result = .ok s ∧
    s.Binds cfg.dialect limit offset ∧ offset.toInt ≤ row ∧ row < offset.toInt + limit.toInt

variable {select : Pagination → Traced Statement} {number size : Int64} {row : Nat}

/-- A page shows a row exactly if it is the page of the row's block, and the row is one of those that are shown
of a block. -/
theorem Selects.showsOnPage_iff (selects : Selects cfg select) {window : Pagination}
    (paged : Pagination.page number size = .ok window) :
    ShowsOnPage cfg select number size row ↔
      number.toInt - 1 = row / size.toInt ∧ row % size.toInt < (cfg.rowsShown size).toInt := by
  have binds {limit offset : Int64} (valid : (⟨some limit, some offset⟩ : Pagination).validate = .ok ()) :
      ∃ s, (select ⟨some limit, some offset⟩).result = .ok s ∧ s.Binds cfg.dialect (cfg.rowsShown limit) offset := by
    cases selects with
    | table done => exact Statement.select_binds done valid
    | joined done => exact Statement.joinedSelect_binds done valid
  have valid := Pagination.validate_of_page paged
  obtain ⟨-, sized, offset, starts, rfl⟩ := Pagination.exists_of_page paged
  obtain ⟨s, done, bound⟩ := binds valid
  rw [← shown_in_block_iff (by omega) (cfg.rowsShown_le size), ← starts]
  constructor
  · rintro ⟨window', s', limit', offset', paged', done', bound', after, before⟩
    obtain rfl : ⟨some size, some offset⟩ = window' := Except.ok.inj (paged.symm.trans paged')
    obtain rfl : s = s' := Except.ok.inj (done.symm.trans done')
    obtain ⟨rfl, rfl⟩ := bound.unique bound'
    exact ⟨after, before⟩
  · rintro ⟨after, before⟩
    exact ⟨_, s, _, offset, paged, done, bound, after, before⟩

/-- A page that shows a row is that of its block, of which the row is shown. -/
theorem Selects.block_of_showsOnPage (selects : Selects cfg select)
    (shows : ShowsOnPage cfg select number size row) :
    number.toInt - 1 = row / size.toInt ∧ row % size.toInt < (cfg.rowsShown size).toInt := by
  obtain ⟨window, -, -, -, paged, -⟩ := id shows
  exact (selects.showsOnPage_iff paged).mp shows

/-- A row that is shown of its block is on exactly one page, if the page has a 64-bit number and offset. -/
theorem Selects.existsUnique_page (selects : Selects cfg select) (sized : 1 ≤ size)
    (numbered : (row : Int) / size.toInt + 1 < 2 ^ 63) (starts : (row : Int) / size.toInt * size.toInt < 2 ^ 63)
    (shown : row % size.toInt < (cfg.rowsShown size).toInt) :
    ∃! number : Int64, 1 ≤ number ∧ ShowsOnPage cfg select number size row := by
  have positive : 0 < size.toInt := Int64.le_iff_toInt_le.mp sized
  have least : 0 ≤ (row : Int) / size.toInt := Int.ediv_nonneg (Int.natCast_nonneg row) (Int.le_of_lt positive)
  have number : (Int64.ofInt (row / size.toInt + 1)).toInt = row / size.toInt + 1 :=
    Int64.toInt_ofInt_of_le (by omega) numbered
  have first : 1 ≤ Int64.ofInt (row / size.toInt + 1) := by
    rw [Int64.le_iff_toInt_le, number]
    show (1 : Int) ≤ _
    omega
  obtain ⟨window, paged⟩ := Pagination.exists_page first sized (by rw [number, Int.add_sub_cancel]; exact starts)
  refine ⟨.ofInt (row / size.toInt + 1), ⟨first, ?_⟩, ?_⟩
  · exact (selects.showsOnPage_iff paged).mpr ⟨by rw [number, Int.add_sub_cancel], shown⟩
  · rintro other ⟨-, shows⟩
    rw [← Int64.toInt_inj, number]
    have block := (selects.block_of_showsOnPage shows).1
    omega

/-- A select shows every row on exactly one page, if pages of the size are not reduced. If they are, it shows
on one page the rows whose remainder is below the greatest page size, and the other rows on no page. The
number and the offset of the page must be 64-bit integers. -/
theorem rows_on_pages (selects : Selects cfg select) (sized : 1 ≤ size)
    (numbered : (row : Int) / size.toInt + 1 < 2 ^ 63) (starts : (row : Int) / size.toInt * size.toInt < 2 ^ 63) :
    ((∀ max, cfg.maxPageSize = some max → size ≤ max) →
      ∃! number : Int64, 1 ≤ number ∧ ShowsOnPage cfg select number size row) ∧
    ∀ max, cfg.maxPageSize = some max → max < size →
      (row % size.toInt < max.toInt → ∃! number : Int64, 1 ≤ number ∧ ShowsOnPage cfg select number size row) ∧
      (max.toInt ≤ row % size.toInt → ∀ number : Int64, ¬ShowsOnPage cfg select number size row) := by
  have positive : 0 < size.toInt := Int64.le_iff_toInt_le.mp sized
  refine ⟨fun within => ?_, fun max greatest less => ?_⟩
  · refine selects.existsUnique_page sized numbered starts ?_
    rw [cfg.rowsShown_eq within]
    exact Int.emod_lt_of_pos _ positive
  · have shown : cfg.rowsShown size = max := by rw [Config.rowsShown, greatest]; exact if_pos less
    refine ⟨fun below => selects.existsUnique_page sized numbered starts (shown ▸ below), ?_⟩
    intro above number shows
    have below := (selects.block_of_showsOnPage shows).2
    rw [shown] at below
    omega

/-- Pages of three rows, of which two are shown, show row 3 on one page. -/
theorem rows_on_pages_of_three :
    let r : RowType := ⟨"Person", "people", [⟨"age", "age", true⟩], "age", none, []⟩
    let cfg : Config := { Config.standard with maxPageSize := some 2 }
    ∃! number : Int64, 1 ≤ number ∧
      ShowsOnPage cfg (Statement.select cfg (Query.all : Query r) .none) number 3 3 := by
  intro r cfg
  obtain ⟨s, done⟩ := exists_of_isOk
    (show (Statement.selectAll cfg (Query.all : Query r) .none).result.isOk = true by decide +kernel)
  exact ((rows_on_pages (.table done) (by decide) (by decide) (by decide)).2 2 rfl (by decide)).1 (by decide)

/-- Row 2 is after the two rows that the first page of three rows shows, and before the second page. -/
theorem no_page_of_row_two :
    let r : RowType := ⟨"Person", "people", [⟨"age", "age", true⟩], "age", none, []⟩
    let cfg : Config := { Config.standard with maxPageSize := some 2 }
    let select := Statement.select cfg (Query.all : Query r) .none
    Selects cfg select ∧ ¬∃ number : Int64, 1 ≤ number ∧ ShowsOnPage cfg select number 3 2 := by
  intro r cfg select
  obtain ⟨s, done⟩ := exists_of_isOk
    (show (Statement.selectAll cfg (Query.all : Query r) .none).result.isOk = true by decide +kernel)
  refine ⟨.table done, ?_⟩
  rintro ⟨number, -, shows⟩
  exact absurd ((Selects.table done).block_of_showsOnPage shows).2 (by decide)

end Sift
