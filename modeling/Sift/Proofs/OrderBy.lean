import Sift.Proofs.Event
import Sift.Proofs.Sql.SortKey

/-!
# Orders are read back

The text of an order tells its items in a dialect: their columns, collations, directions
and placements of nulls.
-/
namespace Sift

namespace OrderItem

/-- What the text of an item tells in a dialect, whose table has a given name: all of it but for a placement of nulls
that the dialect leaves out. -/
def key (d : Dialect) (name : Option String) (i : OrderItem) : SortKey :=
  ⟨name, i.column, i.collation, i.direction, if d.placesNulls then i.nulls else none⟩

theorem text_eq (d : Dialect) (name : Option String) (i : OrderItem) :
    i.text d name = (i.key d name).text d.collationQuote := by
  obtain ⟨table, column, direction, collation, nulls⟩ := i
  cases collation <;> cases nulls <;> cases d <;>
    simp [text, key, SortKey.text, SortKey.collationText, SortKey.nullsText, SortKey.directionText, Dialect.collation,
      Dialect.nulls, Dialect.placesNulls, String.append_assoc]

end OrderItem

theorem Dialect.collationQuote_ne_blank (d : Dialect) : d.collationQuote ≠ ' ' := by
  cases d <;> decide

theorem SqlText.raw_append_raw (s t : String) : raw s ++ raw t = raw (s ++ t) := rfl

theorem SqlText.raw_inj {s t : String} : raw s = raw t ↔ s = t := ⟨congrArg head, congrArg raw⟩

namespace OrderBy

variable {d : Dialect} {qualify : OrderItem → Except Error (Option String)} {name : OrderItem → Option String}

/-- The keys of the items of an order in a dialect, whose tables have given names. -/
def keys (o : OrderBy) (d : Dialect) (name : OrderItem → Option String) : List SortKey :=
  o.items.map fun i => i.key d (name i)

/-- Items whose tables all have names are written with commas between them. -/
theorem elements_of_ok {items : List OrderItem} (named : ∀ i ∈ items, qualify i = .ok (name i)) :
    elements d qualify items =
      ⟨.raw (SortKey.listText d.collationQuote (items.map fun i => i.key d (name i))),
        items.flatMap (·.events d), Option.none⟩ := by
  induction items with
  | nil => rfl
  | cons i items ih =>
    obtain ⟨first, others⟩ := List.forall_mem_cons.mp named
    rw [elements, first, ih others]
    show (⟨SqlText.raw _ ++ SqlText.raw _, _, _⟩ : Clause) = _
    rw [SqlText.raw_append_raw, i.text_eq]
    cases items with
    | nil => simp [SortKey.listText]
    | cons j items => simp [SortKey.listText, String.append_assoc]

/-- The clause of an order is the text of its keys. -/
theorem trace_clause (o : OrderBy) (named : ∀ i ∈ o.items, qualify i = .ok (name i)) :
    (o.clause d qualify).trace = ⟨o.items.flatMap (·.events d),
      .ok (.raw (SortKey.orderText " ORDER BY " d.collationQuote (o.keys d name)))⟩ := by
  obtain ⟨items⟩ := o
  cases items with
  | nil => rfl
  | cons i items =>
    rw [clause, elements_of_ok named]
    rfl

theorem plain_keys (o : OrderBy) (d : Dialect) (plain : ∀ i ∈ o.items, Identifier.isPlain i.column = true)
    (plainNames : ∀ i ∈ o.items, ∀ t, name i = some t → Identifier.isPlain t = true) :
    ∀ k ∈ o.keys d name, k.IsPlain := by
  intro k member
  obtain ⟨i, inside, rfl⟩ := List.mem_map.mp member
  exact ⟨plain i inside, plainNames i inside⟩

theorem result_sql (o : OrderBy) (d : Dialect) :
    (o.sql d).result = .ok (SortKey.orderText "ORDER BY " d.collationQuote (o.keys d fun _ => Option.none)) := by
  obtain ⟨items⟩ := o
  cases items with
  | nil => rfl
  | cons i items =>
    have written : (elements d unqualified (i :: items)).trace.result =
        .ok (.raw (SortKey.listText d.collationQuote (keys ⟨i :: items⟩ d fun _ => Option.none))) := by
      have named : ∀ j ∈ i :: items, unqualified j = .ok ((fun _ => Option.none) j) := fun _ _ => rfl
      rw [elements_of_ok named]
      rfl
    refine (Traced.result_bind_of_ok written).trans ?_
    simp [SortKey.orderText, keys, SqlText.named, SqlText.raw]

end OrderBy

/-- An order whose columns need no quotes is always written, and its text, like no other one, is read back as its
items in their order: columns, collations, directions, and placements of nulls unless the dialect leaves them out.
So is its clause in a statement that names its tables. No order is no text. -/
theorem order_reads_back (o : OrderBy) (d : Dialect) (plain : ∀ i ∈ o.items, Identifier.isPlain i.column = true) :
    ((∃ text, (o.sql d).result = .ok text) ∧
      ∀ text, (o.sql d).result = .ok text ↔
        SortKey.readOrder "ORDER BY " d.collationQuote text = some (o.keys d fun _ => none)) ∧
    (∀ (qualify : OrderItem → Except Error (Option String)) (name : OrderItem → Option String),
      (∀ i ∈ o.items, qualify i = .ok (name i) ∧ ∀ t, name i = some t → Identifier.isPlain t = true) →
      (∃ text, (o.clause d qualify).trace.result = .ok (.raw text)) ∧
      ∀ text, (o.clause d qualify).trace.result = .ok (.raw text) ↔
        SortKey.readOrder " ORDER BY " d.collationQuote text = some (o.keys d name)) ∧
    (o.items = [] → (o.sql d).result = .ok "" ∧ ∀ qualify, o.clause d qualify = .nothing) := by
  have quote := d.collationQuote_ne_blank
  refine ⟨⟨⟨_, o.result_sql d⟩, fun text => ?_⟩, ?_, fun empty => ?_⟩
  · rw [o.result_sql d, SortKey.readOrder_iff quote (by decide), Except.ok.injEq, eq_comm]
    exact (and_iff_left (o.plain_keys d plain fun _ _ _ unnamed => by cases unnamed)).symm
  · intro qualify name named
    have plainKeys := o.plain_keys d plain fun i inside => (named i inside).2
    rw [o.trace_clause fun i inside => (named i inside).1]
    refine ⟨⟨_, rfl⟩, fun text => ?_⟩
    rw [SortKey.readOrder_iff quote (by decide), Except.ok.injEq, SqlText.raw_inj, eq_comm]
    exact (and_iff_left plainKeys).symm
  · obtain ⟨items⟩ := o
    cases empty
    exact ⟨rfl, fun _ => rfl⟩

/-- A collation whose name contains quotes, a comma and a keyword is read back, also where MySQL leaves out nulls. -/
theorem order_reads_back_of_quotes :
    SortKey.readOrder "ORDER BY " '\x22'
        "ORDER BY a COLLATE \x22x\x22\x22, \x22\x22y ASC\x22 ASC NULLS LAST, b DESC" =
      some [⟨none, "a", some "x\x22, \x22y ASC", .asc, some .last⟩, ⟨none, "b", none, .desc, none⟩] ∧
    SortKey.readOrder "ORDER BY " '\x60' "ORDER BY a COLLATE \x60x\x22, \x22y ASC\x60 ASC, b DESC" =
      some [⟨none, "a", some "x\x22, \x22y ASC", .asc, none⟩, ⟨none, "b", none, .desc, none⟩] ∧
    SortKey.readOrder " ORDER BY " '\x22'
        " ORDER BY t0.a COLLATE \x22x\x22\x22, \x22\x22y ASC\x22 ASC NULLS LAST, t0.b DESC" =
      some [⟨some "t0", "a", some "x\x22, \x22y ASC", .asc, some .last⟩,
        ⟨some "t0", "b", none, .desc, none⟩] := by
  let o : OrderBy :=
    ⟨[⟨"people", "a", .asc, some "x\x22, \x22y ASC", some .last⟩, ⟨"people", "b", .desc, none, none⟩]⟩
  have plain : ∀ i ∈ o.items, Identifier.isPlain i.column = true := by decide
  have named : ∀ i ∈ o.items, (Except.ok (some "t0") : Except Error (Option String)) = .ok (some "t0") ∧
      ∀ t, some "t0" = some t → Identifier.isPlain t = true := fun _ _ => ⟨rfl, by rintro t ⟨⟩; decide⟩
  refine ⟨((order_reads_back o .sqlite plain).1.2 _).mp rfl, ((order_reads_back o .mySql plain).1.2 _).mp rfl, ?_⟩
  exact (((order_reads_back o .ansi plain).2.1 (fun _ => .ok (some "t0")) (fun _ => some "t0") named).2 _).mp rfl

end Sift
