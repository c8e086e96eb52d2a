import Sift.Proofs.Statement.Ordering
import Sift.Proofs.Statement.Parameters

/-!
# Columns of orders

A field can be made of any text, so an item can name any column. A select checks the
columns of its order against its row type, and an order over a graph against the first
selected nodes of their tables. An order on its own and a clause without a graph are
written unchecked.
-/
namespace Sift

namespace OrderItem

/-- The items that are made from fields of a row type, declared or not. -/
inductive MadeOf (r : RowType) : OrderItem → Prop where
  | of (f : Field r) (direction : SortDirection) : MadeOf r (.of f direction)
  | collate {i j : OrderItem} {name : String} (made : MadeOf r i) (done : i.collate name = .ok j) : MadeOf r j
  | placeNulls {i : OrderItem} (made : MadeOf r i) (p : NullPlacement) : MadeOf r (i.placeNulls p)

theorem MadeOf.table {r : RowType} {i : OrderItem} (made : MadeOf r i) : i.table = r.table := by
  induction made with
  | of f direction => rfl
  | collate made done ih =>
    obtain ⟨-, -, same⟩ := ok_of_bind done
    cases same
    exact ih
  | placeNulls made p ih => exact ih

end OrderItem

namespace OrderBy

/-- The order of items that stand with the row types of their fields. -/
def ofFields (entries : List (RowType × OrderItem)) : OrderBy := ⟨entries.map (·.2)⟩

/-- Every column is an identifier and is declared by the row type of its field. -/
def Checked (entries : List (RowType × OrderItem)) : Prop :=
  ∀ e ∈ entries, Identifier.isPlain e.2.column = true ∧ e.1.hasColumn e.2.column = true

/-- If the answer is a text, then it is read back as the keys of the order, with columns that the row types of their
fields declare. -/
def WritesDeclared (start : String) (d : Dialect) (name : OrderItem → Option String)
    (entries : List (RowType × OrderItem)) (answer : Except Error SqlText) : Prop :=
  ∀ text, answer = .ok text → ∃ t, text = .raw t ∧
    SortKey.readOrder start d.collationQuote t = some ((ofFields entries).keys d name) ∧
    ∀ e ∈ entries, e.1.hasColumn e.2.column = true

variable {entries : List (RowType × OrderItem)} {start : String} {d : Dialect} {name : OrderItem → Option String}
  {answer : Except Error SqlText}

/-- The text of an order is read back exactly if its columns are identifiers. -/
theorem readOrder_orderText_iff {o : OrderBy} (word : start ≠ "")
    (names : ∀ i ∈ o.items, ∀ t, name i = some t → Identifier.isPlain t = true) :
    SortKey.readOrder start d.collationQuote (SortKey.orderText start d.collationQuote (o.keys d name)) =
      some (o.keys d name) ↔ ∀ i ∈ o.items, Identifier.isPlain i.column = true := by
  rw [SortKey.readOrder_iff d.collationQuote_ne_blank word, and_iff_right rfl]
  constructor
  · exact fun plain i member => (plain _ (List.mem_map_of_mem member)).column
  · exact fun plain => o.plain_keys d plain names

theorem writesDeclared_iff (word : start ≠ "")
    (names : ∀ i ∈ (ofFields entries).items, ∀ t, name i = some t → Identifier.isPlain t = true)
    (written : answer = .ok (.raw (SortKey.orderText start d.collationQuote ((ofFields entries).keys d name)))) :
    WritesDeclared start d name entries answer ↔ Checked entries := by
  have read := readOrder_orderText_iff (d := d) word names
  rw [ofFields, List.forall_mem_map] at read
  constructor
  · intro declared e member
    obtain ⟨t, same, back, own⟩ := declared _ written
    rw [← SqlText.raw_inj.mp same] at back
    exact ⟨read.mp back e member, own e member⟩
  · intro checked text given
    cases written.symm.trans given
    exact ⟨_, rfl, read.mpr fun e member => (checked e member).1, fun e member => (checked e member).2⟩

end OrderBy

/-! ## Columns of a graph -/

namespace JoinGraph

variable {g : JoinGraph}

/-- The first selected node of the table of an item. -/
def first? (g : JoinGraph) (i : OrderItem) : Option JoinNode := g.selected.find? fun n => n.row.table == i.table

/-- The first nodes of the tables of all items declare their columns. -/
def DeclaresOrder (g : JoinGraph) (o : OrderBy) : Prop :=
  ∀ i ∈ o.items, ∃ n, g.first? i = some n ∧ n.row.hasColumn i.column = true

theorem orderName_eq_ok_iff {i : OrderItem} {name : Option String} :
    g.orderName i = .ok name ↔
      ∃ n, g.first? i = some n ∧ n.row.hasColumn i.column = true ∧ some n.name = name := by
  rw [orderName, ← first?]
  cases g.first? i with
  | none => simp
  | some n =>
    cases declared : n.row.hasColumn i.column with
    | false => simp [RowType.checkColumn, declared, bind, Except.bind]
    | true => simp [RowType.checkColumn, declared, bind, Except.bind, pure, Except.pure]

theorem mem_of_first? {n : JoinNode} {i : OrderItem} (found : g.first? i = some n) :
    n ∈ g.selected ∧ n.row.table = i.table := by
  have same := List.find?_some found
  exact ⟨List.mem_of_find?_eq_some found, beq_iff_eq.mp same⟩

theorem firstName_of_first? {n : JoinNode} {i : OrderItem} (found : g.first? i = some n) :
    g.firstName i = some n.name := by
  rw [firstName, ← first?, found]
  rfl

end JoinGraph

theorem JoinPlan.valid_of_selected {p : JoinPlan} {g : JoinGraph} (done : p.graph = .ok g) {n : JoinNode}
    (selected : n ∈ g.selected) : n.row.Valid := by
  obtain ⟨places, presents⟩ := JoinPlan.presents_of_graph done
  have well := JoinPlan.exists_graph_iff.mp ⟨g, done⟩
  have member := g.selected_sublist.subset selected
  exact RowType.valid_of_validate (well.valid _ (presents.mem_members member))

open OrderBy (ofFields Checked WritesDeclared)

namespace Statement

variable {cfg : Config} {g : JoinGraph} {o : OrderBy}

theorem result_orderClause_none (cfg : Config) (o : OrderBy) : (orderClause cfg o none).trace.result =
    .ok (.raw (SortKey.orderText " ORDER BY " cfg.dialect.collationQuote (o.keys cfg.dialect fun _ => none))) := by
  have named : ∀ i ∈ o.items, OrderBy.unqualified i = .ok ((fun _ => none) i) := fun _ _ => rfl
  show (o.clause cfg.dialect OrderBy.unqualified).trace.result = _
  rw [o.trace_clause named]

theorem result_orderClause_some (declared : g.DeclaresOrder o) (cfg : Config) :
    (orderClause cfg o (some g)).trace.result =
      .ok (.raw (SortKey.orderText " ORDER BY " cfg.dialect.collationQuote (o.keys cfg.dialect g.firstName))) := by
  have named : ∀ i ∈ o.items, g.orderName i = .ok (g.firstName i) := by
    intro i member
    obtain ⟨n, first, own⟩ := declared i member
    exact JoinGraph.orderName_eq_ok_iff.mpr ⟨n, first, own, (JoinGraph.firstName_of_first? first).symm⟩
  show (o.clause cfg.dialect g.orderName).trace.result = _
  rw [o.trace_clause named]

theorem exists_orderClause_iff :
    (∃ text, (orderClause cfg o (some g)).trace.result = .ok text) ↔ g.DeclaresOrder o := by
  constructor
  · rintro ⟨text, written⟩ i member
    obtain ⟨name, found⟩ := OrderBy.named_of_clause written i member
    obtain ⟨n, first, own, -⟩ := JoinGraph.orderName_eq_ok_iff.mp found
    exact ⟨n, first, own⟩
  · exact fun declared => ⟨_, result_orderClause_some declared cfg⟩

/-- The columns of an order over a built graph are identifiers, as are the names of the nodes. -/
theorem plain_of_declaresOrder {p : JoinPlan} (done : p.graph = .ok g) (declared : g.DeclaresOrder o) :
    (∀ i ∈ o.items, Identifier.isPlain i.column = true) ∧
      ∀ i ∈ o.items, ∀ t, g.firstName i = some t → Identifier.isPlain t = true := by
  constructor
  · intro i member
    obtain ⟨n, first, own⟩ := declared i member
    exact (JoinPlan.valid_of_selected done (JoinGraph.mem_of_first? first).1).isPlain own
  · intro i member t named
    obtain ⟨n, first, -⟩ := declared i member
    rw [JoinGraph.firstName_of_first? first] at named
    cases named
    exact isPlain_tableName n.id

/-- A clause over a built graph is read back as the keys of its order. -/
theorem readOrder_of_orderClause {p : JoinPlan} (done : p.graph = .ok g) {text : SqlText}
    (written : (orderClause cfg o (some g)).trace.result = .ok text) : ∃ t, text = .raw t ∧
      SortKey.readOrder " ORDER BY " cfg.dialect.collationQuote t = some (o.keys cfg.dialect g.firstName) := by
  have declared := exists_orderClause_iff.mp ⟨text, written⟩
  obtain ⟨plain, names⟩ := plain_of_declaresOrder done declared
  rw [result_orderClause_some declared] at written
  cases written
  exact ⟨_, rfl, (OrderBy.readOrder_orderText_iff (by decide) names).mpr plain⟩

/-- Over a built graph, all that can go wrong is that the row type of a field does not declare its column. -/
theorem writesDeclared_orderClause_iff {p : JoinPlan} (done : p.graph = .ok g) {entries : List (RowType × OrderItem)} :
    let clause := (orderClause cfg (ofFields entries) (some g)).trace.result
    WritesDeclared " ORDER BY " cfg.dialect g.firstName entries clause ↔
      ((∃ text, clause = .ok text) → ∀ e ∈ entries, e.1.hasColumn e.2.column = true) := by
  constructor
  · rintro declared ⟨text, written⟩
    obtain ⟨-, -, -, own⟩ := declared text written
    exact own
  · intro own text written
    obtain ⟨t, same, read⟩ := readOrder_of_orderClause done written
    exact ⟨t, same, read, own ⟨text, written⟩⟩

/-- The columns of the order of a select are identifiers that its row type declares. -/
theorem declared_of_select {r : RowType} {q : Query r} {window : Pagination} {s : Statement}
    (selected : (select cfg q o window).result = .ok s) :
    ∀ i ∈ o.items, i.table = r.table ∧ Identifier.isPlain i.column = true ∧ r.hasColumn i.column = true := by
  obtain ⟨-, -, -, validated, checked, -⟩ := eq_of_select selected
  intro i member
  obtain ⟨same, passed⟩ := ok_of_guard (forM_ok_iff.mp checked i member)
  have declared := RowType.hasColumn_of_check passed
  exact ⟨not_not.mp same, (RowType.valid_of_validate validated).isPlain declared, declared⟩

end Statement

/-- What is known of the columns of an order, whose items are made from any fields of row types. On its own, and as a
clause without a graph, it is always written, so its columns are identifiers that the row types of their fields
declare exactly if they were so before. Over a graph it is written exactly if the first selected nodes of the tables
declare all columns, which then are identifiers. The row types of their fields declare these columns as well if no
other one has their tables. -/
theorem order_columns_checked_by_graph {entries : List (RowType × OrderItem)} (made : ∀ e ∈ entries, e.2.MadeOf e.1) :
    let o := ofFields entries
    let unnamed : OrderItem → Option String := fun _ => none
    (∀ d : Dialect,
      (o.sql d).result = .ok (SortKey.orderText "ORDER BY " d.collationQuote (o.keys d unnamed)) ∧
      (WritesDeclared "ORDER BY " d unnamed entries ((o.sql d).result.map .raw) ↔ Checked entries)) ∧
    (∀ cfg : Config,
      let q := cfg.dialect.collationQuote
      let clause := (Statement.orderClause cfg o none).trace.result
      clause = .ok (.raw (SortKey.orderText " ORDER BY " q (o.keys cfg.dialect unnamed))) ∧
      (WritesDeclared " ORDER BY " cfg.dialect unnamed entries clause ↔ Checked entries)) ∧
    (∀ (cfg : Config) {r : RowType} (q : Query r) (window : Pagination) (s : Statement),
      (Statement.select cfg q o window).result = .ok s →
      ∀ e ∈ entries, e.1.table = r.table ∧ Identifier.isPlain e.2.column = true ∧ r.hasColumn e.2.column = true) ∧
    ∀ (p : JoinPlan) (g : JoinGraph), p.build.result = .ok g → ∀ cfg : Config,
      let q := cfg.dialect.collationQuote
      let clause := (Statement.orderClause cfg o (some g)).trace.result
      ((∃ text, clause = .ok text) ↔
        ∀ e ∈ entries, ∃ n, g.first? e.2 = some n ∧ n.row.hasColumn e.2.column = true) ∧
      (∀ text, clause = .ok text → ∃ t, text = .raw t ∧
        SortKey.readOrder " ORDER BY " q t = some (o.keys cfg.dialect g.firstName)) ∧
      (WritesDeclared " ORDER BY " cfg.dialect g.firstName entries clause ↔
        ((∃ text, clause = .ok text) → ∀ e ∈ entries, e.1.hasColumn e.2.column = true)) ∧
      ((∀ e ∈ entries, ∀ n ∈ g.selected, n.row.table = e.1.table → n.row = e.1) →
        WritesDeclared " ORDER BY " cfg.dialect g.firstName entries clause) := by
  intro o unnamed
  refine ⟨fun d => ?_, fun cfg => ?_, fun cfg r q window s selected e member => ?_, fun p g done cfg => ?_⟩
  · have written := o.result_sql d
    refine ⟨written, OrderBy.writesDeclared_iff (by decide) (fun _ _ _ named => by cases named) ?_⟩
    rw [written]
    rfl
  · have written := Statement.result_orderClause_none cfg o
    exact ⟨written, OrderBy.writesDeclared_iff (by decide) (fun _ _ _ named => by cases named) written⟩
  · rw [← (made e member).table]
    exact Statement.declared_of_select selected e.2 (List.mem_map_of_mem member)
  · rw [JoinPlan.result_build] at done
    have accepted : (∃ text, (Statement.orderClause cfg o (some g)).trace.result = .ok text) ↔ g.DeclaresOrder o :=
      Statement.exists_orderClause_iff
    refine ⟨accepted.trans List.forall_mem_map, fun text => Statement.readOrder_of_orderClause done,
      Statement.writesDeclared_orderClause_iff done,
      fun apart => (Statement.writesDeclared_orderClause_iff done).mpr fun written e member => ?_⟩
    obtain ⟨n, first, declared⟩ := accepted.mp written e.2 (List.mem_map_of_mem member)
    obtain ⟨selected, same⟩ := JoinGraph.mem_of_first? first
    rwa [apart e member n selected (same.trans (made e member).table)] at declared

/-- An order by the name and the number of customers is checked in every way: on its own, in a select of customers, and
over the graph of orders and the customers that placed them. -/
theorem order_columns_checked_by_graph_of_customer :
    let customer : RowType := ⟨"Customer", "customers", [⟨"id", "id", false⟩, ⟨"name", "name", false⟩], "id", none, []⟩
    let order : RowType := ⟨"Order", "orders", [⟨"id", "id", false⟩, ⟨"customer_id", "customer_id", false⟩], "id", none,
      [⟨"customer_id", "customers"⟩]⟩
    let p := (JoinPlan.of (Query.all : Query order)).join .inner (⟨"customer_id"⟩ : Field order)
      (Query.all : Query customer)
    let g : JoinGraph :=
      ⟨⟨0, order, .empty, none⟩, [⟨1, customer, .empty, some ⟨0, .inner, ⟨"customer_id", "id"⟩⟩⟩]⟩
    let entries := [(customer, .of (⟨"name"⟩ : Field customer) .asc), (customer, .of (⟨"id"⟩ : Field customer) .desc)]
    let clause := (Statement.orderClause .standard (ofFields entries) (some g)).trace.result
    (∀ e ∈ entries, e.2.MadeOf e.1) ∧ p.build.result = .ok g ∧ Checked entries ∧
      (∀ d : Dialect, WritesDeclared "ORDER BY " d (fun _ => none) entries
        (((ofFields entries).sql d).result.map .raw)) ∧
      (∃ s, (Statement.select .standard (Query.all : Query customer) (ofFields entries) .all).result = .ok s ∧
        ∀ e ∈ entries, customer.hasColumn e.2.column = true) ∧
      WritesDeclared " ORDER BY " .postgres g.firstName entries clause ∧ ∃ text, clause = .ok text := by
  intro customer order p g entries clause
  have made : ∀ e ∈ entries, e.2.MadeOf e.1 :=
    List.forall_mem_cons.mpr ⟨.of _ _, List.forall_mem_singleton.mpr (.of _ _)⟩
  have done : p.build.result = .ok g := JoinPlan.build_eq_ok rfl rfl (by decide +kernel) rfl (by decide) rfl
  have checked : Checked entries := by
    unfold Checked
    decide
  obtain ⟨s, selected⟩ := exists_of_isOk
    (x := (Statement.select .standard (Query.all : Query customer) (ofFields entries) .all).result) (by decide +kernel)
  obtain ⟨alone, -, single, joined⟩ := order_columns_checked_by_graph made
  obtain ⟨accepted, -, -, apart⟩ := joined p g done .standard
  have own : ∀ e ∈ entries, customer.hasColumn e.2.column = true :=
    fun e member => (single .standard Query.all .all s selected e member).2.2
  have nodes : g.selected = g.nodes := rfl
  refine ⟨made, done, checked, fun d => (alone d).2.mpr checked, ⟨s, selected, own⟩, apart ?_, accepted.mpr ?_⟩
  · rw [nodes]
    decide
  · exact List.forall_mem_cons.mpr ⟨⟨_, rfl, rfl⟩, List.forall_mem_singleton.mpr ⟨_, rfl, rfl⟩⟩

/-- A column that is a statement of its own is written by an order on its own and by a clause without a graph. Over a
graph, and in a select, it is refused. -/
theorem unchecked_column_is_written :
    let person : RowType := ⟨"Person", "people", [⟨"id", "id", false⟩, ⟨"age", "age", true⟩], "id", none, []⟩
    let column := "age; DROP TABLE people"
    let entries := [(person, OrderItem.of (⟨column⟩ : Field person) .asc)]
    let o := ofFields entries
    let g : JoinGraph := ⟨⟨0, person, .empty, none⟩, []⟩
    person.validate = .ok () ∧ (∀ e ∈ entries, e.2.MadeOf e.1) ∧ Identifier.isPlain column = false ∧
      person.hasColumn column = false ∧
      (o.sql .postgres).result = .ok "ORDER BY age; DROP TABLE people ASC" ∧
      (Statement.orderClause .standard o none).trace.result = .ok (.raw " ORDER BY age; DROP TABLE people ASC") ∧
      ¬WritesDeclared "ORDER BY " .postgres (fun _ => none) entries ((o.sql .postgres).result.map .raw) ∧
      ¬WritesDeclared " ORDER BY " .postgres (fun _ => none) entries
        (Statement.orderClause .standard o none).trace.result ∧
      (JoinPlan.of (Query.all : Query person)).build.result = .ok g ∧
      (Statement.orderClause .standard o (some g)).trace.result = .error (.unknownField "people" column) ∧
      (Statement.selectAll .standard (Query.all : Query person) o).result = .error (.unknownField "people" column) := by
  intro person column entries o g
  have undeclared : person.hasColumn column = false := by decide
  have unchecked (start : String) {text : String} {answer : Except Error SqlText} (written : answer = .ok (.raw text)) :
      ¬WritesDeclared start .postgres (fun _ => none) entries answer := by
    intro declared
    obtain ⟨-, -, -, own⟩ := declared _ written
    exact absurd (own _ List.mem_cons_self) (by rw [Bool.not_eq_true]; exact undeclared)
  have text (start : String) : SortKey.orderText start '\x22' (o.keys .postgres fun _ => none) =
      start ++ "age; DROP TABLE people ASC" := rfl
  have alone : (o.sql .postgres).result = .ok "ORDER BY age; DROP TABLE people ASC" := by
    refine (o.result_sql .postgres).trans (congrArg Except.ok ((text "ORDER BY ").trans ?_))
    decide +kernel
  have clause : (Statement.orderClause .standard o none).trace.result =
      .ok (.raw " ORDER BY age; DROP TABLE people ASC") := by
    refine (Statement.result_orderClause_none .standard o).trans
      (congrArg (Except.ok ∘ SqlText.raw) ((text " ORDER BY ").trans ?_))
    decide +kernel
  have valid : person.validate = .ok () := ok_of_isOk (by decide +kernel)
  have refused : o.check person = .error (.unknownField "people" column) := rfl
  have selected : (Statement.selectAll .standard (Query.all : Query person) o).result =
      .error (.unknownField "people" column) := by
    unfold Statement.selectAll Statement.select
    refine (Traced.result_bind_of_ok rfl).trans ((Traced.result_bind_of_ok valid).trans ?_)
    rw [Traced.result_bind]
    show (o.check person >>= _) = _
    rw [refused]
    rfl
  have done : (JoinPlan.of (Query.all : Query person)).build.result = .ok g :=
    JoinPlan.build_eq_ok rfl rfl (by decide +kernel) rfl (by decide) rfl
  exact ⟨valid, List.forall_mem_singleton.mpr (.of _ _), by decide +kernel, undeclared, alone, clause,
    unchecked _ (by rw [alone]; rfl), unchecked _ clause, done, rfl, selected⟩

end Sift
