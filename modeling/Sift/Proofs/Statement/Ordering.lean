import Sift.Proofs.Join.Scope
import Sift.Proofs.JoinedRow
import Sift.Proofs.OrderBy

/-!
# Orders of joined rows

An item of an order knows the table of its field, but not the row type. A joined select
takes the first selected node of the table: the node of the row type, unless a node before
it has the same table.
-/
namespace Sift

namespace OrderItem

/-- The items that are made from declared fields of a row type. -/
inductive MadeFrom (r : RowType) : OrderItem → Prop where
  | of (f : Field r) (direction : SortDirection) (declared : r.hasColumn f.column = true) :
      MadeFrom r (.of f direction)
  | collate {i j : OrderItem} {name : String} (made : MadeFrom r i) (done : i.collate name = .ok j) : MadeFrom r j
  | placeNulls {i : OrderItem} (made : MadeFrom r i) (p : NullPlacement) : MadeFrom r (i.placeNulls p)

theorem MadeFrom.column {r : RowType} {i : OrderItem} (made : MadeFrom r i) :
    i.table = r.table ∧ r.hasColumn i.column = true := by
  induction made with
  | of f direction declared => exact ⟨rfl, declared⟩
  | collate made done ih =>
    obtain ⟨-, -, same⟩ := ok_of_bind done
    cases same
    exact ih
  | placeNulls made p ih => exact ih

end OrderItem

theorem Clause.failure_of_trace {c : Clause} {text : SqlText} (written : c.trace.result = .ok text) :
    c.failure = none := by
  rw [trace] at written
  split at written
  · cases written
  next whole => exact whole

namespace OrderBy

variable {d : Dialect} {qualify : OrderItem → Except Error (Option String)}

/-- An order is written to its end exactly if the tables of all items have names. -/
theorem failure_elements_iff {items : List OrderItem} :
    (elements d qualify items).failure = Option.none ↔ ∀ i ∈ items, ∃ name, qualify i = .ok name := by
  induction items with
  | nil => simp [elements, Clause.nothing]
  | cons i items ih =>
    rw [elements, List.forall_mem_cons, ← ih]
    cases qualify i with
    | error e => simp
    | ok name => simp

theorem named_of_clause {o : OrderBy} {text : SqlText} (written : (o.clause d qualify).trace.result = .ok text) :
    ∀ i ∈ o.items, ∃ name, qualify i = .ok name := by
  have whole := Clause.failure_of_trace written
  rw [clause] at whole
  split at whole
  next empty =>
    rw [List.isEmpty_iff.mp empty]
    exact fun i member => absurd member List.not_mem_nil
  next => exact failure_elements_iff.mp whole

end OrderBy

/-! ## Nodes of a table -/

namespace JoinGraph

variable {g : JoinGraph}

/-- The first selected node that has the table of a given one. -/
def firstLike (g : JoinGraph) (n : JoinNode) : JoinNode :=
  (g.selected.find? fun m => m.row.table == n.row.table).getD n

theorem find?_table {n : JoinNode} (selected : n ∈ g.selected) :
    (g.selected.find? fun m => m.row.table == n.row.table) = some (g.firstLike n) := by
  rw [firstLike]
  cases found : g.selected.find? fun m => m.row.table == n.row.table with
  | none => exact absurd (beq_self_eq_true _) (List.find?_eq_none.mp found n selected)
  | some m => rfl

/-- The node that an item is named after comes before all others of its table. -/
theorem firstLike_spec (sorted : g.selected.Pairwise fun n m => n.id < m.id) {n : JoinNode}
    (selected : n ∈ g.selected) : g.firstLike n ∈ g.selected ∧ (g.firstLike n).row.table = n.row.table ∧
      ∀ m ∈ g.selected, m.row.table = n.row.table → (g.firstLike n).id ≤ m.id := by
  obtain ⟨same, before, after, split, passed⟩ := List.find?_eq_some_iff_append.mp (find?_table selected)
  refine ⟨by rw [split]; simp, beq_iff_eq.mp same, fun m member table => ?_⟩
  rw [split] at sorted member
  rcases List.mem_append.mp member with earlier | later
  · have other := passed m earlier
    simp [table] at other
  · rcases List.mem_cons.mp later with rfl | later
    · exact le_rfl
    · exact (List.rel_of_pairwise_cons (List.pairwise_append.mp sorted).2.1 later).le

theorem orderName_eq {n : JoinNode} {i : OrderItem} (selected : n ∈ g.selected) (table : i.table = n.row.table) :
    g.orderName i =
      ((g.firstLike n).row.checkColumn i.column).map fun _ => some (g.firstLike n).name := by
  rw [orderName, table, find?_table selected]
  show ((g.firstLike n).row.checkColumn i.column >>= fun _ => .ok (some (g.firstLike n).name)) = _
  cases (g.firstLike n).row.checkColumn i.column <;> rfl

/-- The name of the first selected node that has the table of an item. -/
def firstName (g : JoinGraph) (i : OrderItem) : Option String :=
  (g.selected.find? fun m => m.row.table == i.table).map (·.name)

theorem firstName_eq {n : JoinNode} {i : OrderItem} (selected : n ∈ g.selected) (table : i.table = n.row.table) :
    g.firstName i = some (g.firstLike n).name := by
  rw [firstName, table, find?_table selected]
  rfl

theorem orderName_of_declared {n : JoinNode} {i : OrderItem} (selected : n ∈ g.selected)
    (table : i.table = n.row.table) (declared : (g.firstLike n).row.hasColumn i.column = true) :
    g.orderName i = .ok (g.firstName i) := by
  rw [orderName_eq selected table, firstName_eq selected table, RowType.checkColumn, if_pos declared]
  rfl

theorem declared_of_orderName {n : JoinNode} {i : OrderItem} {name : Option String} (selected : n ∈ g.selected)
    (table : i.table = n.row.table) (done : g.orderName i = .ok name) :
    (g.firstLike n).row.hasColumn i.column = true := by
  rw [orderName_eq selected table, RowType.checkColumn] at done
  split at done
  next declared => exact declared
  next => cases done

end JoinGraph

/-! ## Orders of nodes -/

/-- The text of items, the columns of each named after the node that it is listed with. -/
def sortText (d : Dialect) (entries : List (JoinNode × OrderItem)) : String :=
  if entries.isEmpty then ""
  else " ORDER BY " ++ ", ".intercalate (entries.map fun (n, i) => i.text d (some n.name))

/-- The items of a list of nodes and items. -/
def sortItems (entries : List (JoinNode × OrderItem)) : OrderBy := ⟨entries.map (·.2)⟩

theorem sortText_eq (d : Dialect) (entries : List (JoinNode × OrderItem)) :
    sortText d entries = SortKey.orderText " ORDER BY " d.collationQuote
      (entries.map fun e => e.2.key d (some e.1.name)) := by
  cases entries with
  | nil => rfl
  | cons e entries => simp [sortText, SortKey.orderText, SortKey.listText, OrderItem.text_eq, Function.comp_def]

theorem readOrder_sortText {d : Dialect} {entries : List (JoinNode × OrderItem)}
    (plain : ∀ e ∈ entries, Identifier.isPlain e.2.column = true) :
    SortKey.readOrder " ORDER BY " d.collationQuote (sortText d entries) =
      some (entries.map fun e => e.2.key d (some e.1.name)) := by
  refine (SortKey.readOrder_iff d.collationQuote_ne_blank (by decide)).mpr ⟨sortText_eq d entries, ?_⟩
  intro k member
  obtain ⟨e, inside, rfl⟩ := List.mem_map.mp member
  refine ⟨plain e inside, fun t named => ?_⟩
  cases named
  exact isPlain_tableName e.1.id

/-- The text of items whose columns need no quotes tells the names of the nodes. -/
theorem names_of_sortText {d : Dialect} {es fs : List (JoinNode × OrderItem)}
    (plain : ∀ e ∈ es, Identifier.isPlain e.2.column = true) (plain' : ∀ e ∈ fs, Identifier.isPlain e.2.column = true)
    (same : sortText d es = sortText d fs) : es.map (·.1.name) = fs.map (·.1.name) := by
  have keys := Option.some.inj ((readOrder_sortText plain).symm.trans (same ▸ readOrder_sortText plain'))
  have tables := congrArg (List.map fun k : SortKey => k.table) keys
  rw [List.map_map, List.map_map] at tables
  have named : (es.map (·.1.name)).map some = (fs.map (·.1.name)).map some := by
    rw [List.map_map, List.map_map]
    exact tables
  exact (Option.some_injective _).list_map named

namespace Statement

variable {cfg : Config} {g : JoinGraph}

theorem exists_clamp (cfg : Config) (window : Pagination) : ∃ clamped, (clamp cfg window).result = .ok clamped := by
  unfold clamp
  cases cfg.maxPageSize with
  | none => exact ⟨window, rfl⟩
  | some max =>
    dsimp only
    split <;> exact ⟨window.clamp max, rfl⟩

/-- A joined select with a window of non-negative numbers is written if its order is. -/
theorem joinedSelect_of_ordered {order : OrderBy} {window : Pagination} {ordered : SqlText}
    (valid : window.validate = .ok ()) (written : (orderClause cfg order (some g)).trace.result = .ok ordered) :
    ∃ s paged, (joinedSelect cfg g order window).result = .ok s ∧
      s.text = ("SELECT " ++ g.columnList : String) ++ (g.scope cfg).text ++ ordered ++ paged := by
  obtain ⟨clamped, reduced⟩ := exists_clamp cfg window
  let paged := (window? cfg.dialect clamped).run (g.printScope cfg.dialect).2
  refine ⟨⟨("SELECT " ++ g.columnList : String) ++ (g.scope cfg).text ++ ordered ++ paged.1, paged.2.params,
    (g.scope cfg).predictsEmpty, some (g.scope cfg), clamped⟩, paged.1, ?_, rfl⟩
  unfold joinedSelect
  refine (Traced.result_bind_of_ok valid).trans ?_
  refine (Traced.result_bind_of_ok reduced).trans ?_
  refine (Traced.result_bind_of_ok written).trans ?_
  exact result_logged cfg "joined_select" _

/-- An order is written, as a clause and in a joined select, with the columns of each item named after the node that
it is listed with. -/
def SortsBy (cfg : Config) (g : JoinGraph) (window : Pagination) (entries : List (JoinNode × OrderItem)) : Prop :=
  (orderClause cfg (sortItems entries) (some g)).trace.result = .ok (.raw (sortText cfg.dialect entries)) ∧
  ∃ s paged, (joinedSelect cfg g (sortItems entries) window).result = .ok s ∧
    s.text = ("SELECT " ++ g.columnList : String) ++ (g.scope cfg).text ++ .raw (sortText cfg.dialect entries) ++ paged

variable {entries : List (JoinNode × OrderItem)}

/-- The items of selected nodes are written with the names of the first nodes of their tables. -/
theorem result_orderClause (cfg : Config)
    (listed : ∀ e ∈ entries, e.1 ∈ g.selected ∧ e.2.table = e.1.row.table)
    (declared : ∀ e ∈ entries, (g.firstLike e.1).row.hasColumn e.2.column = true) :
    (orderClause cfg (sortItems entries) (some g)).trace.result =
      .ok (.raw (sortText cfg.dialect (entries.map fun e => (g.firstLike e.1, e.2)))) := by
  have named : ∀ i ∈ (sortItems entries).items, g.orderName i = .ok (g.firstName i) := by
    intro i member
    obtain ⟨e, inside, rfl⟩ := List.mem_map.mp member
    exact JoinGraph.orderName_of_declared (listed e inside).1 (listed e inside).2 (declared e inside)
  have keys : (sortItems entries).keys cfg.dialect g.firstName =
      (entries.map fun e => (g.firstLike e.1, e.2)).map fun e => e.2.key cfg.dialect (some e.1.name) := by
    rw [OrderBy.keys, sortItems, List.map_map, List.map_map]
    exact List.map_congr_left fun e inside =>
      congrArg (e.2.key cfg.dialect) (JoinGraph.firstName_eq (listed e inside).1 (listed e inside).2)
  show ((sortItems entries).clause cfg.dialect g.orderName).trace.result = _
  rw [OrderBy.trace_clause _ named, keys, sortText_eq]

theorem declared_of_orderClause (listed : ∀ e ∈ entries, e.1 ∈ g.selected ∧ e.2.table = e.1.row.table)
    {text : SqlText} (written : (orderClause cfg (sortItems entries) (some g)).trace.result = .ok text) :
    ∀ e ∈ entries, (g.firstLike e.1).row.hasColumn e.2.column = true := by
  intro e member
  obtain ⟨name, done⟩ := OrderBy.named_of_clause written e.2 (List.mem_map_of_mem member)
  exact JoinGraph.declared_of_orderName (listed e member).1 (listed e member).2 done

/-- An order whose columns the first nodes of the tables declare is written with the names of these. -/
theorem sortsBy_firstLike (cfg : Config) {window : Pagination} (valid : window.validate = .ok ())
    (listed : ∀ e ∈ entries, e.1 ∈ g.selected ∧ e.2.table = e.1.row.table)
    (declared : ∀ e ∈ entries, (g.firstLike e.1).row.hasColumn e.2.column = true) :
    SortsBy cfg g window (entries.map fun e => (g.firstLike e.1, e.2)) := by
  have items : sortItems (entries.map fun e => (g.firstLike e.1, e.2)) = sortItems entries := by
    simp [sortItems, Function.comp_def]
  have written := result_orderClause cfg listed declared
  rw [SortsBy, items]
  exact ⟨written, joinedSelect_of_ordered valid written⟩

/-- Columns that are named after the nodes they are listed with are named after the first nodes of their tables. -/
theorem firstLike_of_sortsBy {window : Pagination} (own : SortsBy cfg g window entries)
    (listed : ∀ e ∈ entries, e.1 ∈ g.selected ∧ e.2.table = e.1.row.table)
    (plain : ∀ e ∈ entries, Identifier.isPlain e.2.column = true) :
    ∀ e ∈ entries, (g.firstLike e.1).id = e.1.id := by
  have written := result_orderClause cfg listed (declared_of_orderClause listed own.1)
  have texts : sortText cfg.dialect entries = sortText cfg.dialect (entries.map fun e => (g.firstLike e.1, e.2)) :=
    SqlText.raw_inj.mp (Except.ok.inj (own.1.symm.trans written))
  have plainFirst : ∀ e ∈ entries.map fun e => (g.firstLike e.1, e.2), Identifier.isPlain e.2.column = true :=
    List.forall_mem_map.mpr plain
  have names := names_of_sortText plain plainFirst texts
  intro e member
  rw [List.map_map] at names
  exact (Placed.tableName_injective (List.map_inj_left.mp names e member)).symm

end Statement

theorem JoinPlan.Presents.sorted_selected {p : JoinPlan} {places : List Nat} {g : JoinGraph}
    (presents : p.Presents places g) : g.selected.Pairwise fun n m => n.id < m.id :=
  (JoinGraph.pairwise_nodes presents.numbers).sublist g.selected_sublist

/-- An order of items that are made from declared fields of selected nodes is written exactly if the first selected
node of each table declares the columns. The columns are named after these nodes, so each is named after its own
node exactly if no node before it has the same table. -/
theorem sorts_by_first {p : JoinPlan} {g : JoinGraph} (done : p.build.result = .ok g) :
    (∀ n ∈ g.selected, g.firstLike n ∈ g.selected ∧ (g.firstLike n).row.table = n.row.table ∧
      ∀ m ∈ g.selected, m.row.table = n.row.table → (g.firstLike n).id ≤ m.id) ∧
    ∀ (cfg : Config) (window : Pagination) (entries : List (JoinNode × OrderItem)), window.validate = .ok () →
      (∀ e ∈ entries, e.1 ∈ g.selected ∧ e.2.MadeFrom e.1.row) →
      ((∃ s, (Statement.joinedSelect cfg g (sortItems entries) window).result = .ok s) ↔
        ∀ e ∈ entries, (g.firstLike e.1).row.hasColumn e.2.column = true) ∧
      ((∃ text, (Statement.orderClause cfg (sortItems entries) (some g)).trace.result = .ok text) ↔
        ∀ e ∈ entries, (g.firstLike e.1).row.hasColumn e.2.column = true) ∧
      ((∀ e ∈ entries, (g.firstLike e.1).row.hasColumn e.2.column = true) →
        Statement.SortsBy cfg g window (entries.map fun e => (g.firstLike e.1, e.2))) ∧
      (Statement.SortsBy cfg g window entries ↔ ∀ e ∈ entries, g.firstLike e.1 = e.1) := by
  rw [JoinPlan.result_build] at done
  obtain ⟨places, presents⟩ := JoinPlan.presents_of_graph done
  have well := JoinPlan.exists_graph_iff.mp ⟨g, done⟩
  have inside {n : JoinNode} (selected : n ∈ g.selected) : n ∈ g.nodes := g.selected_sublist.subset selected
  have spec {n : JoinNode} (selected : n ∈ g.selected) := JoinGraph.firstLike_spec presents.sorted_selected selected
  refine ⟨fun n => spec, fun cfg window entries valid made => ?_⟩
  have listed : ∀ e ∈ entries, e.1 ∈ g.selected ∧ e.2.table = e.1.row.table :=
    fun e member => ⟨(made e member).1, (made e member).2.column.1⟩
  have plain : ∀ e ∈ entries, Identifier.isPlain e.2.column = true := by
    intro e member
    obtain ⟨selected, own⟩ := made e member
    exact (RowType.valid_of_validate (well.valid _ (presents.mem_members (inside selected)))).isPlain own.column.2
  refine ⟨⟨?_, fun declared => ?_⟩, ⟨?_, fun declared => ?_⟩, Statement.sortsBy_firstLike cfg valid listed,
    ⟨fun own => ?_, fun first => ?_⟩⟩
  · rintro ⟨s, selected⟩
    obtain ⟨ordered, -, -, written, -⟩ := Statement.eq_of_joinedSelect selected
    exact Statement.declared_of_orderClause listed written
  · have written := Statement.result_orderClause cfg listed declared
    obtain ⟨s, -, selected, -⟩ := Statement.joinedSelect_of_ordered valid written
    exact ⟨s, selected⟩
  · rintro ⟨text, written⟩
    exact Statement.declared_of_orderClause listed written
  · exact ⟨_, Statement.result_orderClause cfg listed declared⟩
  · intro e member
    have selected := (made e member).1
    exact presents.eq_of_id (inside (spec selected).1) (inside selected)
      (Statement.firstLike_of_sortsBy own listed plain e member)
  · have same : (entries.map fun e => (g.firstLike e.1, e.2)) = entries := by
      conv => rhs; rw [← List.map_id entries]
      exact List.map_congr_left fun e member => by rw [first e member]; rfl
    have own := Statement.sortsBy_firstLike cfg valid listed fun e member => by
      rw [first e member]
      exact (made e member).2.column.2
    rwa [same] at own

/-- Orders and the customers that placed them have tables of their own, so each column is named after its node. -/
theorem sorts_by_first_of_customer :
    let customer : RowType := ⟨"Customer", "customers", [⟨"id", "id", false⟩, ⟨"name", "name", false⟩], "id", none, []⟩
    let order : RowType := ⟨"Order", "orders", [⟨"id", "id", false⟩, ⟨"customer_id", "customer_id", false⟩], "id", none,
      [⟨"customer_id", "customers"⟩]⟩
    let p := (JoinPlan.of (Query.all : Query order)).join .inner (⟨"customer_id"⟩ : Field order)
      (Query.all : Query customer)
    let first : JoinNode := ⟨0, order, .empty, none⟩
    let last : JoinNode := ⟨1, customer, .empty, some ⟨0, .inner, ⟨"customer_id", "id"⟩⟩⟩
    let g : JoinGraph := ⟨first, [last]⟩
    p.build.result = .ok g ∧ Statement.SortsBy .standard g .all
      [(last, .of (⟨"name"⟩ : Field customer) .asc), (first, .of (⟨"id"⟩ : Field order) .desc)] := by
  intro customer order p first last g
  have done : p.build.result = .ok g := JoinPlan.build_eq_ok rfl rfl (by decide +kernel) rfl (by decide) rfl
  have selected : g.selected = [first, last] := rfl
  refine ⟨done, ((sorts_by_first done).2 .standard .all _ rfl ?_).2.2.2.mpr ?_⟩
  · refine List.forall_mem_cons.mpr ⟨⟨?_, .of _ _ rfl⟩, List.forall_mem_singleton.mpr ⟨?_, .of _ _ rfl⟩⟩
    · simp [selected]
    · simp [selected]
  · exact List.forall_mem_cons.mpr ⟨rfl, List.forall_mem_singleton.mpr rfl⟩

/-- Employees and their bosses are in one table. An order by the name of the boss is written with the name of the node
of the employee, and an order by a column that only bosses have is refused. -/
theorem order_misses_boss :
    let employee : RowType := ⟨"Employee", "staff", [⟨"id", "id", false⟩, ⟨"name", "name", false⟩,
      ⟨"boss_id", "boss_id", true⟩], "id", none, [⟨"boss_id", "staff"⟩]⟩
    let boss : RowType := ⟨"Boss", "staff", [⟨"id", "id", false⟩, ⟨"name", "name", false⟩, ⟨"title", "title", false⟩],
      "id", none, []⟩
    let p := (JoinPlan.of (Query.all : Query employee)).join .inner (⟨"boss_id"⟩ : Field employee)
      (Query.all : Query boss)
    let first : JoinNode := ⟨0, employee, .empty, none⟩
    let last : JoinNode := ⟨1, boss, .empty, some ⟨0, .inner, ⟨"boss_id", "id"⟩⟩⟩
    let g : JoinGraph := ⟨first, [last]⟩
    let byName := OrderItem.of (⟨"name"⟩ : Field boss) .asc
    let byTitle := OrderItem.of (⟨"title"⟩ : Field boss) .asc
    p.build.result = .ok g ∧ last ∈ g.selected ∧ byName.MadeFrom boss ∧ byTitle.MadeFrom boss ∧
      (Statement.orderClause .standard ⟨[byName]⟩ (some g)).trace.result = .ok (.raw " ORDER BY t0.name ASC") ∧
      (Statement.orderClause .standard ⟨[byTitle]⟩ (some g)).trace.result = .error (.unknownField "staff" "title") ∧
      ¬Statement.SortsBy .standard g .all [(last, byName)] ∧ ¬Statement.SortsBy .standard g .all [(last, byTitle)] := by
  intro employee boss p first last g byName byTitle
  have done : p.build.result = .ok g := JoinPlan.build_eq_ok rfl rfl (by decide +kernel) rfl (by decide) rfl
  have selected : last ∈ g.selected := List.mem_cons_of_mem _ List.mem_cons_self
  have text : sortText .postgres [(first, byName)] = " ORDER BY t0.name ASC" := by decide +kernel
  have named : (Statement.orderClause .standard ⟨[byName]⟩ (some g)).trace.result =
      .ok (.raw " ORDER BY t0.name ASC") := by
    have listed : ∀ e ∈ [(last, byName)], e.1 ∈ g.selected ∧ e.2.table = e.1.row.table :=
      List.forall_mem_singleton.mpr ⟨selected, rfl⟩
    rw [← text]
    exact Statement.result_orderClause _ listed (List.forall_mem_singleton.mpr rfl)
  have refused : (Statement.orderClause .standard ⟨[byTitle]⟩ (some g)).trace.result =
      .error (.unknownField "staff" "title") := rfl
  refine ⟨done, selected, .of _ _ rfl, .of _ _ rfl, named, refused, fun own => ?_, fun own => ?_⟩
  · have texts := SqlText.raw_inj.mp (Except.ok.inj (named.symm.trans own.1))
    exact absurd texts (by decide)
  · cases refused.symm.trans own.1

end Sift
