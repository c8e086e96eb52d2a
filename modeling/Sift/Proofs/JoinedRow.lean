import Sift.JoinedRow
import Sift.Proofs.Join.Numbering
import Sift.Proofs.Join.Placement
import Sift.Proofs.Statement.Parameters

/-!
# Splitting joined rows

The labels of a joined select tell the table and the column of every value, whatever the
columns are called, so that a row can be split by row type even if its values come in
another order and among others.
-/
namespace Sift

/-! ## Labels -/

namespace Identifier

theorem eq_of_append_mark {α : Type} {mark : α} {front front' back back' : List α} (absent : mark ∉ front)
    (absent' : mark ∉ front') (same : front ++ mark :: back = front' ++ mark :: back') :
    front = front' ∧ back = back' := by
  induction front generalizing front' with
  | nil =>
    cases front' with
    | nil => exact ⟨rfl, (List.cons.inj same).2⟩
    | cons x xs => exact absurd (by rw [← (List.cons.inj same).1]; exact List.mem_cons_self) absent'
  | cons x xs ih =>
    cases front' with
    | nil => exact absurd (by rw [(List.cons.inj same).1]; exact List.mem_cons_self) absent
    | cons y ys =>
      obtain ⟨first, rest⟩ := List.cons.inj same
      obtain ⟨fronts, backs⟩ := ih (fun m => absent (List.mem_cons_of_mem _ m))
        (fun m => absent' (List.mem_cons_of_mem _ m)) rest
      exact ⟨by rw [first, fronts], backs⟩

theorem mark_notMem_tableName (i : Nat) : '_' ∉ (tableName i).toList := by
  rw [tableName, String.toList_append, show (toString i).toList = Nat.toDigits 10 i from Nat.toList_repr]
  intro member
  rcases List.mem_append.mp member with first | digit
  · exact absurd first (by decide)
  · exact Nat.underscore_not_in_toDigits digit

/-- A label tells its table and its column: the name of a table ends at the first underscore. -/
theorem label_injective {i j : Nat} {c d : String} (same : label (tableName i) c = label (tableName j) d) :
    i = j ∧ c = d := by
  have chars := congrArg String.toList same
  simp only [label, String.toList_append, List.append_assoc] at chars
  obtain ⟨table, column⟩ := eq_of_append_mark (mark_notMem_tableName i) (mark_notMem_tableName j) chars
  exact ⟨Placed.tableName_injective (String.toList_inj.mp table),
    String.toList_inj.mp (List.cons.inj column).2⟩

end Identifier

/-! ## Entries of records -/

namespace NamedValues

/-- A name whose entries all have one value has this value. -/
theorem lookup_eq_of_forall {entries : List (String × Value)} {name : String} {v : Value}
    (there : (name, v) ∈ entries) (only : ∀ w, (name, w) ∈ entries → w = v) : entries.lookup name = some v := by
  induction entries with
  | nil => cases there
  | cons e rest ih =>
    rw [lookup_cons_eq]
    by_cases same : name = e.1
    · rw [if_pos same, only e.2 (same ▸ List.mem_cons_self)]
    · rw [if_neg same]
      rcases List.mem_cons.mp there with first | later
      · exact absurd (congrArg Prod.fst first) same
      · exact ih later fun w member => only w (List.mem_cons_of_mem _ member)

theorem lookup_map (f : String → Value) {names : List String} {name : String} (member : name ∈ names) :
    (names.map fun n => (n, f n)).lookup name = some (f name) := by
  refine lookup_eq_of_forall (List.mem_map.mpr ⟨name, member, rfl⟩) fun w found => ?_
  obtain ⟨n, -, same⟩ := List.mem_map.mp found
  cases same
  rfl

/-- An entry that is there already is not changed by inserting it again. -/
theorem insertEntry_of_mem (f : String → Value) {names : List String} {name : String} (member : name ∈ names) :
    insertEntry name (f name) (names.map fun n => (n, f n)) = names.map fun n => (n, f n) := by
  induction names with
  | nil => cases member
  | cons n rest ih =>
    rw [List.map_cons, insertEntry]
    by_cases same : name = n
    · rw [if_pos same, same]
    · rw [if_neg same, ih ((List.mem_cons.mp member).resolve_left same)]

theorem insertAll_map (f : String → Value) (known names : List String) :
    (insertAll ⟨known.map fun n => (n, f n)⟩ (names.map fun n => (n, f n))).entries =
      (known ++ (names.filter fun n => n ∉ known).eraseDups).map fun n => (n, f n) := by
  induction names generalizing known with
  | nil => simp [insertAll]
  | cons name rest ih =>
    show (insertAll ⟨insertEntry name (f name) _⟩ (rest.map fun n => (n, f n))).entries = _
    by_cases member : name ∈ known
    · rw [insertEntry_of_mem f member, ih, List.filter_cons_of_neg (by simpa using member)]
    · have new : name ∉ (known.map fun n => (n, f n)).map (·.1) := by simpa [Function.comp_def] using member
      have skipped : (fun n => decide (n ∉ known ++ [name])) = fun n => !n == name && decide (n ∉ known) := by
        funext n
        by_cases same : n = name <;> simp [same]
      have next := ih (known ++ [name])
      rw [List.map_append, List.map_singleton, skipped] at next
      rw [insertEntry_of_notMem _ new, next, List.filter_cons_of_pos (by simpa using member), List.eraseDups_cons,
        List.filter_filter, List.append_assoc, List.singleton_append]

/-- A record of the values of names has an entry for each of them, in the order of their first occurrence. -/
theorem ofList_map (f : String → Value) (names : List String) :
    ofList (names.map fun n => (n, f n)) = ⟨names.eraseDups.map fun n => (n, f n)⟩ := by
  have entries := insertAll_map f [] names
  rw [List.filter_eq_self.mpr (by simp), List.nil_append] at entries
  rw [ofList, ← entries]
  rfl

end NamedValues

/-! ## Records of nodes -/

/-- The values of the columns of a node as a record. A column that is listed twice has one entry. -/
def JoinNode.recordOf (n : JoinNode) (value : Nat → String → Value) : Record :=
  ⟨((n.row.columns.map (·.name)).eraseDups).map fun c => (c, value n.id c)⟩

theorem JoinNode.valueOf_recordOf {n : JoinNode} {value : Nat → String → Value} {c : Column}
    (declared : c ∈ n.row.columns) : (n.recordOf value).valueOf c.name = value n.id c.name := by
  have listed : c.name ∈ (n.row.columns.map (·.name)).eraseDups :=
    List.mem_eraseDups.mpr (List.mem_map_of_mem declared)
  rw [NamedValues.valueOf, NamedValues.get?, recordOf, NamedValues.lookup_map _ listed]
  rfl

/-- The values of the selected columns, each with the label of its column, in the order of the select. -/
def JoinGraph.labelled (g : JoinGraph) (value : Nat → String → Value) : List (String × Value) :=
  g.selected.flatMap fun n => n.row.columns.map fun c => (Identifier.label n.name c.name, value n.id c.name)

namespace JoinedRow

theorem record_eq_ok {n : JoinNode} {value : Nat → String → Value} {read : String → Except Error Value}
    (reads : ∀ c ∈ n.row.columns, read (Identifier.label n.name c.name) = .ok (value n.id c.name)) :
    record read n = .ok (n.recordOf value) := by
  have entries : (n.row.columns.mapM fun c => do
      return (c.name, ← read (Identifier.label n.name c.name))) =
        .ok (n.row.columns.map fun c => (c.name, value n.id c.name)) :=
    mapM_eq_ok fun c member => by rw [reads c member]; rfl
  have listed := NamedValues.ofList_map (value n.id) (n.row.columns.map (·.name))
  rw [List.map_map] at listed
  unfold record
  rw [entries]
  show Except.ok (NamedValues.ofList _) = _
  rw [JoinNode.recordOf, ← listed]
  rfl

/-- A row in which every label of a node has a value is split into the records of these values. -/
theorem split_eq_ok {g : JoinGraph} {value : Nat → String → Value} {read : String → Except Error Value}
    (reads : ∀ n ∈ g.selected, ∀ c ∈ n.row.columns,
      read (Identifier.label n.name c.name) = .ok (value n.id c.name)) :
    split g read = .ok ⟨g.selected.map fun n =>
      (n, if isAbsent n (n.recordOf value) then none else some (n.recordOf value))⟩ := by
  unfold split
  rw [mapM_eq_ok fun n member => by rw [record_eq_ok (reads n member)]; rfl]
  rfl

theorem find?_eq_some {α : Type} {xs : List α} {test : α → Bool} {x : α} (there : x ∈ xs) (passes : test x = true)
    (only : ∀ y ∈ xs, test y = true → y = x) : xs.find? test = some x := by
  cases found : xs.find? test with
  | none => exact absurd passes (List.find?_eq_none.mp found x there)
  | some y => rw [only y (List.mem_of_find?_eq_some found) (List.find?_some found)]

end JoinedRow

/-! ## Nodes of built graphs -/

namespace JoinPlan

variable {p : JoinPlan} {g : JoinGraph}

theorem Presents.eq_of_id {places : List Nat} (presents : p.Presents places g) {n m : JoinNode}
    (first : n ∈ g.nodes) (second : m ∈ g.nodes) (same : n.id = m.id) : n = m :=
  presents.numbered.eq_of_id first second same

/-- The nodes of a graph have different row types. -/
theorem Presents.eq_of_row {places : List Nat} (presents : p.Presents places g)
    (distinct : (p.members.map (·.row.name)).Nodup) {n m : JoinNode} (first : n ∈ g.nodes) (second : m ∈ g.nodes)
    (same : n.row.name = m.row.name) : n = m := by
  obtain ⟨k, bound, rfl⟩ := List.getElem_of_mem first
  obtain ⟨l, bound', rfl⟩ := List.getElem_of_mem second
  have length := presents.members.length_eq
  have place := presents.member (List.getElem?_eq_getElem bound) (List.getElem?_eq_getElem (length ▸ bound))
  have place' := presents.member (List.getElem?_eq_getElem bound') (List.getElem?_eq_getElem (length ▸ bound'))
  have listed : (p.members.map (·.row.name))[places[k]]? = (p.members.map (·.row.name))[places[l]]? := by
    rw [List.getElem?_map, List.getElem?_map, place, place', Option.map_some, Option.map_some, same]
  have inside : places[k] < (p.members.map (·.row.name)).length := by
    rw [List.length_map]
    exact (List.getElem?_eq_some_iff.mp place).1
  have places_nodup : places.Nodup := presents.once.nodup_iff.mpr List.nodup_range
  obtain rfl := places_nodup.getElem_inj_iff.mp ((List.getElem?_inj inside distinct).mp listed)
  rfl

/-- A node that is not the root hangs on another one. -/
theorem Presents.isSome_edge_iff {places : List Nat} (presents : p.Presents places g) {n : JoinNode}
    (member : n ∈ g.nodes) : n.edge.isSome = true ↔ n.id ≠ 0 := by
  have zero : g.root.id = 0 := ((JoinGraph.getElem?_nodes_iff presents.numbers (i := 0)).mp rfl).2
  rcases List.mem_cons.mp member with rfl | joined
  · simp [presents.root.2, zero]
  · obtain ⟨e, edge, above, -⟩ := presents.edges n joined
    simp only [edge, Option.isSome_some, true_iff]
    omega

end JoinPlan

/-- What a split row says of a graph whose columns have given values: a selected node has the record of its
values unless its identifier is null, and the root has it in any case. A row type has the record of its node. -/
structure JoinedRow.Reads (row : JoinedRow) (g : JoinGraph) (value : Nat → String → Value) : Prop where
  selected : ∀ n ∈ g.nodes, g.isSelected n.id = true → row.getNode? n.id =
    if n.id ≠ 0 ∧ (value n.id n.row.id).isNull = true then none else some (n.recordOf value)
  other : ∀ id, g.isSelected id = false → row.getNode? id = none
  rowType : ∀ r : RowType, row.get? r = (g.nodeOf? r).bind fun n => row.getNode? n.id

namespace JoinGraph

variable {g : JoinGraph} {value : Nat → String → Value}

theorem mem_labelled {e : String × Value} : e ∈ g.labelled value ↔ ∃ n ∈ g.selected, ∃ c ∈ n.row.columns,
    e = (Identifier.label n.name c.name, value n.id c.name) := by
  simp only [labelled, List.mem_flatMap, List.mem_map, eq_comm]

/-- Every label of a select is read as its value, in whatever order and among whatever others the values come. -/
theorem lookup_labelled {values others : List (String × Value)} (perm : values.Perm (g.labelled value ++ others))
    (apart : ∀ e ∈ others, e.1 ∉ (g.labelled value).map (·.1)) {n : JoinNode} (selected : n ∈ g.selected)
    {c : Column} (listed : c ∈ n.row.columns) :
    values.lookup (Identifier.label n.name c.name) = some (value n.id c.name) := by
  have own : (Identifier.label n.name c.name, value n.id c.name) ∈ g.labelled value :=
    mem_labelled.mpr ⟨n, selected, c, listed, rfl⟩
  refine NamedValues.lookup_eq_of_forall (perm.mem_iff.mpr (List.mem_append_left _ own)) fun w found => ?_
  rcases List.mem_append.mp (perm.mem_iff.mp found) with inside | outside
  · obtain ⟨m, -, d, -, same⟩ := mem_labelled.mp inside
    obtain ⟨label, rfl⟩ := Prod.mk.inj same
    obtain ⟨id, column⟩ := Identifier.label_injective label
    rw [id, column]
  · exact (apart _ outside (List.mem_map.mpr ⟨_, own, rfl⟩)).elim

theorem mem_selected_of_isSelected {p : JoinPlan} {places : List Nat} (presents : p.Presents places g)
    {n : JoinNode} (member : n ∈ g.nodes) (chosen : g.isSelected n.id = true) : n ∈ g.selected := by
  obtain ⟨m, selected, same⟩ := List.any_eq_true.mp chosen
  have id : m.id = n.id := beq_iff_eq.mp same
  exact presents.eq_of_id (g.selected_sublist.subset selected) member id ▸ selected

end JoinGraph

namespace JoinedRow

variable {g : JoinGraph} {records : JoinNode → Option Record}

theorem getNode?_map (id : Nat) : (JoinedRow.mk (g.selected.map fun n => (n, records n))).getNode? id =
    (g.selected.find? fun n => n.id == id).bind records := by
  rw [getNode?, List.find?_map]
  cases found : g.selected.find? fun n => n.id == id <;> simp [found]

theorem get?_map (r : RowType) : (JoinedRow.mk (g.selected.map fun n => (n, records n))).get? r =
    (g.selected.find? fun n => n.row.name == r.name).bind records := by
  rw [get?, List.find?_map]
  cases found : g.selected.find? fun n => n.row.name == r.name <;> simp [found]

/-- The record of a row type is that of its node, as row types have different nodes. -/
theorem get?_eq_getNode? {p : JoinPlan} {places : List Nat} (presents : p.Presents places g)
    (distinct : (p.members.map (·.row.name)).Nodup) (r : RowType) :
    (JoinedRow.mk (g.selected.map fun n => (n, records n))).get? r =
      (g.nodeOf? r).bind fun n => (JoinedRow.mk (g.selected.map fun n => (n, records n))).getNode? n.id := by
  have inside {m : JoinNode} (selected : m ∈ g.selected) : m ∈ g.nodes := g.selected_sublist.subset selected
  rw [get?_map]
  cases found : g.nodeOf? r with
  | none =>
    have nowhere := List.find?_eq_none.mp found
    rw [List.find?_eq_none.mpr fun m selected => nowhere m (inside selected)]
    rfl
  | some n =>
    have member : n ∈ g.nodes := List.mem_of_find?_eq_some found
    have row : n.row.name = r.name := by simpa using List.find?_some found
    rw [Option.bind_some, getNode?_map]
    have sameRow : ∀ m ∈ g.selected, (m.row.name == r.name) = true → m = n := fun m selected same =>
      presents.eq_of_row distinct (inside selected) member ((beq_iff_eq.mp same).trans row.symm)
    have sameId : ∀ m ∈ g.selected, (m.id == n.id) = true → m = n := fun m selected same =>
      presents.eq_of_id (inside selected) member (beq_iff_eq.mp same)
    by_cases chosen : n ∈ g.selected
    · rw [find?_eq_some chosen (by simpa using row) sameRow, find?_eq_some chosen (by simp) sameId]
    · rw [List.find?_eq_none.mpr fun m selected same => chosen (sameRow m selected same ▸ selected),
        List.find?_eq_none.mpr fun m selected same => chosen (sameId m selected same ▸ selected)]

/-- The row that is split from the values of a graph. -/
theorem reads_map {p : JoinPlan} {places : List Nat} (presents : p.Presents places g) (well : p.WellFormed)
    (value : Nat → String → Value) :
    (JoinedRow.mk (g.selected.map fun n =>
      (n, if isAbsent n (n.recordOf value) then none else some (n.recordOf value)))).Reads g value := by
  refine ⟨fun n member chosen => ?_, fun id unchosen => ?_, get?_eq_getNode? presents well.distinct⟩
  · have selected := JoinGraph.mem_selected_of_isSelected presents member chosen
    have only : ∀ m ∈ g.selected, (m.id == n.id) = true → m = n := fun m there same =>
      presents.eq_of_id (g.selected_sublist.subset there) member (beq_iff_eq.mp same)
    have valid := RowType.valid_of_validate (well.valid _ (presents.mem_members member))
    obtain ⟨c, declared, named⟩ := RowType.hasColumn_iff.mp valid.id
    have absent : isAbsent n (n.recordOf value) = true ↔ n.id ≠ 0 ∧ (value n.id n.row.id).isNull = true := by
      rw [isAbsent, Bool.and_eq_true, presents.isSome_edge_iff member, ← named, JoinNode.valueOf_recordOf declared]
    rw [getNode?_map, find?_eq_some selected (by simp) only, Option.bind_some]
    simp only [absent]
  · have nowhere := List.any_eq_false.mp unchosen
    rw [getNode?_map, List.find?_eq_none.mpr nowhere]
    rfl

end JoinedRow

/-- The values of a joined select, by the labels that it writes, split into the records of its nodes. The labels
of different columns differ, so the values may come in any order and among others. -/
theorem splits_labelled {p : JoinPlan} {g : JoinGraph} (done : p.build.result = .ok g)
    (value : Nat → String → Value) :
    (∀ n ∈ g.nodes, ∀ m ∈ g.nodes, ∀ c d : String,
      Identifier.label n.name c = Identifier.label m.name d → n = m ∧ c = d) ∧
    (∀ cfg order window s, (Statement.joinedSelect cfg g order window).result = .ok s →
      ∃ ordered paged, s.text = ("SELECT " ++ ", ".intercalate (g.selected.flatMap fun n => n.row.columns.map fun c =>
        Identifier.qualified (some n.name) c.name ++ " AS " ++ Identifier.label n.name c.name) : String) ++
          (g.scope cfg).text ++ ordered ++ paged) ∧
    ∀ values others, values.Perm (g.labelled value ++ others) →
      (∀ e ∈ others, e.1 ∉ (g.labelled value).map (·.1)) →
      ∃ row, JoinedRow.ofValues g values = .ok row ∧ row.Reads g value := by
  rw [JoinPlan.result_build] at done
  obtain ⟨places, presents⟩ := JoinPlan.presents_of_graph done
  refine ⟨fun n first m second c d same => ?_, fun cfg order window s selected => ?_,
    fun values others perm apart => ?_⟩
  · obtain ⟨id, column⟩ := Identifier.label_injective same
    exact ⟨presents.eq_of_id first second id, column⟩
  · obtain ⟨ordered, clamped, -, -, rfl⟩ := Statement.eq_of_joinedSelect selected
    exact ⟨ordered, _, rfl⟩
  · refine ⟨_, JoinedRow.split_eq_ok fun n selected c listed => ?_,
      JoinedRow.reads_map presents (JoinPlan.exists_graph_iff.mp ⟨g, done⟩) value⟩
    rw [JoinGraph.lookup_labelled perm apart selected listed]
    rfl

/-- An order without a shipment, whose values come in reverse and after another one. A column that starts with an
underscore has a label with three of them. -/
theorem splits_labelled_of_order :
    let shipment : RowType := ⟨"Shipment", "shipments", [⟨"id", "id", false⟩], "id", none, []⟩
    let order : RowType := ⟨"Order", "orders", [⟨"id", "id", false⟩, ⟨"shipment", "_shipment", true⟩], "id", none,
      [⟨"_shipment", "shipments"⟩]⟩
    let p := (JoinPlan.of (Query.all : Query order)).join .left (⟨"_shipment"⟩ : Field order)
      (Query.all : Query shipment)
    let g : JoinGraph := ⟨⟨0, order, .empty, none⟩, [⟨1, shipment, .empty, some ⟨0, .left, ⟨"_shipment", "id"⟩⟩⟩]⟩
    p.build.result = .ok g ∧ ∃ row,
      JoinedRow.ofValues g [("t1__", .int 5), ("t1__id", .null), ("t0___shipment", .int 3), ("t0__id", .int 1)] =
        .ok row ∧
      row.getNode? 0 = some ⟨[("id", .int 1), ("_shipment", .int 3)]⟩ ∧ row.get? shipment = none := by
  intro shipment order p g
  have done : p.build.result = .ok g := JoinPlan.build_eq_ok rfl rfl (by decide +kernel) rfl (by decide) rfl
  let value (id : Nat) (column : String) : Value :=
    if id = 1 then .null else if column = "id" then .int 1 else .int 3
  obtain ⟨-, -, splits⟩ := splits_labelled done value
  have labelled : g.labelled value = [("t0__id", .int 1), ("t0___shipment", .int 3), ("t1__id", .null)] := by
    have labels : Identifier.label (tableName 0) "id" = "t0__id" ∧
        Identifier.label (tableName 0) "_shipment" = "t0___shipment" ∧
        Identifier.label (tableName 1) "id" = "t1__id" := by decide +kernel
    rw [← labels.1, ← labels.2.1, ← labels.2.2]
    rfl
  obtain ⟨row, split, reads⟩ := splits _ [("t1__", .int 5)] (List.reverse_perm _) (by rw [labelled]; decide)
  rw [labelled] at split
  refine ⟨done, row, split, ?_, ?_⟩
  · rw [reads.selected g.root List.mem_cons_self rfl, if_neg (by decide)]
    rfl
  · rw [reads.rowType]
    have missing := reads.selected ⟨1, shipment, .empty, some ⟨0, .left, ⟨"_shipment", "id"⟩⟩⟩
      (List.mem_cons_of_mem _ List.mem_cons_self) rfl
    exact missing.trans (if_pos (by decide))

end Sift
