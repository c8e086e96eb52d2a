import Sift.Proofs.Join.Walk

/-!
# Well-formed plans

A plan becomes a graph exactly if its references are declared, its row types are valid
and differ from each other, every joined member hangs on one other member, and
following these from any member leads to the root.
-/
namespace Sift

/-! ## Joins -/

namespace Join

/-- The column that a join goes through declares a reference, a column of a source one to the joined
table. -/
def Refers (j : Join) : Prop :=
  match j.attachment with
  | .referredBy source column => ∃ f, source.reference? column = some f ∧ f.target = j.member.row.table
  | .refersBy column => ∃ f, j.member.row.reference? column = some f

/-- The place of the member that a join attaches its own to, which stands at the place `child`: another
member whose row type is the source, or the only other one of the referenced table. -/
def HangsOn (members : List JoinMember) (child parent : Nat) (j : Join) : Prop :=
  match j.attachment with
  | .referredBy source _ => parent ≠ child ∧ ∃ m, members[parent]? = some m ∧ m.row.name = source.name
  | .refersBy column => ∃ f, j.member.row.reference? column = some f ∧
      ∀ i, i = parent ↔ i ≠ child ∧ ∃ m, members[i]? = some m ∧ m.row.table = f.target

theorem check_eq_ok_iff {j : Join} : j.check = .ok () ↔ j.Refers := by
  rw [check, Refers]
  cases j.attachment with
  | referredBy source column =>
    cases declared : source.reference? column with
    | none => simp [declared]
    | some f => by_cases same : f.target = j.member.row.table <;> simp [declared, same]
  | refersBy column => cases declared : j.member.row.reference? column <;> simp [declared]

/-- The places of other members of a table. -/
def candidates (members : List JoinMember) (child : Nat) (table : String) : List Nat :=
  (List.range members.length).filter fun i => i != child && (members[i]?.map (·.row.table)) == some table

theorem mem_candidates {members : List JoinMember} {child i : Nat} {table : String} :
    i ∈ candidates members child table ↔ i ≠ child ∧ ∃ m, members[i]? = some m ∧ m.row.table = table := by
  simp only [candidates, List.mem_filter, List.mem_range, Bool.and_eq_true, bne_iff_ne, beq_iff_eq,
    Option.map_eq_some_iff]
  constructor
  · rintro ⟨-, other, m, there, same⟩
    exact ⟨other, m, there, same⟩
  · rintro ⟨other, m, there, same⟩
    exact ⟨(List.getElem?_eq_some_iff.mp there).1, other, m, there, same⟩

theorem candidates_eq_singleton_iff {members : List JoinMember} {child parent : Nat} {table : String} :
    candidates members child table = [parent] ↔
      ∀ i, i = parent ↔ i ≠ child ∧ ∃ m, members[i]? = some m ∧ m.row.table = table := by
  simp only [← mem_candidates]
  constructor
  · intro only i
    rw [only, List.mem_singleton]
  · intro same
    have distinct : (candidates members child table).Nodup := List.nodup_range.filter _
    refine List.perm_singleton.mp ((List.perm_ext_iff_of_nodup distinct (List.nodup_singleton parent)).mpr ?_)
    intro i
    rw [List.mem_singleton, same]

theorem parentAmong_referredBy {members : List JoinMember} {child : Nat} {j : Join} {source : RowType}
    {column : String} (attached : j.attachment = .referredBy source column) :
    j.parentAmong members child =
      match members.findIdx? fun m => m.row.name == source.name with
      | some i => if i = child then .error (.graph (.selfJoin j.member.row.name)) else .ok i
      | none => .error (.graph (.sourceMissing source.name column)) := by
  simp only [parentAmong, attached]
  cases members.findIdx? fun m => m.row.name == source.name with
  | none => rfl
  | some i =>
    show (if i = child then _ else _) = if i = child then _ else _
    split <;> rfl

theorem parentAmong_refersBy {members : List JoinMember} {child : Nat} {j : Join} {column : String}
    (attached : j.attachment = .refersBy column) :
    let table := ((j.member.row.reference? column).map (·.target)).getD ""
    j.parentAmong members child =
      match candidates members child table with
      | [i] => .ok i
      | [] => .error (.graph (.targetMissing j.member.row.name column table))
      | _ => .error (.graph (.targetAmbiguous j.member.row.name column table)) := by
  intro table
  have other {i : Nat} (member : i ∈ candidates members child table) : i ≠ child := (mem_candidates.mp member).1
  simp only [parentAmong, attached]
  rw [show ((List.range members.length).filter fun i => i != child && (members[i]?.map (·.row.table)) ==
    some (((j.member.row.reference? column).map (·.target)).getD "")) = candidates members child table from rfl]
  generalize candidates members child table = found at *
  obtain _ | ⟨i, _ | ⟨k, rest⟩⟩ := found
  · rfl
  · show (if i = child then _ else _) = _
    rw [if_neg (other List.mem_cons_self)]
    rfl
  · rfl

/-- A join finds the place that it hangs on, and no other. -/
theorem parentAmong_eq_ok_iff {members : List JoinMember} (distinct : (members.map (·.row.name)).Nodup)
    {j : Join} (refers : j.Refers) {child parent : Nat} :
    j.parentAmong members child = .ok parent ↔ j.HangsOn members child parent := by
  rw [HangsOn]
  rw [Refers] at refers
  cases attached : j.attachment with
  | referredBy source column =>
    rw [parentAmong_referredBy attached]
    dsimp only
    constructor
    · intro found
      split at found
      next i index =>
        split at found
        next => cases found
        next other =>
          cases found
          obtain ⟨bound, named, -⟩ := List.findIdx?_eq_some_iff_getElem.mp index
          exact ⟨other, _, List.getElem?_eq_getElem bound, beq_iff_eq.mp named⟩
      next => cases found
    · rintro ⟨other, m, there, named⟩
      obtain ⟨bound, rfl⟩ := List.getElem?_eq_some_iff.mp there
      have index : (members.findIdx? fun m => m.row.name == source.name) = some parent := by
        rw [List.findIdx?_eq_some_iff_getElem]
        refine ⟨bound, by simpa using named, fun i before => ?_⟩
        have differ := List.pairwise_iff_getElem.mp distinct i parent (by simp; omega) (by simpa using bound) before
        rw [List.getElem_map, List.getElem_map, named] at differ
        simpa using differ
      rw [index]
      exact if_neg other
  | refersBy column =>
    rw [attached] at refers
    obtain ⟨f, declared⟩ := refers
    rw [parentAmong_refersBy attached]
    simp only [declared, Option.map_some, Option.getD_some, Option.some.injEq, exists_eq_left',
      ← candidates_eq_singleton_iff]
    generalize candidates members child f.target = found
    match found with
    | [] => simp
    | [i] => simp
    | i :: k :: rest => simp

theorem HangsOn.member {members : List JoinMember} {child parent : Nat} {j : Join}
    (hangs : j.HangsOn members child parent) : ∃ m, members[parent]? = some m := by
  rw [HangsOn] at hangs
  cases attached : j.attachment with
  | referredBy source column =>
    simp only [attached] at hangs
    obtain ⟨-, m, there, -⟩ := hangs
    exact ⟨m, there⟩
  | refersBy column =>
    simp only [attached] at hangs
    obtain ⟨f, -, only⟩ := hangs
    obtain ⟨-, m, there, -⟩ := (only parent).mp rfl
    exact ⟨m, there⟩

end Join

namespace JoinPlan

/-- The place of the member that a joined member hangs on. -/
def HasParent (p : JoinPlan) (i parent : Nat) : Prop :=
  1 ≤ i ∧ ∃ j, p.joins[i - 1]? = some j ∧ j.HangsOn p.members i parent

/-- A plan whose members make up a tree of rows that refer to each other. -/
structure WellFormed (p : JoinPlan) : Prop where
  refers : ∀ j ∈ p.joins, j.Refers
  distinct : (p.members.map (·.row.name)).Nodup
  valid : ∀ m ∈ p.members, m.row.validate = .ok ()
  declared : ∀ m ∈ p.members, ∀ f ∈ m.conditions.fields, m.row.hasColumn f.1 = true
  attached : ∀ i, 1 ≤ i → i < p.members.length → ∃ parent, p.HasParent i parent
  rooted : ∀ i < p.members.length, Relation.ReflTransGen p.HasParent i 0

/-! ## Checks -/

theorem checkDistinct_eq_ok_iff {seen members : List JoinMember} (before : (seen.map (·.row.name)).Nodup) :
    checkDistinct seen members = .ok () ↔ ((seen ++ members).map (·.row.name)).Nodup := by
  induction members generalizing seen with
  | nil => simpa [checkDistinct] using before
  | cons m members ih =>
    rw [checkDistinct]
    cases repeated : seen.find? fun s => s.row.name == m.row.name with
    | some s =>
      have same : s.row.name = m.row.name := by simpa using List.find?_some repeated
      refine iff_of_false (by simp) fun distinct => ?_
      rw [List.map_append, List.nodup_append] at distinct
      exact distinct.2.2 s.row.name (List.mem_map_of_mem (List.mem_of_find?_eq_some repeated)) m.row.name
        (by simp) same
    | none =>
      have fresh : m.row.name ∉ seen.map (·.row.name) := by
        intro member
        obtain ⟨s, there, same⟩ := List.mem_map.mp member
        simpa [same] using List.find?_eq_none.mp repeated s there
      have more : ((seen ++ [m]).map (·.row.name)).Nodup := by
        rw [List.map_append, List.nodup_append]
        refine ⟨before, List.nodup_singleton _, fun a member b single => ?_⟩
        rintro rfl
        rw [List.map_singleton, List.mem_singleton] at single
        exact fresh (single ▸ member)
      show checkDistinct (seen ++ [m]) members = _ ↔ _
      rw [ih more, List.append_assoc, List.singleton_append]

theorem check_conditions_iff {c : Conditions} {r : RowType} :
    c.check r = .ok () ↔ ∀ f ∈ c.fields, r.hasColumn f.1 = true := by
  rw [Conditions.check, forM_ok_iff]
  refine forall₂_congr fun f _ => ?_
  show r.checkColumn f.1 = _ ↔ _
  rw [RowType.checkColumn]
  cases r.hasColumn f.1 <;> simp

/-! ## Edges -/

theorem member_of_parentAmong {members : List JoinMember} {j : Join} {child parent : Nat}
    (found : j.parentAmong members child = .ok parent) : ∃ m, members[parent]? = some m := by
  cases attached : j.attachment with
  | referredBy source column =>
    rw [Join.parentAmong_referredBy attached] at found
    split at found
    next i index =>
      split at found
      next => cases found
      next =>
        cases found
        obtain ⟨bound, -⟩ := List.findIdx?_eq_some_iff_getElem.mp index
        exact ⟨_, List.getElem?_eq_getElem bound⟩
    next => cases found
  | refersBy column =>
    rw [Join.parentAmong_refersBy attached] at found
    split at found
    next only =>
      cases found
      obtain ⟨-, m, there, -⟩ := (Join.candidates_eq_singleton_iff.mp only parent).mp rfl
      exact ⟨m, there⟩
    next => cases found
    next => cases found

/-- The edge of a join whose member stands at a place. -/
def IsEdge (members : List JoinMember) (place : Nat) (j : Join) (e : JoinEdge) : Prop :=
  ∃ parent m, j.parentAmong members place = .ok parent ∧ members[parent]? = some m ∧
    e = ⟨parent, j.kind, j.link m.row⟩

/-- Joins have one edge each, in their order. -/
theorem edgesFrom_eq_ok_iff {members : List JoinMember} {place : Nat} {joins : List Join} {edges : List JoinEdge} :
    edgesFrom members place joins = .ok edges ↔
      List.Forall₂ (fun x e => IsEdge members x.2 x.1 e) (joins.zipIdx place) edges := by
  induction joins generalizing place edges with
  | nil =>
    rw [List.zipIdx_nil, List.forall₂_nil_left_iff, edgesFrom]
    exact ⟨fun done => (Except.ok.inj done).symm, fun none => by rw [none]⟩
  | cons j joins ih =>
    rw [List.zipIdx_cons, edgesFrom]
    constructor
    · intro done
      obtain ⟨parent, found, done⟩ := ok_of_bind done
      obtain ⟨rest, others, done⟩ := ok_of_bind done
      obtain ⟨m, there⟩ := member_of_parentAmong found
      rw [there] at done
      cases done
      exact .cons ⟨parent, m, found, there, rfl⟩ (ih.mp others)
    · rintro (_ | ⟨⟨parent, m, found, there, rfl⟩, others⟩)
      rw [found, ih.mpr others]
      simp only [bind, Except.bind, there]
      rfl

theorem exists_edgesFrom {members : List JoinMember} {place : Nat} {joins : List Join}
    (found : ∀ x ∈ joins.zipIdx place, ∃ parent, x.1.parentAmong members x.2 = .ok parent) :
    ∃ edges, edgesFrom members place joins = .ok edges := by
  simp only [edgesFrom_eq_ok_iff]
  generalize joins.zipIdx place = xs at found
  induction xs with
  | nil => exact ⟨[], .nil⟩
  | cons x xs ih =>
    rw [List.forall_mem_cons] at found
    obtain ⟨⟨parent, first⟩, others⟩ := found
    obtain ⟨m, there⟩ := member_of_parentAmong first
    obtain ⟨edges, rest⟩ := ih others
    exact ⟨_ :: edges, .cons ⟨parent, m, first, there, rfl⟩ rest⟩

section

variable {p : JoinPlan} {edges : List JoinEdge}

theorem length_members (p : JoinPlan) : p.members.length = p.joins.length + 1 := by simp [members]

theorem length_edges (done : edgesFrom p.members 1 p.joins = .ok edges) : edges.length + 1 = p.members.length := by
  have same := (edgesFrom_eq_ok_iff.mp done).length_eq
  rw [List.length_zipIdx] at same
  rw [length_members, same]

/-- The edge of a place is that of its join. -/
theorem edge_iff (done : edgesFrom p.members 1 p.joins = .ok edges) {i : Nat} (below : 1 ≤ i) {e : JoinEdge} :
    edges[i - 1]? = some e ↔ ∃ j, p.joins[i - 1]? = some j ∧ IsEdge p.members i j e := by
  have spec := edgesFrom_eq_ok_iff.mp done
  have same := spec.length_eq
  rw [List.length_zipIdx] at same
  have each (k : Nat) (bound : k < p.joins.length) : IsEdge p.members (k + 1) p.joins[k]
      (edges.get ⟨k, same ▸ bound⟩) := by
    have pair := spec.get (i := k) (by simpa using bound) (same ▸ bound)
    rw [List.get_eq_getElem, List.getElem_zipIdx, Nat.add_comm] at pair
    exact pair
  have each := each (i - 1)
  rw [show i - 1 + 1 = i by omega] at each
  constructor
  · intro edge
    obtain ⟨bound, rfl⟩ := List.getElem?_eq_some_iff.mp edge
    exact ⟨_, List.getElem?_eq_getElem (same ▸ bound), each (same ▸ bound)⟩
  · rintro ⟨j, join, parent, m, found, there, rfl⟩
    obtain ⟨bound, rfl⟩ := List.getElem?_eq_some_iff.mp join
    obtain ⟨parent', m', found', there', edge⟩ := each bound
    rw [found] at found'
    cases found'
    rw [there] at there'
    cases there'
    rw [← edge]
    exact List.getElem?_eq_getElem _

/-- The edges of a plan lead where its joins hang. -/
theorem below_iff (refers : ∀ j ∈ p.joins, j.Refers) (distinct : (p.members.map (·.row.name)).Nodup)
    (done : edgesFrom p.members 1 p.joins = .ok edges) {i parent : Nat} :
    Below edges i parent ↔ p.HasParent i parent := by
  rw [Below, mem_placesBelow, HasParent]
  refine and_congr_right fun below => ?_
  constructor
  · rintro ⟨e, edge, rfl⟩
    obtain ⟨j, join, parent, m, found, there, rfl⟩ := (edge_iff done below).mp edge
    exact ⟨j, join, (Join.parentAmong_eq_ok_iff distinct (refers j (List.mem_of_getElem? join))).mp found⟩
  · rintro ⟨j, join, hangs⟩
    obtain ⟨m, there⟩ := hangs.member
    have found := (Join.parentAmong_eq_ok_iff distinct (refers j (List.mem_of_getElem? join))).mpr hangs
    exact ⟨_, (edge_iff done below).mpr ⟨j, join, parent, m, found, there, rfl⟩, rfl⟩

end

/-! ## Graphs -/

/-- The graph whose nodes stand for the places of an order. -/
def numberedBy (p : JoinPlan) (order : List Nat) (edges : List JoinEdge) : JoinGraph :=
  ⟨nodeAt order edges 0 p.root, (order.drop 1).filterMap fun i => p.members[i]?.map (nodeAt order edges i)⟩

theorem graph_eq_ok_iff {p : JoinPlan} {g : JoinGraph} : p.graph = .ok g ↔
    (∀ j ∈ p.joins, j.check = .ok ()) ∧ checkDistinct [] p.members = .ok () ∧
    (∀ m ∈ p.members, m.row.validate = .ok () ∧ m.conditions.check m.row = .ok ()) ∧
    ∃ edges, edgesFrom p.members 1 p.joins = .ok edges ∧
      (∀ i < p.members.length, i ∈ layers edges p.members.length [0]) ∧
      g = p.numberedBy (layers edges p.members.length [0]) edges := by
  have valid_iff : (p.members.forM fun m => do m.row.validate; m.conditions.check m.row) = .ok () ↔
      ∀ m ∈ p.members, m.row.validate = .ok () ∧ m.conditions.check m.row = .ok () := by
    rw [forM_ok_iff]
    refine forall₂_congr fun m _ => ?_
    cases m.row.validate with
    | error e => simp [bind, Except.bind]
    | ok => simp [bind, Except.bind]
  have missed_iff (order : List Nat) : ((List.range p.members.length).filter fun i => !order.contains i).isEmpty = true ↔
      ∀ i < p.members.length, i ∈ order := by
    simp
  unfold graph
  constructor
  · intro done
    obtain ⟨_, joins, done⟩ := ok_of_bind done
    obtain ⟨_, distinct, done⟩ := ok_of_bind done
    obtain ⟨_, members, done⟩ := ok_of_bind done
    obtain ⟨edges, found, done⟩ := ok_of_bind done
    obtain ⟨whole, done⟩ := ok_of_guard done
    refine ⟨forM_ok_iff.mp joins, distinct, valid_iff.mp members, edges, found, ?_, (Except.ok.inj done).symm⟩
    exact (missed_iff _).mp (by simpa using whole)
  · rintro ⟨joins, distinct, members, edges, found, whole, rfl⟩
    rw [forM_ok_iff.mpr joins]
    show (checkDistinct [] p.members >>= _) = _
    rw [distinct]
    show ((p.members.forM fun m => do m.row.validate; m.conditions.check m.row) >>= _) = _
    rw [valid_iff.mpr members]
    show (edgesFrom p.members 1 p.joins >>= _) = _
    rw [found]
    show (if _ then _ else _) = _
    rw [(missed_iff _).mpr whole]
    rfl

/-- A plan becomes a graph exactly if it is well-formed. -/
theorem exists_graph_iff {p : JoinPlan} : (∃ g, p.graph = .ok g) ↔ p.WellFormed := by
  have names (distinct : checkDistinct [] p.members = .ok ()) : (p.members.map (·.row.name)).Nodup :=
    (checkDistinct_eq_ok_iff (by simp)).mp distinct
  simp only [graph_eq_ok_iff, Join.check_eq_ok_iff, check_conditions_iff]
  constructor
  · rintro ⟨g, refers, distinct, valid, edges, done, whole, -⟩
    have distinct := names distinct
    have order : layers edges p.members.length [0] = walkOrder edges := by rw [walkOrder, length_edges done]
    have leads {i : Nat} (inside : i < p.members.length) : Relation.ReflTransGen p.HasParent i 0 := by
      have path := mem_walkOrder_iff.mp (order ▸ whole i inside)
      exact Relation.ReflTransGen.mono (fun _ _ => (below_iff refers distinct done).mp) _ _ path
    refine ⟨refers, distinct, fun m there => (valid m there).1, fun m there => (valid m there).2, ?_, fun i => leads⟩
    intro i below inside
    rcases (leads inside).cases_head with rfl | ⟨parent, hangs, -⟩
    · omega
    · exact ⟨parent, hangs⟩
  · intro well
    have found : ∀ x ∈ p.joins.zipIdx 1, ∃ parent, x.1.parentAmong p.members x.2 = .ok parent := by
      rintro ⟨j, i⟩ member
      obtain ⟨below, join⟩ := List.mem_zipIdx_iff_le_and_getElem?_sub.mp member
      have inside := (List.getElem?_eq_some_iff.mp join).1
      obtain ⟨parent, -, j', join', hangs⟩ := well.attached i below (by rw [length_members]; omega)
      rw [join] at join'
      cases join'
      exact ⟨parent, (Join.parentAmong_eq_ok_iff well.distinct (well.refers j (List.mem_of_getElem? join))).mpr hangs⟩
    obtain ⟨edges, done⟩ := exists_edgesFrom found
    have order : layers edges p.members.length [0] = walkOrder edges := by rw [walkOrder, length_edges done]
    refine ⟨_, well.refers, ?_, fun m there => ⟨well.valid m there, well.declared m there⟩, edges, done, ?_, rfl⟩
    · exact (checkDistinct_eq_ok_iff (by simp)).mpr well.distinct
    · intro i inside
      rw [order, mem_walkOrder_iff]
      exact Relation.ReflTransGen.mono (fun _ _ => (below_iff well.refers well.distinct done).mpr)
        _ _ (well.rooted i inside)

end JoinPlan
end Sift
