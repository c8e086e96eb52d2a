import Sift.Proofs.Sql.Parsing

/-!
# Scopes and sites

A selection is a scope, and so is every subquery in it: the source introduces tables, and
the conditions are about these and about those of the scopes around. Where a condition
stands is told by the first table of its scope or of the group that is joined.
-/
namespace Sift

/-! ## Sites -/

/-- Where a condition stands in a statement. -/
inductive Site where
  /-- In the WHERE of the scope whose first table has a name. -/
  | whereOf (first : String)
  /-- In the ON of a join to a table or a group, which starts with a name. -/
  | onOf (outer : Bool) (first : String)
deriving DecidableEq

/-- The name of the first table. -/
def Source.first : Source → String
  | .table t => t.name.getD t.table
  | .join _ left _ _ _ => left.first
termination_by structural s => s

section

variable {α : Type} (table : TableRef → List α) (condition : Site → Condition → List α)

mutual

/-- What is gathered from the tables and conditions of a source in the order of the text, those of
subqueries included. -/
def Source.collect : Source → List α
  | .table t => table t
  | .join outer left right _ conditions =>
    left.collect ++ (right.collect ++ Condition.collectAll (.onOf outer right.first) conditions)
termination_by structural s => s

def Condition.collect (site : Site) : Condition → List α
  | .never => condition site .never
  | .test orNull c t => condition site (.test orNull c t)
  | .subquery negated source link conditions => condition site (.subquery negated source link conditions) ++
    (source.collect ++ Condition.collectAll (.whereOf source.first) conditions)
termination_by structural c => c

def Condition.collectAll (site : Site) : List Condition → List α
  | [] => []
  | c :: cs => c.collect site ++ Condition.collectAll site cs
termination_by structural cs => cs

end

/-- What is gathered from a whole scope. -/
def Selection.collect (s : Selection) : List α :=
  s.source.collect table condition ++ Condition.collectAll table condition (.whereOf s.source.first) s.conditions

end

/-- The tables that a scope and the scopes in it introduce. -/
def Selection.tables (s : Selection) : List TableRef := s.collect (fun t => [t]) fun _ _ => []

/-- The conditions of a scope and the scopes in it, each with its site. -/
def Selection.sited (s : Selection) : List (Site × Condition) :=
  s.collect (fun _ => []) fun site c => [(site, c)]

section

variable {α : Type} {table : TableRef → List α} {condition : Site → Condition → List α}

theorem Condition.collectAll_append (site : Site) (cs ds : List Condition) :
    collectAll table condition site (cs ++ ds) =
      collectAll table condition site cs ++ collectAll table condition site ds := by
  induction cs with
  | nil => rfl
  | cons c cs ih => rw [List.cons_append, collectAll, collectAll, ih, List.append_assoc]

theorem Condition.collectAll_flatMap {β : Type} (site : Site) (f : β → List Condition) (xs : List β) :
    collectAll table condition site (xs.flatMap f) = xs.flatMap fun x => collectAll table condition site (f x) := by
  induction xs with
  | nil => rfl
  | cons x xs ih => rw [List.flatMap_cons, List.flatMap_cons, collectAll_append, ih]

/-- Whether a condition is a scope of its own. -/
def Condition.isSubquery : Condition → Bool
  | .subquery .. => true
  | _ => false

theorem Condition.collectAll_plain (site : Site) {cs : List Condition} (plain : ∀ c ∈ cs, c.isSubquery = false) :
    collectAll table condition site cs = cs.flatMap (condition site) := by
  induction cs with
  | nil => rfl
  | cons c cs ih =>
    rw [List.forall_mem_cons] at plain
    rw [collectAll, List.flatMap_cons, ih plain.2]
    congr 1
    cases c with
    | never => rfl
    | test => rfl
    | subquery => cases plain.1

theorem Condition.collect_subquery (site : Site) (negated : Bool) (s : Selection) (link : Link) :
    (Condition.subquery negated s.source link s.conditions).collect table condition site =
      condition site (.subquery negated s.source link s.conditions) ++ s.collect table condition := by
  rw [Condition.collect]
  rfl

end

/-! ## Scopes -/

/-- The column of a table that has one of some names. -/
def ColumnRef.In (names : List String) (c : ColumnRef) : Prop := ∃ n ∈ names, c.table = some n

mutual

/-- The joins of a source are about tables that they join; only their conditions may also be about tables of
the scopes around, whose names are given. -/
def Source.Scoped (around : List String) : Source → Prop
  | .table _ => True
  | .join _ left right link conditions => left.Scoped around ∧ right.Scoped around ∧
    link.parent.In left.from_.names ∧ link.child.In right.from_.names ∧
    Condition.AllScoped (around ++ (left.from_.names ++ right.from_.names)) conditions
termination_by structural s => s

/-- A condition is about tables of given names. A subquery is linked to one of them, and its conditions may
also be about the tables that it introduces. -/
def Condition.Scoped (names : List String) : Condition → Prop
  | .never => True
  | .test _ c _ => c.In names
  | .subquery _ source link conditions => source.Scoped names ∧ link.parent.In names ∧
    link.child.In source.from_.names ∧ Condition.AllScoped (names ++ source.from_.names) conditions
termination_by structural c => c

def Condition.AllScoped (names : List String) : List Condition → Prop
  | [] => True
  | c :: cs => c.Scoped names ∧ Condition.AllScoped names cs
termination_by structural cs => cs

end

/-- The conditions of a scope are about tables of its source and of the scopes around. -/
structure Selection.Scoped (around : List String) (s : Selection) : Prop where
  source : s.source.Scoped around
  conditions : Condition.AllScoped (around ++ s.source.from_.names) s.conditions

theorem Condition.allScoped_iff {names : List String} {cs : List Condition} :
    AllScoped names cs ↔ ∀ c ∈ cs, c.Scoped names := by
  induction cs with
  | nil => simp [AllScoped]
  | cons c cs ih => rw [AllScoped, ih, List.forall_mem_cons]

theorem ColumnRef.in_of_name {names : List String} {n : String} (member : n ∈ names) (column : String) :
    (⟨some n, column⟩ : ColumnRef).In names := ⟨n, member, rfl⟩

end Sift
