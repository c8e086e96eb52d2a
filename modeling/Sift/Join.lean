import Sift.Query

/-!
# Joins

A join attaches the rows of one type to the rows of another through a declared
reference, so the equality that links them is never restated. A plan is a root
query and the joins around it, in any order.
-/
namespace Sift

inductive JoinKind where
  /-- The rows of both sides that are linked. -/
  | inner
  /-- Every row of the parent, with a linked row or none. -/
  | left
  /-- The rows of the parent that have a linked row. -/
  | semi
  /-- The rows of the parent that have no linked row. -/
  | anti
deriving DecidableEq

namespace JoinKind

/-- Whether the joined table is a table of the result and not only of a condition. -/
def isPhysical : JoinKind → Bool
  | .inner | .left => true
  | .semi | .anti => false

/-- Whether a row of the parent needs a linked row. -/
def isRequired : JoinKind → Bool
  | .inner | .semi => true
  | .left | .anti => false

end JoinKind

/-- A row type of a join and the conditions on its rows. -/
structure JoinMember where
  row : RowType
  conditions : Conditions

def JoinMember.of {r : RowType} (q : Query r) : JoinMember := ⟨r, q.conditions⟩

/-- How a member is attached. -/
inductive Attachment where
  /-- A column of `source`, which is another member, refers to the rows of the member. -/
  | referredBy (source : RowType) (column : String)
  /-- A column of the member refers to the rows of another one. -/
  | refersBy (column : String)

structure Join where
  kind : JoinKind
  member : JoinMember
  attachment : Attachment

structure JoinPlan where
  root : JoinMember
  joins : List Join

namespace JoinPlan

/-- The plan of a query by itself. -/
def of {r : RowType} (q : Query r) : JoinPlan := ⟨.of q, []⟩

/-- Joins the rows that a field of `s` refers to. -/
def join {s t : RowType} (p : JoinPlan) (kind : JoinKind) (via : Field s) (q : Query t) :
    JoinPlan :=
  { p with joins := p.joins ++ [⟨kind, .of q, .referredBy s via.column⟩] }

/-- Joins the rows whose field refers to rows of the plan. -/
def joinReferring {t : RowType} (p : JoinPlan) (kind : JoinKind) (q : Query t) (via : Field t) :
    JoinPlan :=
  { p with joins := p.joins ++ [⟨kind, .of q, .refersBy via.column⟩] }

/-- The members, the root first and the others in the order of their joins. -/
def members (p : JoinPlan) : List JoinMember := p.root :: p.joins.map (·.member)

end JoinPlan
end Sift
