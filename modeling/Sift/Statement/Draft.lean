import Sift.Statement.Joined

/-!
# Drafts

A statement that is written clause by clause. Its clauses share one binding, so the
names of their parameters differ.
-/
namespace Sift

structure Draft where
  binding : Binding
  conditions : List SqlText
  text : SqlText

namespace Draft

def start : Draft := ⟨.start, [], .empty⟩

def push (d : Draft) (t : SqlText) : Draft := { d with text := d.text ++ t }

/-- Binds a value under a fresh name and gives the name. -/
def bind (d : Draft) (base : String) (v : Value) : String × Draft :=
  let (name, b) := (bindName base v).run d.binding
  (name, { d with binding := b })

/-- Appends the conditions of a query on a table that has a given name in the statement, and says
whether there are any. -/
def restrict {r : RowType} (d : Draft) (cfg : Config) (q : Query r) (name : Option String) :
    Except Error (Bool × Draft) := do
  r.validate
  q.conditions.check r
  let (cs, b) := (Condition.printAll cfg.dialect (q.conditions.compile r name)).run d.binding
  return (!cs.isEmpty, { d with binding := b, conditions := d.conditions ++ cs })

/-- Appends the FROM of a scope. -/
def pushSource (d : Draft) (s : Scope) : Draft := d.push (" FROM " ++ s.source)

/-- Appends an order over one table or a graph. Of an order that fails, the text before the failure
is appended. -/
def pushOrder (d : Draft) (cfg : Config) (order : OrderBy) (g : Option JoinGraph) :
    Traced Unit × Draft :=
  let c := Statement.orderClause cfg order g
  (do let _ ← c.trace, d.push c.text)

end Draft
end Sift
