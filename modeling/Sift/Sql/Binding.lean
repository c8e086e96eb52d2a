import Sift.Sql.Text

/-!
# Binding parameters

Parameters are numbered through a statement, and a parameter's name is what it
belongs to with its number, so names do not repeat.
-/
namespace Sift

/-- The count of names handed out. -/
structure Naming where
  issued : Nat

namespace Naming

def start : Naming := ⟨0⟩

/-- The next name for a base. -/
def next (n : Naming) (base : String) : String × Naming :=
  (base ++ "_" ++ toString (n.issued + 1), ⟨n.issued + 1⟩)

end Naming

/-- The parameters that a statement has bound so far. -/
structure Binding where
  naming : Naming
  params : Params

namespace Binding

def start : Binding := ⟨.start, .empty⟩

end Binding

/-- An action that binds parameters. -/
abbrev Binder := StateM Binding

/-- Binds a value under a fresh name and gives the name. -/
def bindName (base : String) (v : Value) : Binder String := fun b =>
  let (name, naming) := b.naming.next base
  (name, ⟨naming, b.params.insert name v⟩)

/-- Binds a value under a fresh name and gives its slot. -/
def bindSlot (base : String) (v : Value) : Binder SqlText := do
  return .slot (← bindName base v)

/-- Binds values in order and gives their slots. -/
def bindSlots (base : String) : List Value → Binder (List SqlText)
  | [] => return []
  | v :: vs => do
    let s ← bindSlot base v
    let ss ← bindSlots base vs
    return s :: ss

end Sift
