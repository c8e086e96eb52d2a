import Sift.Error

/-!
# Named values

A map from names to values that keeps the order in which names were first
inserted. It holds the parameters of a statement and the columns of a record.
-/
namespace Sift

structure NamedValues where
  entries : List (String × Value)

namespace NamedValues

def empty : NamedValues := ⟨[]⟩

instance : Inhabited NamedValues := ⟨empty⟩

def isEmpty (m : NamedValues) : Bool := m.entries.isEmpty

def size (m : NamedValues) : Nat := m.entries.length

/-- The names in the order of their first insertion. -/
def names (m : NamedValues) : List String := m.entries.map (·.1)

def get? (m : NamedValues) (name : String) : Option Value := m.entries.lookup name

def contains (m : NamedValues) (name : String) : Bool := (m.get? name).isSome

/-- Sets an entry in place, or appends one for a new name. -/
def insertEntry (name : String) (value : Value) : List (String × Value) → List (String × Value)
  | [] => [(name, value)]
  | (n, v) :: rest =>
    if name = n then (n, value) :: rest else (n, v) :: insertEntry name value rest

/-- Sets the value of a name. A known name keeps its place. -/
def insert (m : NamedValues) (name : String) (value : Value) : NamedValues :=
  ⟨insertEntry name value m.entries⟩

/-- Inserts entries in order. -/
def insertAll (m : NamedValues) (entries : List (String × Value)) : NamedValues :=
  entries.foldl (fun m (n, v) => m.insert n v) m

def ofList (entries : List (String × Value)) : NamedValues := empty.insertAll entries

/-- Inserts the entries of another map in its order. -/
def extend (m other : NamedValues) : NamedValues := m.insertAll other.entries

instance : BEq NamedValues := ⟨fun m n => m.entries == n.entries⟩

end NamedValues

/-- The parameters bound by a statement. -/
abbrev Params := NamedValues

end Sift
