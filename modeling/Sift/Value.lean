import Sift.Calendar
import Sift.Json
import Sift.Uuid

/-!
# Values

A value is what a column holds, what a restriction compares with and what a
statement binds. Equality is structural: floats are equal when their bits are,
documents when they are the same document. Values of one kind are ordered, integers
and floats among each other too; null, documents, NaN and values of different kinds
are not.
-/
namespace Sift

inductive Value where
  | null
  | bool (b : Bool)
  | int (i : Int64)
  | float (x : Double)
  | text (s : String)
  | uuid (u : Uuid)
  | timestamp (t : Timestamp)
  | date (d : Date)
  | json (j : Json)

/-- The nine kinds of values. -/
inductive Kind where
  | null
  | bool
  | int
  | float
  | text
  | uuid
  | timestamp
  | date
  | json
deriving DecidableEq

/-- The name of a kind in messages. -/
def Kind.name : Kind → String
  | .null => "null"
  | .bool => "bool"
  | .int => "int"
  | .float => "float"
  | .text => "text"
  | .uuid => "uuid"
  | .timestamp => "timestamp"
  | .date => "date"
  | .json => "json"

namespace Value

def kind : Value → Kind
  | .null => .null
  | .bool _ => .bool
  | .int _ => .int
  | .float _ => .float
  | .text _ => .text
  | .uuid _ => .uuid
  | .timestamp _ => .timestamp
  | .date _ => .date
  | .json _ => .json

def isNull : Value → Bool
  | .null => true
  | _ => false

/-- The characters of a text. -/
def text? : Value → Option String
  | .text s => some s
  | _ => none

/-- Structural equality. Values of different kinds differ, `1` and `1.0` too. -/
def same : Value → Value → Bool
  | .null, .null => true
  | .bool a, .bool b => a == b
  | .int i, .int j => i == j
  | .float x, .float y => x.bits == y.bits
  | .text s, .text t => s == t
  | .uuid u, .uuid v => u.bits == v.bits
  | .timestamp s, .timestamp t => s.second == t.second && s.nano == t.nano
  | .date d, .date e => d.day == e.day
  | .json x, .json y => x == y
  | _, _ => false

instance : BEq Value := ⟨same⟩

/-- A missing value is null. -/
def ofOption : Option Value → Value := (·.getD .null)

/-! ## Order -/

/-- The order of two values, if they have one. An integer is rounded to a double before it is
compared with a float. -/
def compare? : Value → Value → Option Ordering
  | .bool a, .bool b => some (compare a b)
  | .int i, .int j => some (compare i.toInt j.toInt)
  | .float x, .float y => x.compare? y
  | .int i, .float y => (Double.ofInt i.toInt).compare? y
  | .float x, .int j => x.compare? (Double.ofInt j.toInt)
  | .text s, .text t => some (compare s t)
  | .uuid u, .uuid v => some (compare u.bits.toNat v.bits.toNat)
  | .timestamp s, .timestamp t => some (s.compare t)
  | .date d, .date e => some (compare d.day e.day)
  | _, _ => none

/-- The order that holds under every collation: that of two values neither of which is a text. -/
def compareUncollated? (a b : Value) : Option Ordering :=
  match a, b with
  | .text _, _ => none
  | _, .text _ => none
  | a, b => a.compare? b

/-- Equality as a condition tests it: by the order if there is one, else structural. -/
def equals (a b : Value) : Bool :=
  match a.compare? b with
  | some o => o.isEq
  | none => a == b

end Value
end Sift
