import Sift.Restriction
import Sift.Value.OfJson

/-!
# Filters

A filter comes from a request: it names a field and an operation and carries a
JSON payload. Which column it restricts is decided by the row type.
-/
namespace Sift

/-- The operations of filters. -/
inductive FilterOp where
  | eq
  | ne
  | lt
  | lte
  | gt
  | gte
  | between
  | isIn
  | notIn
  | like
  | contains
  | startsWith
  | endsWith
  | isNull
  | isNotNull
  | isTrue
  | isFalse
  | empty
  | notEmpty
  | lengthLt
  | lengthLte
  | lengthGt
  | lengthGte
  | lengthBetween
deriving DecidableEq

namespace FilterOp

/-- All operations, in the order in which messages list them. -/
def all : List FilterOp :=
  [.eq, .ne, .lt, .lte, .gt, .gte, .between, .isIn, .notIn, .like, .contains, .startsWith,
    .endsWith, .isNull, .isNotNull, .isTrue, .isFalse, .empty, .notEmpty, .lengthLt, .lengthLte,
    .lengthGt, .lengthGte, .lengthBetween]

/-- The name of an operation in a request. -/
def name : FilterOp → String
  | .eq => "eq"
  | .ne => "ne"
  | .lt => "lt"
  | .lte => "lte"
  | .gt => "gt"
  | .gte => "gte"
  | .between => "between"
  | .isIn => "in"
  | .notIn => "not_in"
  | .like => "like"
  | .contains => "contains"
  | .startsWith => "starts_with"
  | .endsWith => "ends_with"
  | .isNull => "is_null"
  | .isNotNull => "is_not_null"
  | .isTrue => "is_true"
  | .isFalse => "is_false"
  | .empty => "empty"
  | .notEmpty => "not_empty"
  | .lengthLt => "length_lt"
  | .lengthLte => "length_lte"
  | .lengthGt => "length_gt"
  | .lengthGte => "length_gte"
  | .lengthBetween => "length_between"

/-- The name of an operation in messages. -/
def title : FilterOp → String
  | .eq => "Eq"
  | .ne => "Ne"
  | .lt => "Lt"
  | .lte => "Lte"
  | .gt => "Gt"
  | .gte => "Gte"
  | .between => "Between"
  | .isIn => "In"
  | .notIn => "NotIn"
  | .like => "Like"
  | .contains => "Contains"
  | .startsWith => "StartsWith"
  | .endsWith => "EndsWith"
  | .isNull => "IsNull"
  | .isNotNull => "IsNotNull"
  | .isTrue => "IsTrue"
  | .isFalse => "IsFalse"
  | .empty => "Empty"
  | .notEmpty => "NotEmpty"
  | .lengthLt => "LengthLt"
  | .lengthLte => "LengthLte"
  | .lengthGt => "LengthGt"
  | .lengthGte => "LengthGte"
  | .lengthBetween => "LengthBetween"

def ofName? (name : String) : Option FilterOp := all.find? fun op => op.name == name

end FilterOp

structure Filter where
  field : String
  op : FilterOp
  value : Json
  /-- Whether the restriction is negated. -/
  not : Bool
deriving BEq

/-- The values of an array; any other document is refused. -/
def Value.listOfJson (j : Json) : Except Error (List Value) :=
  match Value.listOfJson? j with
  | some vs => .ok vs
  | none => .error (.argument (.list j))

namespace Filter

def of (field : String) (op : FilterOp) (value : Json) : Filter := ⟨field, op, value, false⟩

def negate (f : Filter) : Filter := { f with not := !f.not }

/-- The error for a payload that does not fit the operation. -/
def refuse (f : Filter) (cause : PayloadError) : Error :=
  .argument (.payload f.field f.op.title cause)

/-- The payload as one value. -/
def scalar (f : Filter) : Value := .ofJson f.value

/-- The payload as a text. -/
def text (f : Filter) : Except Error String :=
  match f.value with
  | .str s => .ok s
  | other => .error (f.refuse (.text other))

/-- The payload as a list of values. -/
def list (f : Filter) : Except Error (List Value) :=
  match Value.listOfJson? f.value with
  | some vs => .ok vs
  | none => .error (f.refuse (.list f.value))

/-- The payload as two documents. -/
def pair (f : Filter) : Except Error (Json × Json) :=
  match f.value with
  | .arr [a, b] => .ok (a, b)
  | other => .error (f.refuse (.items 2 other))

/-- A document as an integer. -/
def integer (f : Filter) (j : Json) : Except Error Int64 :=
  match j.int64? with
  | some i => .ok i
  | none => .error (f.refuse (.integer j))

/-- The restriction of the operation, before negation. -/
def positive (f : Filter) : Except Error Restriction :=
  match f.op with
  | .eq => .ok (.equals f.scalar)
  | .ne => .ok (.notEquals f.scalar)
  | .lt => Restriction.less f.scalar
  | .lte => Restriction.lessOrEqual f.scalar
  | .gt => Restriction.greater f.scalar
  | .gte => Restriction.greaterOrEqual f.scalar
  | .between => do
    let (lower, upper) ← f.pair
    Restriction.between (.ofJson lower) (.ofJson upper)
  | .isIn => do Restriction.isIn (← f.list)
  | .notIn => do Restriction.notIn (← f.list)
  | .like => f.text.map .like
  | .contains => f.text.map .contains
  | .startsWith => f.text.map .startsWith
  | .endsWith => f.text.map .endsWith
  | .isNull => .ok .isNull
  | .isNotNull => .ok .isNotNull
  | .isTrue => .ok .isTrue
  | .isFalse => .ok .isFalse
  | .empty => .ok .empty
  | .notEmpty => .ok .notEmpty
  | .lengthLt => do Restriction.lengthLess (← f.integer f.value)
  | .lengthLte => do Restriction.lengthLessOrEqual (← f.integer f.value)
  | .lengthGt => do Restriction.lengthGreater (← f.integer f.value)
  | .lengthGte => do Restriction.lengthGreaterOrEqual (← f.integer f.value)
  | .lengthBetween => do
    let (lower, upper) ← f.pair
    Restriction.lengthBetween (← f.integer lower) (← f.integer upper)

/-- The restriction that the filter describes. -/
def toRestriction (f : Filter) : Except Error Restriction :=
  f.positive.map fun r => if f.not then r.negate else r

end Filter
end Sift
