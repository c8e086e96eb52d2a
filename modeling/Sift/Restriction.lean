import Sift.Error

/-!
# Restrictions

A restriction is one predicate on one column, or its negation. Constructors
refuse payloads that no row could be compared with.
-/
namespace Sift

/-- What a restriction says of a column. Lengths count characters. -/
inductive Predicate where
  | equals (v : Value)
  | less (v : Value)
  | lessOrEqual (v : Value)
  | greater (v : Value)
  | greaterOrEqual (v : Value)
  | between (lower upper : Value)
  /-- One of the values; none of an empty list. -/
  | isIn (vs : List Value)
  /-- A pattern with the wildcards `%` and `_`. -/
  | like (pattern : String)
  | contains (needle : String)
  | startsWith (start : String)
  | endsWith (ending : String)
  | isNull
  | isTrue
  | isFalse
  /-- Null or the empty text. -/
  | empty
  | lengthLess (n : Int64)
  | lengthLessOrEqual (n : Int64)
  | lengthGreater (n : Int64)
  | lengthGreaterOrEqual (n : Int64)
  | lengthBetween (lower upper : Int64)
deriving BEq

/-- A predicate or its negation. -/
structure Restriction where
  predicate : Predicate
  negated : Bool
deriving BEq

namespace Predicate

/-- The name of the predicate and the name of its negation. -/
def names : Predicate → String × String
  | .equals _ => ("Equals", "NotEquals")
  | .less _ => ("Less", "NotLess")
  | .lessOrEqual _ => ("LessOrEqual", "NotLessOrEqual")
  | .greater _ => ("Greater", "NotGreater")
  | .greaterOrEqual _ => ("GreaterOrEqual", "NotGreaterOrEqual")
  | .between .. => ("Between", "NotBetween")
  | .isIn _ => ("In", "NotIn")
  | .like _ => ("Like", "NotLike")
  | .contains _ => ("Contains", "NotContains")
  | .startsWith _ => ("StartsWith", "NotStartsWith")
  | .endsWith _ => ("EndsWith", "NotEndsWith")
  | .isNull => ("IsNull", "IsNotNull")
  | .isTrue => ("IsTrue", "IsNotTrue")
  | .isFalse => ("IsFalse", "IsNotFalse")
  | .empty => ("Empty", "NotEmpty")
  | .lengthLess _ => ("StringLengthLess", "NotStringLengthLess")
  | .lengthLessOrEqual _ => ("StringLengthLessOrEqual", "NotStringLengthLessOrEqual")
  | .lengthGreater _ => ("StringLengthGreater", "NotStringLengthGreater")
  | .lengthGreaterOrEqual _ => ("StringLengthGreaterOrEqual", "NotStringLengthGreaterOrEqual")
  | .lengthBetween .. => ("StringLengthBetween", "NotStringLengthBetween")

/-- Whether the predicate has an answer for null too. -/
def isTotal : Predicate → Bool
  | .isNull | .isTrue | .isFalse | .empty => true
  | _ => false

end Predicate

namespace Restriction

/-- The predicate itself. -/
def of (p : Predicate) : Restriction := ⟨p, false⟩

/-- The opposite restriction. -/
def negate (r : Restriction) : Restriction := { r with negated := !r.negated }

/-- The name of the restriction's kind. -/
def kindName (r : Restriction) : String :=
  if r.negated then r.predicate.names.2 else r.predicate.names.1

/-- Whether no row satisfies the restriction: it asks for one of no values. -/
def predictsEmpty (r : Restriction) : Bool :=
  match r.predicate with
  | .isIn [] => !r.negated
  | _ => false

/-- Whether every row satisfies the restriction: it asks for none of no values. -/
def isVacuous (r : Restriction) : Bool :=
  match r.predicate with
  | .isIn [] => r.negated
  | _ => false

/-! ## Constructors -/

/-- Refuses null, which no comparison takes. -/
def requireValue (v : Value) (operation : String) : Except Error Unit :=
  if v.isNull then .error (.argument (.nullOperand operation)) else .ok ()

/-- Refuses a negative length. -/
def requireLength (n : Int64) (operation : String) : Except Error Unit :=
  if n < 0 then .error (.argument (.lengthNegative operation n)) else .ok ()

/-- Equality; equality with null asks for null. -/
def equals (v : Value) : Restriction :=
  match v with
  | .null => of .isNull
  | v => of (.equals v)

def notEquals (v : Value) : Restriction := (equals v).negate

def less (v : Value) : Except Error Restriction := do
  requireValue v "less"
  return of (.less v)

def lessOrEqual (v : Value) : Except Error Restriction := do
  requireValue v "less_or_equal"
  return of (.lessOrEqual v)

def greater (v : Value) : Except Error Restriction := do
  requireValue v "greater"
  return of (.greater v)

def greaterOrEqual (v : Value) : Except Error Restriction := do
  requireValue v "greater_or_equal"
  return of (.greaterOrEqual v)

/-- A closed range. The bounds must be comparable and in order; the order of texts depends on the
collation and is left to the database. -/
def between (lower upper : Value) : Except Error Restriction := do
  requireValue lower "between"
  requireValue upper "between"
  match lower, upper with
  | .text _, .text _ => return of (.between lower upper)
  | _, _ =>
    match lower.compareUncollated? upper with
    | some .gt => throw (.argument (.reversedBetween lower upper))
    | some _ => return of (.between lower upper)
    | none => throw (.argument (.incomparableBetween lower.kind upper.kind))

def notBetween (lower upper : Value) : Except Error Restriction := do
  return (← between lower upper).negate

/-- The first occurrences of the values of a list, after those already seen; null is refused. -/
def distinct : List Value → List Value → Except Error (List Value)
  | seen, [] => .ok seen
  | seen, v :: vs => do
    requireValue v "in_list"
    distinct (if seen.contains v then seen else seen ++ [v]) vs

/-- Membership in a list, whose repeated values are dropped. -/
def isIn (vs : List Value) : Except Error Restriction := do
  return of (.isIn (← distinct [] vs))

def notIn (vs : List Value) : Except Error Restriction := do
  return (← isIn vs).negate

def like (pattern : String) : Restriction := of (.like pattern)

def notLike (pattern : String) : Restriction := (like pattern).negate

def contains (needle : String) : Restriction := of (.contains needle)

def notContains (needle : String) : Restriction := (contains needle).negate

def startsWith (start : String) : Restriction := of (.startsWith start)

def notStartsWith (start : String) : Restriction := (startsWith start).negate

def endsWith (ending : String) : Restriction := of (.endsWith ending)

def notEndsWith (ending : String) : Restriction := (endsWith ending).negate

def isNull : Restriction := of .isNull

def isNotNull : Restriction := isNull.negate

def isTrue : Restriction := of .isTrue

def isFalse : Restriction := of .isFalse

def empty : Restriction := of .empty

def notEmpty : Restriction := empty.negate

/-- Fewer than `n` characters; no text has fewer than none. -/
def lengthLess (n : Int64) : Except Error Restriction :=
  if n ≤ 0 then .error (.argument (.lengthNotPositive "length_less" n))
  else .ok (of (.lengthLess n))

def lengthLessOrEqual (n : Int64) : Except Error Restriction := do
  requireLength n "length_less_or_equal"
  return of (.lengthLessOrEqual n)

def lengthGreater (n : Int64) : Except Error Restriction := do
  requireLength n "length_greater"
  return of (.lengthGreater n)

def lengthGreaterOrEqual (n : Int64) : Except Error Restriction := do
  requireLength n "length_greater_or_equal"
  return of (.lengthGreaterOrEqual n)

/-- From `lower` to `upper` characters. -/
def lengthBetween (lower upper : Int64) : Except Error Restriction := do
  requireLength lower "length_between"
  if upper < lower then throw (.argument (.reversedLength lower upper))
  return of (.lengthBetween lower upper)

end Restriction
end Sift
