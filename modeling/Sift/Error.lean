import Sift.Json.Text
import Sift.Value.FieldType
import Sift.Value.Shown

/-!
# Errors

Why an operation refuses its input, as causes. `Error.message` is the one place
that words them.
-/
namespace Sift

/-- Why the payload of a filter does not fit its operation. -/
inductive PayloadError where
  | text (got : Json)
  | items (count : Nat) (got : Json)
  | integer (got : Json)
  | list (got : Json)

/-- An argument that a restriction, an order, a page or a statement does not take. -/
inductive ArgumentError where
  | nullOperand (operation : String)
  | reversedBetween (lower upper : Value)
  | incomparableBetween (lower upper : Kind)
  | lengthNotPositive (operation : String) (n : Int64)
  | lengthNegative (operation : String) (n : Int64)
  | reversedLength (lower upper : Int64)
  | list (got : Json)
  | payload (field operation : String) (cause : PayloadError)
  | unboundParameter (name : String)
  | foreignOrder (rows table column : String)
  | unselectedOrder (table column : String)
  | page (n : Int64)
  | perPage (n : Int64)
  | pageOverflow (page perPage : Int64)
  | limit (n : Int64)
  | offset (n : Int64)

/-- A name that cannot stand in a statement, or row metadata that does not hold together. -/
inductive IdentifierError where
  | empty (what : String)
  | malformed (what name : String)
  | nul (what : String)
  | noColumns (table : String)
  | foreignId (column table : String)
  | foreignModifiedAt (column table : String)
  | foreignReference (column table : String)
  | tableTaken (table : String)

/-- Why row types do not join. Row types are named, columns qualified by their table. -/
inductive GraphError where
  | otherTarget (table column target wanted : String)
  | noReference (table column : String)
  | joinedTwice (row table : String)
  | sourceMissing (row column : String)
  | targetMissing (row column table : String)
  | targetAmbiguous (row column table : String)
  | selfJoin (row : String)
  | unreachable (root : String) (rows : List String)
  | unregisteredTarget (table column target : String)

/-- A statement that does not exist for the input. -/
inductive UnsupportedError where
  | noModifiedAt (table : String)
  | noScope

/-- A fetched column that cannot be read. -/
inductive DriverError where
  | noColumn (label : String)
  | undecodable (position : Nat)

inductive Error where
  | argument (cause : ArgumentError)
  | identifier (cause : IdentifierError)
  | unknownField (table field : String)
  | graph (cause : GraphError)
  | unsupported (cause : UnsupportedError)
  | decode (column : String) (cause : Mismatch)
  | driver (cause : DriverError)

/-- A 64-bit integer in decimal. -/
def int64Text (n : Int64) : String := toString n.toInt

/-- What a list payload that is no array is answered with. -/
def notAListMessage (got : Json) : String := "expected an array of values, got " ++ got.text

def PayloadError.message : PayloadError → String
  | .text got => "expected a string, got " ++ got.text
  | .items count got =>
    "expected an array of " ++ toString count ++ " values, got " ++ got.text
  | .integer got => "expected an integer, got " ++ got.text
  | .list got => "Invalid argument: " ++ notAListMessage got

def ArgumentError.message : ArgumentError → String
  | .nullOperand operation =>
    operation ++ " requires a non-null value (use is_null for NULL checks)"
  | .reversedBetween lower upper =>
    "between requires lower <= upper, got " ++ lower.shown ++ " > " ++ upper.shown
  | .incomparableBetween lower upper =>
    "between bounds are not comparable: " ++ lower.name ++ " and " ++ upper.name
  | .lengthNotPositive operation n =>
    operation ++ " requires a positive bound, got " ++ int64Text n
  | .lengthNegative operation n =>
    operation ++ " requires a non-negative bound, got " ++ int64Text n
  | .reversedLength lower upper =>
    "length_between requires lower <= upper, got " ++ int64Text lower ++ " > " ++ int64Text upper
  | .list got => notAListMessage got
  | .payload field operation cause =>
    "filter '" ++ field ++ "' (" ++ operation ++ "): " ++ cause.message
  | .unboundParameter name => "parameter '" ++ name ++ "' is not bound"
  | .foreignOrder rows table column =>
    "cannot order '" ++ rows ++ "' rows by '" ++ table ++ "." ++ column ++ "'"
  | .unselectedOrder table column =>
    "cannot order by '" ++ table ++ "." ++ column ++ "': table is not selected by the join"
  | .page n => "page must be >= 1, got " ++ int64Text n
  | .perPage n => "per_page must be >= 1, got " ++ int64Text n
  | .pageOverflow n size => "page " ++ int64Text n ++ " x " ++ int64Text size ++ " overflows"
  | .limit n => "limit must be >= 0, got " ++ int64Text n
  | .offset n => "offset must be >= 0, got " ++ int64Text n

def IdentifierError.message : IdentifierError → String
  | .empty what => what ++ " is empty"
  | .malformed what name =>
    what ++ " '" ++ name ++ "' is not a valid identifier (expected [A-Za-z_][A-Za-z0-9_]*)"
  | .nul what => what ++ " cannot contain NUL character"
  | .noColumns table => "table '" ++ table ++ "' declares no columns"
  | .foreignId column table => "id column '" ++ column ++ "' is not a column of '" ++ table ++ "'"
  | .foreignModifiedAt column table =>
    "modified-at column '" ++ column ++ "' is not a column of '" ++ table ++ "'"
  | .foreignReference column table =>
    "reference column '" ++ column ++ "' is not a column of '" ++ table ++ "'"
  | .tableTaken table => "table '" ++ table ++ "' is registered by two row types"

def GraphError.message : GraphError → String
  | .otherTarget table column target wanted =>
    "'" ++ table ++ "." ++ column ++ "' references '" ++ target ++ "', not '" ++ wanted ++ "'"
  | .noReference table column => "'" ++ table ++ "." ++ column ++ "' declares no reference"
  | .joinedTwice row table =>
    "row type " ++ row ++ " is joined twice (alias collision on '" ++ table ++ "')"
  | .sourceMissing row column =>
    "join via " ++ row ++ "." ++ column ++ " but " ++ row ++ " is not part of the graph"
  | .targetMissing row column table =>
    row ++ "." ++ column ++ " references '" ++ table ++ "' which is not part of the graph"
  | .targetAmbiguous row column table =>
    row ++ "." ++ column ++ " references '" ++ table ++ "' which appears more than once"
  | .selfJoin row => row ++ " cannot be joined to itself"
  | .unreachable root rows =>
    "not reachable from the root " ++ root ++ ": " ++ ", ".intercalate rows
  | .unregisteredTarget table column target =>
    "'" ++ table ++ "." ++ column ++ "' references unregistered table '" ++ target ++ "'"

def UnsupportedError.message : UnsupportedError → String
  | .noModifiedAt table => "'" ++ table ++ "' has no modification timestamp column"
  | .noScope => "statement has no FROM/WHERE scope to count"

def DriverError.message : DriverError → String
  | .noColumn label => "invalid column `" ++ label ++ "`"
  | .undecodable position => "error deserializing column " ++ toString position

/-- The text of an error. -/
def Error.message : Error → String
  | .argument cause => "Invalid argument: " ++ cause.message
  | .identifier cause => "Invalid identifier: " ++ cause.message
  | .unknownField table field => "Unknown field '" ++ field ++ "' on '" ++ table ++ "'"
  | .graph cause => "Join graph error: " ++ cause.message
  | .unsupported cause => "Unsupported: " ++ cause.message
  | .decode column cause => "Decode error on column '" ++ column ++ "': " ++ cause.message
  | .driver cause => "Database error: " ++ cause.message

end Sift
