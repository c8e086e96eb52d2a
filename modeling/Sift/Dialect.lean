import Sift.Identifier
import Sift.Sql.Text

/-!
# Dialects

The points at which databases differ: placeholders, the quotes of collations, the
placement of nulls, the window of a select and the length of a text.
-/
namespace Sift

inductive Dialect where
  | postgres
  | mySql
  | sqlite
  | ansi
deriving DecidableEq

/-- Where an order puts nulls. -/
inductive NullPlacement where
  | first
  | last
deriving DecidableEq

def NullPlacement.text : NullPlacement → String
  | .first => "NULLS FIRST"
  | .last => "NULLS LAST"

namespace Dialect

/-- The name of a dialect in messages. -/
def name : Dialect → String
  | .postgres => "Postgres"
  | .mySql => "MySql"
  | .sqlite => "Sqlite"
  | .ansi => "Ansi"

def placeholderStyle : Dialect → PlaceholderStyle
  | .postgres => .dollar
  | _ => .question

/-- The quote around a collation. -/
def collationQuote : Dialect → Char
  | .mySql => '\x60'
  | _ => '\x22'

/-- What follows a column that is compared by a collation. -/
def collation (d : Dialect) (name : String) : String :=
  " COLLATE " ++ Identifier.quote d.collationQuote name

/-- Whether an order can place nulls. -/
def placesNulls : Dialect → Bool
  | .mySql => false
  | _ => true

/-- What follows a direction that places nulls. -/
def nulls (d : Dialect) (p : NullPlacement) : String :=
  if d.placesNulls then " " ++ p.text else ""

/-- The function that counts the characters of a text. -/
def lengthFunction : Dialect → String
  | .sqlite => "LENGTH"
  | _ => "CHAR_LENGTH"

/-- The limit that stands before an offset where the dialect asks for one. -/
def unlimited : Dialect → String
  | .mySql => " LIMIT 18446744073709551615"
  | .sqlite => " LIMIT -1"
  | _ => ""

/-- The end of a select that shows a window, with the slots of its limit and offset. -/
def window (d : Dialect) (limit offset : Option SqlText) : SqlText :=
  match d with
  | .ansi =>
    let skip : SqlText :=
      match offset with
      | some o => " OFFSET " ++ o ++ " ROWS"
      | none => .empty
    match limit with
    | some l =>
      skip ++ (if offset.isSome then " FETCH NEXT " else " FETCH FIRST ") ++ l ++ " ROWS ONLY"
    | none => skip
  | d =>
    let skip : SqlText :=
      match offset with
      | some o => " OFFSET " ++ o
      | none => .empty
    match limit with
    | some l => " LIMIT " ++ l ++ skip
    | none => if offset.isSome then d.unlimited ++ skip else .empty

end Dialect
end Sift
