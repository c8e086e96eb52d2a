import Sift.Dialect
import Sift.Like

/-!
# Missing tables

An error that a database reports comes with the errors that caused it. Whether it
says that a table does not exist is read off the texts of this chain, or off the
SQLSTATE where the driver gives one.
-/
namespace Sift

/-- One error of a chain. A driver's own errors may carry a SQLSTATE. -/
inductive ErrorLink where
  | plain (text : String)
  | driver (text : String) (sqlState : Option String)

namespace ErrorLink

def text : ErrorLink → String
  | .plain text => text
  | .driver text _ => text

/-- The errors of a database server: the driver's error, caused by the server's message. -/
def ofServer (sqlState message : String) : List ErrorLink :=
  [.driver "db error" (some sqlState), .plain ("ERROR: " ++ message)]

/-- The errors of a connection option that the driver does not know. -/
def ofOption (name : String) : List ErrorLink :=
  [.driver "invalid connection string" none, .plain ("unknown option `" ++ name ++ "`")]

end ErrorLink

namespace Dialect

/-- Whether a text occurs in another one. -/
def mentions (text part : String) : Bool := Like.occursIn part.toList text.toList

/-- The SQLSTATE of an undefined table. -/
def undefinedTable : String := "42P01"

/-- Whether the text of an error says that a table is missing. -/
def textSaysMissing (d : Dialect) (text : String) : Bool :=
  match d with
  | .postgres =>
    mentions text undefinedTable || (mentions text "relation" && mentions text "does not exist")
  | .mySql =>
    mentions text "ERROR 1146" || mentions text "1146 (" || mentions text "(1146)"
      || (mentions text "Table '" && mentions text "' doesn't exist")
  | .sqlite => mentions text "no such table"
  | .ansi =>
    let lower := String.ofList (text.toList.map Char.toLower)
    mentions lower "42s02" || (mentions lower "table" && mentions lower "not found")

/-- Whether one error says that a table is missing. The drivers of PostgreSQL errors are asked for
their SQLSTATE and not for their text. -/
def linkSaysMissing (d : Dialect) (e : ErrorLink) : Bool :=
  match d, e with
  | .postgres, .driver _ sqlState => sqlState == some undefinedTable
  | d, e => d.textSaysMissing e.text

/-- Whether a chain of errors, outermost first, says that a table is missing. -/
def isTableMissing (d : Dialect) (chain : List ErrorLink) : Bool := chain.any d.linkSaysMissing

end Dialect
end Sift
