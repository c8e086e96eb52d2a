import Sift.Error

/-!
# Identifiers

Tables and columns are written as plain identifiers, which need no quotes in any
dialect. Other names, such as collations, are quoted, and a quote inside is
written twice.
-/
namespace Sift.Identifier

/-- A letter or underscore of the ASCII range. -/
def isHead (c : Char) : Bool := c = '_' || c.isAlpha

/-- What may follow the first character. -/
def isTail (c : Char) : Bool := c = '_' || c.isAlphanum

/-- `[A-Za-z_][A-Za-z0-9_]*`. -/
def isPlain (s : String) : Bool :=
  match s.toList with
  | [] => false
  | c :: cs => isHead c && cs.all isTail

/-- Refuses a name that is not plain; `what` says what it names. -/
def checkPlain (s what : String) : Except Error Unit :=
  if s.isEmpty then .error (.identifier (.empty what))
  else if isPlain s then .ok ()
  else .error (.identifier (.malformed what s))

/-- Refuses a name that cannot be quoted. -/
def checkQuoted (s what : String) : Except Error Unit :=
  if s.isEmpty then .error (.identifier (.empty what))
  else if s.toList.contains '\x00' then .error (.identifier (.nul what))
  else .ok ()

/-- The characters of a quoted name between its quotes. -/
def escapeQuote (quote : Char) (cs : List Char) : List Char :=
  cs.flatMap fun c => if c = quote then [quote, quote] else [c]

/-- The name between quotes. -/
def quote (q : Char) (s : String) : String :=
  String.ofList (q :: escapeQuote q s.toList ++ [q])

/-- A column after the name its table has in the statement, if it has one. -/
def qualified (table : Option String) (column : String) : String :=
  match table with
  | some t => t ++ "." ++ column
  | none => column

/-- The label of a selected column in a joined result. -/
def label (table column : String) : String := table ++ "__" ++ column

end Sift.Identifier
