import Sift.Proofs.Sql.Meaning
import Sift.Sql.Text

/-!
# Reading SQL

SQL text is read in two steps. Its characters and slots become tokens, where a slot
stands for the value of its parameter; tokens become expressions and sources by
recursive descent. Keywords are known by where they stand, so a column can have the
name of one.
-/
namespace Sift.Sql

/-! ## Tokens -/

inductive Token where
  /-- A run of letters, digits and underscores. -/
  | word (s : String)
  /-- Any other character. -/
  | mark (c : Char)
  /-- A text between single quotes. -/
  | quoted (s : String)
  /-- The value of a parameter. -/
  | value (v : Value)
  /-- A slot without a value, or a quote that is not closed. -/
  | malformed

/-- A character or the name of a slot. -/
inductive Symbol where
  | char (c : Char)
  | slot (name : String)

/-- The characters of a string. -/
def symbols (s : String) : List Symbol := s.toList.map .char

end Sql

/-- The characters and slots of a text in their order. -/
def SqlText.symbols (t : SqlText) : List Sql.Symbol :=
  Sql.symbols t.head ++ t.slots.flatMap fun s => .slot s.1 :: Sql.symbols s.2

namespace Sql

/-- Where a reader of tokens is: after the characters of a word that may go on, or between quotes. -/
inductive Place where
  | word (cs : List Char)
  | quote (cs : List Char)

/-- The token of a finished word. -/
def finished : List Char → List Token
  | [] => []
  | c :: cs => [.word (String.ofList (c :: cs))]

/-- The tokens that end with a symbol, and the place after it. -/
def step (params : Params) : Place → Symbol → List Token × Place
  | .word cs, .char c =>
    if Identifier.isTail c then ([], .word (cs ++ [c]))
    else if c = ' ' then (finished cs, .word [])
    else if c = '\'' then (finished cs, .quote [])
    else (finished cs ++ [.mark c], .word [])
  | .word cs, .slot name =>
    (finished cs ++ [match params.get? name with | some v => .value v | none => .malformed], .word [])
  | .quote cs, .char c =>
    if c = '\'' then ([.quoted (String.ofList cs)], .word []) else ([], .quote (cs ++ [c]))
  | .quote cs, .slot _ => ([.malformed], .quote cs)

/-- The tokens of symbols from a place on. -/
def tokensFrom (params : Params) : Place → List Symbol → List Token
  | .word cs, [] => finished cs
  | .quote _, [] => [.malformed]
  | p, x :: xs => (step params p x).1 ++ tokensFrom params (step params p x).2 xs

/-- The tokens of symbols. -/
def tokens (params : Params) (xs : List Symbol) : List Token := tokensFrom params (.word []) xs

/-! ## Words and marks -/

/-- Passes a given word. -/
def passWord (w : String) : List Token → Option (List Token)
  | .word s :: ts => if s = w then some ts else none
  | _ => none

/-- Passes words in order. -/
def passWords : List String → List Token → Option (List Token)
  | [], ts => some ts
  | w :: ws, ts => (passWord w ts).bind (passWords ws)

/-- Passes a given mark. -/
def passMark (c : Char) : List Token → Option (List Token)
  | .mark d :: ts => if d = c then some ts else none
  | _ => none

/-- Passes NOT, if it is there. -/
def passNot (ts : List Token) : Bool × List Token :=
  match passWord "NOT" ts with
  | some ts => (true, ts)
  | none => (false, ts)

/-! ## Operands and tests -/

/-- A name, or two names with a point between them. -/
def readColumn : List Token → Option (ColumnRef × List Token)
  | .word s :: ts =>
    match passMark '.' ts with
    | some (.word t :: ts) => some (⟨some s, t⟩, ts)
    | some _ => none
    | none => some (⟨none, s⟩, ts)
  | _ => none

/-- Whether a word is a number. -/
def isNumber (s : String) : Bool := s.toList.all Char.isDigit

/-- A value, a number, a text, a column or the length of one. -/
def readOperand : List Token → Option (Operand × List Token)
  | .value v :: ts => some (.value v, ts)
  | .quoted s :: ts => some (.text s, ts)
  | .word s :: ts =>
    if isNumber s then s.toNat?.map fun n => (.number n, ts)
    else
      match passMark '(' ts with
      | some inner =>
        if s = "LENGTH" ∨ s = "CHAR_LENGTH" then do
          let (c, ts) ← readColumn inner
          let ts ← passMark ')' ts
          return (.length c, ts)
        else none
      | none => (readColumn (.word s :: ts)).map fun p => (.column p.1, p.2)
  | _ => none

/-- The rest of a list of operands and its closing parenthesis. -/
def readList : Nat → List Token → Option (List Operand × List Token)
  | 0, _ => none
  | n + 1, ts => do
    let (x, ts) ← readOperand ts
    match passMark ')' ts with
    | some ts => return ([x], ts)
    | none => do
      let ts ← passMark ',' ts
      let (xs, ts) ← readList n ts
      return (x :: xs, ts)

/-- A list of operands in parentheses. -/
def readSet (ts : List Token) : Option (List Operand × List Token) := do
  let ts ← passMark '(' ts
  match passMark ')' ts with
  | some ts => return ([], ts)
  | none => readList ts.length ts

/-- A symbol of comparison. -/
def readComparison : List Token → Option (Comparison × List Token)
  | .mark '=' :: ts => some (.eq, ts)
  | .mark '<' :: .mark '>' :: ts => some (.ne, ts)
  | .mark '<' :: .mark '=' :: ts => some (.le, ts)
  | .mark '<' :: ts => some (.lt, ts)
  | .mark '>' :: .mark '=' :: ts => some (.ge, ts)
  | .mark '>' :: ts => some (.gt, ts)
  | _ => none

/-- The escape character of a pattern, if one is given. -/
def readEscape (ts : List Token) : Option (Option Char × List Token) :=
  match passWord "ESCAPE" ts with
  | none => some (none, ts)
  | some (.quoted s :: ts) =>
    match s.toList with
    | [c] => some (some c, ts)
    | _ => none
  | some _ => none

/-- What is said of an operand. -/
def readTest (x : Operand) (ts : List Token) : Option (Expr × List Token) :=
  match readComparison ts with
  | some (op, ts) => (readOperand ts).map fun p => (.compare op x p.1, p.2)
  | none =>
    match passWord "IS" ts with
    | some ts =>
      let (negated, ts) := passNot ts
      match passWord "NULL" ts, passWord "TRUE" ts, passWord "FALSE" ts with
      | some ts, _, _ => some (.isNull negated x, ts)
      | _, some ts, _ => some (.isTruth negated true x, ts)
      | _, _, some ts => some (.isTruth negated false x, ts)
      | _, _, _ => none
    | none =>
      let (negated, ts) := passNot ts
      match passWord "BETWEEN" ts, passWord "IN" ts, passWord "LIKE" ts with
      | some ts, _, _ => do
        let (lower, ts) ← readOperand ts
        let ts ← passWord "AND" ts
        let (upper, ts) ← readOperand ts
        return (.between negated x lower upper, ts)
      | _, some ts, _ => (readSet ts).map fun p => (.isIn negated x p.1, p.2)
      | _, _, some ts => do
        let (pattern, ts) ← readOperand ts
        let (escape, ts) ← readEscape ts
        return (.like negated x pattern escape, ts)
      | _, _, _ => none

/-! ## Expressions and sources -/

/-- The keyword of a join. -/
def readJoin (ts : List Token) : Option (Bool × List Token) :=
  match passWords ["LEFT", "JOIN"] ts with
  | some ts => some (true, ts)
  | none => (passWords ["INNER", "JOIN"] ts).map fun ts => (false, ts)

/-- The start of a subquery, up to its source. -/
def readExists (ts : List Token) : Option (Bool × List Token) :=
  match passWords ["NOT", "EXISTS"] ts with
  | some ts => ((passMark '(' ts).bind (passWords ["SELECT", "1", "FROM"])).map fun ts => (true, ts)
  | none =>
    (((passWord "EXISTS" ts).bind (passMark '(')).bind
      (passWords ["SELECT", "1", "FROM"])).map fun ts => (false, ts)

mutual

/-- Conjunctions with OR between them. -/
def readOr : Nat → List Token → Option (Expr × List Token)
  | 0, _ => none
  | n + 1, ts => do
    let (x, ts) ← readAnd n ts
    match passWord "OR" ts with
    | some ts => do
      let (y, ts) ← readOr n ts
      return (.or x y, ts)
    | none => return (x, ts)
termination_by structural n => n

/-- Conditions with AND between them. -/
def readAnd : Nat → List Token → Option (Expr × List Token)
  | 0, _ => none
  | n + 1, ts => do
    let (x, ts) ← readCondition n ts
    match passWord "AND" ts with
    | some ts => do
      let (y, ts) ← readAnd n ts
      return (.and x y, ts)
    | none => return (x, ts)
termination_by structural n => n

/-- A subquery, an expression in parentheses or a test. -/
def readCondition : Nat → List Token → Option (Expr × List Token)
  | 0, _ => none
  | n + 1, ts =>
    match readExists ts with
    | some (negated, ts) => do
      let (source, ts) ← readFrom n ts
      let ts ← passWord "WHERE" ts
      let (e, ts) ← readOr n ts
      let ts ← passMark ')' ts
      return (.exist negated source e, ts)
    | none =>
      match passMark '(' ts with
      | some ts => do
        let (e, ts) ← readOr n ts
        let ts ← passMark ')' ts
        return (e, ts)
      | none => do
        let (x, ts) ← readOperand ts
        readTest x ts
termination_by structural n => n

/-- A table and the joins after it. -/
def readFrom : Nat → List Token → Option (From × List Token)
  | 0, _ => none
  | n + 1, ts => do
    let (source, ts) ← readTable n ts
    readJoins n source ts
termination_by structural n => n

/-- The joins after a source. -/
def readJoins : Nat → From → List Token → Option (From × List Token)
  | 0, _, _ => none
  | n + 1, left, ts =>
    match readJoin ts with
    | none => some (left, ts)
    | some (outer, ts) => do
      let (right, ts) ← readTable n ts
      let ts ← passWord "ON" ts
      let (on, ts) ← readOr n ts
      readJoins n (.join outer left right on) ts
termination_by structural n => n

/-- A table with its name in the statement, or a source in parentheses. -/
def readTable : Nat → List Token → Option (From × List Token)
  | 0, _ => none
  | n + 1, ts =>
    match passMark '(' ts with
    | some ts => do
      let (source, ts) ← readFrom n ts
      let ts ← passMark ')' ts
      return (source, ts)
    | none =>
      match ts with
      | .word table :: .word name :: ts => some (.table table name, ts)
      | _ => none
termination_by structural n => n

end

/-- A FROM, and a WHERE if there is one. -/
def readQuery (n : Nat) (ts : List Token) : Option (Query × List Token) := do
  let ts ← passWord "FROM" ts
  let (source, ts) ← readFrom n ts
  match passWord "WHERE" ts with
  | some ts => do
    let (e, ts) ← readOr n ts
    return (⟨source, some e⟩, ts)
  | none => return (⟨source, none⟩, ts)

/-- What is read from all tokens, with as many steps as they need. -/
def whole {α : Type} (read : Nat → List Token → Option (α × List Token)) (ts : List Token) :
    Option α :=
  match read (3 * ts.length + 3) ts with
  | some (a, []) => some a
  | _ => none

end Sql

namespace SqlText

/-- The expression that a text is, with the values of its slots. -/
def expr? (t : SqlText) (params : Params) : Option Sql.Expr :=
  Sql.whole Sql.readOr (Sql.tokens params t.symbols)

/-- The FROM and WHERE that a text is, with the values of its slots. -/
def query? (t : SqlText) (params : Params) : Option Sql.Query :=
  Sql.whole Sql.readQuery (Sql.tokens params t.symbols)

end SqlText
end Sift
