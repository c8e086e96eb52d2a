import Sift.Declaration.TypeToken

/-!
# Types in declarations

A field is nullable if its type is written as a path that ends in `Option` with one
argument in angle brackets, which must be a type. Aliases are not looked through.
A declared type has parameters if anything stands in the angle brackets after its name.
-/
namespace Sift.TypeSyntax

/-- The words that cannot name anything. -/
def reservedWords : List String :=
  ["_", "abstract", "as", "async", "await", "become", "box", "break", "const", "continue", "crate",
    "do", "dyn", "else", "enum", "extern", "false", "final", "fn", "for", "if", "impl", "in", "let",
    "loop", "macro", "match", "mod", "move", "mut", "override", "priv", "pub", "ref", "return",
    "Self", "self", "static", "struct", "super", "trait", "true", "try", "type", "typeof", "unsafe",
    "unsized", "use", "virtual", "where", "while", "yield"]

/-- The reserved words that may stand in a path. -/
def pathWords : List String := ["Self", "self", "super", "crate", "try"]

/-! ## Groups -/

def Token.isOpening (t : Token) : Bool := t = .mark '(' || t = .mark '[' || t = .mark '\x7b'

def Token.isClosing (t : Token) : Bool := t = .mark ')' || t = .mark ']' || t = .mark '\x7d'

/-- Leaves only the opening bracket of a group in brackets, `depth` of which are open. -/
def collapse (depth : Nat) : List Token → List Token
  | [] => []
  | t :: ts =>
    if t.isOpening then if depth = 0 then t :: collapse 1 ts else collapse (depth + 1) ts
    else if t.isClosing then collapse (depth - 1) ts
    else if depth = 0 then t :: collapse 0 ts
    else collapse depth ts

/-- The depth of angle brackets after a token. -/
def Token.angleDepth (depth : Nat) : Token → Nat
  | .mark '<' => depth + 1
  | .mark '>' => depth - 1
  | _ => depth

/-! ## Paths -/

/-- The segments of a path, given the beginning of the first one. A mark before angle brackets
does not separate segments. -/
def segments (depth : Nat) (segment : List Token) : List Token → List (List Token)
  | [] => [segment]
  | t :: ts =>
    if t = .colons ∧ depth = 0 ∧ ts.head? ≠ some (.mark '<') then segment :: segments 0 [] ts
    else segments (t.angleDepth depth) (segment ++ [t]) ts

/-- The arguments up to the closing angle bracket, which must be the last token. -/
def arguments? (depth : Nat) (argument : List Token) : List Token → Option (List (List Token))
  | [] => none
  | t :: ts =>
    if t = .mark '>' ∧ depth = 0 then if ts.isEmpty then some [argument] else none
    else if t = .mark ',' ∧ depth = 0 then (arguments? 0 [] ts).map (argument :: ·)
    else arguments? (t.angleDepth depth) (argument ++ [t]) ts

/-- The arguments in the angle brackets of a segment, given what follows its name. -/
def bracketed? : List Token → Option (List (List Token))
  | .colons :: .mark '<' :: ts | .mark '<' :: ts =>
    (arguments? 0 [] ts).map (·.filter fun a => !a.isEmpty)
  | _ => none

/-- Whether tokens are a segment of a path: a name, or a name with arguments. -/
def isSegment : List Token → Bool
  | .word w :: ts =>
    (!reservedWords.contains w || pathWords.contains w) && (ts.isEmpty || (bracketed? ts).isSome)
  | _ => false

/-- Whether a path may begin with tokens: a segment, nothing before a leading mark, or a type in
angle brackets. -/
def isStart (ts : List Token) : Bool := ts.isEmpty || isSegment ts || (bracketed? ts).isSome

/-- Whether a mark stands outside of all angle brackets. -/
def hasMark (c : Char) (depth : Nat) : List Token → Bool
  | [] => false
  | t :: ts => (t = .mark c && depth == 0) || hasMark c (t.angleDepth depth) ts

/-- Whether an argument is a type, and no lifetime, constant, binding or bound. -/
def isTypeArgument : List Token → Bool
  | .lifetime :: ts => ts.head? == some (.mark '+')
  | .literal :: _ | .mark '-' :: _ | .mark '\x7b' :: _ => false
  | .word "true" :: _ | .word "false" :: _ => false
  | ts => !hasMark '=' 0 ts && !hasMark ':' 0 ts

/-- Whether a segment is `Option` with one type. -/
def isOptionSegment : List Token → Bool
  | .word "Option" :: ts =>
    match bracketed? ts with
    | some [argument] => isTypeArgument argument
    | _ => false
  | _ => false

/-- The characters of a text, without a byte order mark. -/
def unmarked (s : String) : List Char :=
  match s.toList with
  | '\ufeff' :: cs => cs
  | cs => cs

/-- Whether a type is an optional one. -/
def isOptional (s : String) : Bool :=
  let path := segments 0 [] (collapse 0 (tokens (unmarked s)))
  match path.dropLast, path.getLast? with
  | [], some last => isOptionSegment last
  | first :: middle, some last => isStart first && middle.all isSegment && isOptionSegment last
  | _, none => false

/-! ## Parameters -/

/-- Whether there are parameters in what follows the name of a declared type: angle brackets, which
may hold nothing, and conditions after `where`. -/
def hasParameters (s : String) : Bool :=
  ((tokens s.toList).takeWhile (· ≠ .word "where")).any fun t => t ≠ .mark '<' && t ≠ .mark '>'

end Sift.TypeSyntax
