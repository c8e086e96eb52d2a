import Sift.Double.Shortest
import Sift.Json.Text
import Sift.Text.Quoted
import Sift.Value

/-!
# How values are shown

A value is shown as the name of its kind and, in parentheses, what it holds.
-/
namespace Sift

/-- Shown floats are positional from 1e-4 up to 1e16, and a half goes up. -/
def Double.shownStyle : Decimal.Style := ⟨.up, (-4, 15), false⟩

def Double.shown (x : Double) : String :=
  if x.isNaN then "NaN"
  else if x.isInfinite then (if x.negative then "-inf" else "inf")
  else x.write Double.shownStyle

namespace Json

mutual

/-- A document with the kind of each part. -/
def shown : Json → String
  | .null => "Null"
  | .bool b => "Bool(" ++ (if b then "true" else "false") ++ ")"
  | .num n => "Number(" ++ n.text ++ ")"
  | .str s => "String(" ++ quoted s ++ ")"
  | .arr items => "Array [" ++ ", ".intercalate (shownItems items) ++ "]"
  | .obj fields => "Object \x7b" ++ ", ".intercalate (shownFields fields) ++ "\x7d"
termination_by structural x => x

def shownItems : List Json → List String
  | [] => []
  | x :: xs => shown x :: shownItems xs
termination_by structural x => x

def shownFields : List (String × Json) → List String
  | [] => []
  | f :: fs => shownField f :: shownFields fs
termination_by structural x => x

def shownField : String × Json → String
  | (k, v) => quoted k ++ ": " ++ shown v
termination_by structural x => x

end

end Json

def Value.shown : Value → String
  | .null => "Null"
  | .bool b => "Bool(" ++ (if b then "true" else "false") ++ ")"
  | .int i => "Int(" ++ toString i.toInt ++ ")"
  | .float x => "Float(" ++ x.shown ++ ")"
  | .text s => "Text(" ++ quoted s ++ ")"
  | .uuid u => "Uuid(" ++ u.text ++ ")"
  | .timestamp t => "Timestamp(" ++ t.text ++ ")"
  | .date d => "Date(" ++ d.text ++ ")"
  | .json j => "Json(" ++ j.shown ++ ")"

end Sift
