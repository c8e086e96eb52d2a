import Sift.Query

/-!
# How queries are shown
-/
namespace Sift

/-- The predicate with its payload. -/
def Predicate.shown : Predicate → String
  | .equals v => "Equals(" ++ v.shown ++ ")"
  | .less v => "Less(" ++ v.shown ++ ")"
  | .lessOrEqual v => "LessOrEqual(" ++ v.shown ++ ")"
  | .greater v => "Greater(" ++ v.shown ++ ")"
  | .greaterOrEqual v => "GreaterOrEqual(" ++ v.shown ++ ")"
  | .between lower upper => "Between(" ++ lower.shown ++ ", " ++ upper.shown ++ ")"
  | .isIn vs => "In([" ++ ", ".intercalate (vs.map Value.shown) ++ "])"
  | .like s => "Like(" ++ quoted s ++ ")"
  | .contains s => "Contains(" ++ quoted s ++ ")"
  | .startsWith s => "StartsWith(" ++ quoted s ++ ")"
  | .endsWith s => "EndsWith(" ++ quoted s ++ ")"
  | .isNull => "IsNull"
  | .isTrue => "IsTrue"
  | .isFalse => "IsFalse"
  | .empty => "Empty"
  | .lengthLess n => "LengthLess(" ++ int64Text n ++ ")"
  | .lengthLessOrEqual n => "LengthLessOrEqual(" ++ int64Text n ++ ")"
  | .lengthGreater n => "LengthGreater(" ++ int64Text n ++ ")"
  | .lengthGreaterOrEqual n => "LengthGreaterOrEqual(" ++ int64Text n ++ ")"
  | .lengthBetween lower upper =>
    "LengthBetween(" ++ int64Text lower ++ ", " ++ int64Text upper ++ ")"

def Restriction.shown (x : Restriction) : String :=
  "Restriction \x7b predicate: " ++ x.predicate.shown ++ ", negated: "
    ++ (if x.negated then "true" else "false") ++ " \x7d"

/-- The table and the restrictions of each column. -/
def Query.shown {r : RowType} (q : Query r) : String :=
  let field : String × List Restriction → String := fun (column, xs) =>
    "(" ++ quoted column ++ ", [" ++ ", ".intercalate (xs.map Restriction.shown) ++ "])"
  "Query \x7b table: " ++ quoted r.table ++ ", fields: ["
    ++ ", ".intercalate (q.conditions.fields.map field) ++ "] \x7d"

end Sift
