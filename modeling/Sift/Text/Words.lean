import Sift.Text.Character
import Sift.Text.LetterCase

/-!
# Words of a name

A name is split into words where its letter case or a character that is no letter
or digit tells them apart. A constant is named by the words in upper case.
-/
namespace Sift.Words

/-- The case of the letters that a word has so far; digits keep it. -/
inductive Mode where
  | start
  | lower
  | upper
deriving DecidableEq

def Mode.after (m : Mode) (c : Char) : Mode :=
  if isLowercase c then .lower else if isUppercase c then .upper else m

/-- The words of letters and digits, given the beginning of the first one. A word ends before an
upper-case letter that follows lower case, and before the last of several upper-case letters if a
lower-case one follows it. -/
def wordsFrom (mode : Mode) (word : List Char) : List Char → List (List Char)
  | [] => []
  | [c] => [word ++ [c]]
  | c :: next :: rest =>
    if mode.after c = .lower ∧ isUppercase next then
      (word ++ [c]) :: wordsFrom .start [] (next :: rest)
    else if mode = .upper ∧ isUppercase c ∧ isLowercase next then
      word :: wordsFrom .start [c] (next :: rest)
    else wordsFrom (mode.after c) (word ++ [c]) (next :: rest)

/-- The runs of letters and digits, some of which may be empty. -/
def runs (run : List Char) : List Char → List (List Char)
  | [] => [run]
  | c :: rest => if isAlphanumeric c then runs (run ++ [c]) rest else run :: runs [] rest

/-- The words of a name. -/
def words (s : String) : List String :=
  ((runs [] s.toList).flatMap (wordsFrom .start [])).map String.ofList

/-- The name of a constant: the words in upper case with underscores between them. -/
def constantName (s : String) : String := "_".intercalate ((words s).map upperText)

end Sift.Words
