import Sift.NamedValues

/-!
# SQL text

SQL text alternates between characters and named parameter slots, so that a bound
value never becomes part of the characters. Two texts are equal exactly when they
have the same characters and slots in the same order.
-/
namespace Sift

/-- Characters, then slots, each with the characters that follow it. -/
structure SqlText where
  head : String
  slots : List (String × String)
deriving DecidableEq

/-- How positional placeholders are written: `$1`, `$2`, ... or `?`. -/
inductive PlaceholderStyle where
  | dollar
  | question
deriving DecidableEq

/-- A statement with positional placeholders and the values in their order. -/
structure Rendered where
  sql : String
  values : List Value

namespace SqlText

def empty : SqlText := ⟨"", []⟩

instance : Inhabited SqlText := ⟨empty⟩

/-- Characters without slots. -/
def raw (s : String) : SqlText := ⟨s, []⟩

/-- A single slot. -/
def slot (name : String) : SqlText := ⟨"", [(name, "")]⟩

def isEmpty (t : SqlText) : Bool := t.head.isEmpty && t.slots.isEmpty

/-- Appends text to slots, the head of which joins the characters after the last one. -/
def appendSlots (u : SqlText) : List (String × String) → List (String × String)
  | [] => []
  | [(name, after)] => (name, after ++ u.head) :: u.slots
  | s :: rest => s :: appendSlots u rest

/-- One text after the other. -/
def append (t u : SqlText) : SqlText :=
  match t.slots with
  | [] => ⟨t.head ++ u.head, u.slots⟩
  | _ :: _ => ⟨t.head, appendSlots u t.slots⟩

instance : Append SqlText := ⟨append⟩

/-- Characters stand for the text of them. -/
instance : Coe String SqlText := ⟨raw⟩

/-- The texts in order. -/
def concat (ts : List SqlText) : SqlText := ts.foldl append empty

/-- The texts in order with a separator between them. -/
def join (separator : String) : List SqlText → SqlText
  | [] => empty
  | [t] => t
  | t :: rest => t ++ raw separator ++ join separator rest

/-- The names of the slots in order. -/
def slotNames (t : SqlText) : List String := t.slots.map (·.1)

/-- The text with a colon before the name of each slot. -/
def named (t : SqlText) : String :=
  t.head ++ String.join (t.slots.map fun (name, after) => ":" ++ name ++ after)

/-- Writes slots as placeholders and collects their values. `numbered` are the names that already
have a number. -/
def renderSlots (style : PlaceholderStyle) (params : Params) :
    List String → List (String × String) → Except Error Rendered
  | _, [] => .ok ⟨"", []⟩
  | numbered, (name, after) :: rest =>
    match params.get? name with
    | none => .error (.argument (.unboundParameter name))
    | some v =>
      match style with
      | .question => do
        let r ← renderSlots style params numbered rest
        return ⟨"?" ++ after ++ r.sql, v :: r.values⟩
      | .dollar =>
        match numbered.idxOf? name with
        | some i => do
          let r ← renderSlots style params numbered rest
          return ⟨"$" ++ toString (i + 1) ++ after ++ r.sql, r.values⟩
        | none => do
          let r ← renderSlots style params (numbered ++ [name]) rest
          return ⟨"$" ++ toString (numbered.length + 1) ++ after ++ r.sql, v :: r.values⟩

/-- The statement with positional placeholders. In dollar style a repeated slot keeps its number,
in question style its value is repeated. -/
def render (t : SqlText) (style : PlaceholderStyle) (params : Params) : Except Error Rendered :=
  (renderSlots style params [] t.slots).map fun r => ⟨t.head ++ r.sql, r.values⟩

end SqlText
end Sift
