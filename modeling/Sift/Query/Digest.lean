import Sift.Json.Text
import Sift.Query

/-!
# Digests

A digest is what a hash reads. Of a value these are its kind and its bits, characters
or numbers, of a document its compact text. Of a restriction they are the kind of its
predicate, the digests of its payload and whether it is negated; of a query its columns
in order of their names, each with the digests of its restrictions. Two hashes agree
exactly when the digests do.
-/
namespace Sift

inductive Digest where
  | null
  | bool (b : Bool)
  | int (i : Int64)
  | float (bits : BitVec 64)
  | text (s : String)
  | uuid (bits : BitVec 128)
  | timestamp (second : Int) (nano : Nat)
  | date (day : Int)
  | json (text : String)
deriving DecidableEq

def Value.digest : Value → Digest
  | .null => .null
  | .bool b => .bool b
  | .int i => .int i
  | .float x => .float x.bits
  | .text s => .text s
  | .uuid u => .uuid u.bits
  | .timestamp t => .timestamp t.second t.nano
  | .date d => .date d.day
  | .json j => .json j.text

/-! ## Restrictions -/

structure Restriction.Digest where
  kind : String
  payload : List Sift.Digest
  negated : Bool
deriving DecidableEq

/-- The digests of a predicate's payload. -/
def Predicate.payloadDigest : Predicate → List Digest
  | .equals v | .less v | .lessOrEqual v | .greater v | .greaterOrEqual v => [v.digest]
  | .between lower upper => [lower.digest, upper.digest]
  | .isIn vs => vs.map Value.digest
  | .like s | .contains s | .startsWith s | .endsWith s => [.text s]
  | .isNull | .isTrue | .isFalse | .empty => []
  | .lengthLess n | .lengthLessOrEqual n | .lengthGreater n | .lengthGreaterOrEqual n => [.int n]
  | .lengthBetween lower upper => [.int lower, .int upper]

def Restriction.digest (r : Restriction) : Restriction.Digest :=
  ⟨r.predicate.names.1, r.predicate.payloadDigest, r.negated⟩

/-! ## Queries -/

def Conditions.digest (c : Conditions) : List (String × List Restriction.Digest) :=
  (c.fields.mergeSort fun f g => decide (f.1 ≤ g.1)).map fun (column, xs) =>
    (column, xs.map Restriction.digest)

def Query.digest {r : RowType} (q : Query r) : List (String × List Restriction.Digest) :=
  q.conditions.digest

end Sift
