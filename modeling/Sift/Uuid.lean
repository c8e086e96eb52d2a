import Sift.Text.Character

/-!
# UUIDs

A UUID is 128 bits, written in the text form of RFC 4122: 32 lower-case hexadecimal
digits in five groups.
-/
namespace Sift

structure Uuid where
  bits : BitVec 128
deriving DecidableEq

namespace Uuid

/-- The 32 hexadecimal digits. -/
def digits (u : Uuid) : List Char :=
  let ds := Nat.toDigits 16 u.bits.toNat
  List.replicate (32 - ds.length) '0' ++ ds

/-- The hyphenated text: groups of 8, 4, 4, 4 and 12 digits. -/
def text (u : Uuid) : String :=
  let ds := u.digits
  let group (start size : Nat) := String.ofList ((ds.drop start).take size)
  "-".intercalate [group 0 8, group 8 4, group 12 4, group 16 4, group 20 12]

/-- The UUID of 32 hexadecimal digits. -/
def ofDigits? (cs : List Char) : Option Uuid :=
  if cs.length = 32 then
    (cs.foldlM (fun n c => (hexDigit? c).map (n * 16 + ·)) 0).map fun n => ⟨BitVec.ofNat 128 n⟩
  else none

/-- The UUID of 36 characters with hyphens after 8, 12, 16 and 20 digits. -/
def ofHyphenated? (cs : List Char) : Option Uuid :=
  if cs.length = 36 ∧ [8, 13, 18, 23].all (fun i => cs[i]? == some '-') then
    ofDigits? (cs.take 8 ++ (cs.drop 9).take 4 ++ (cs.drop 14).take 4 ++ (cs.drop 19).take 4
      ++ cs.drop 24)
  else none

/-- Reads the form of RFC 4122 with digits of either case: by itself, in braces, as a URN after
`urn:uuid:` in letters of either case, or without its hyphens. -/
def parse? (s : String) : Option Uuid :=
  let cs := s.toList
  if cs.length = 32 then ofDigits? cs
  else if cs.length = 36 then ofHyphenated? cs
  else if cs.length = 38 ∧ cs.head? = some '\x7b' ∧ cs.getLast? = some '\x7d' then
    ofHyphenated? ((cs.drop 1).take 36)
  else if cs.length = 45 ∧ (cs.take 9).map Char.toLower = "urn:uuid:".toList then
    ofHyphenated? (cs.drop 9)
  else none

end Uuid
end Sift
