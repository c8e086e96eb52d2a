import Sift.Calendar.Reader
import Sift.Json.Reader
import Sift.Json.Text
import Sift.Value

/-!
# Values on the wire

The binary format in which PostgreSQL takes parameters and returns columns: that of the
send and receive functions of each type. Numbers are big-endian, integers in two's
complement and floats as IEEE 754 has them. Times are microseconds and dates are days,
counted from 2000-01-01 UTC. Texts are in UTF-8, UUIDs are their 16 bytes, and documents
are JSON text, behind a version byte in `jsonb`, as are the texts of `ltree`, `lquery`
and `ltxtquery`.
-/
namespace Sift

abbrev Bytes := List UInt8

/-- The column types by their PostgreSQL names; all others are known by name only. -/
inductive WireType where
  | bool
  | int2
  | int4
  | int8
  | float4
  | float8
  | text
  | varchar
  | bpchar
  | name
  | unknown
  | uuid
  | timestamptz
  | timestamp
  | date
  | json
  | jsonb
  | citext
  | ltree
  | lquery
  | ltxtquery
  | other (name : String)
deriving DecidableEq

namespace WireType

/-- The types that values are written as. -/
def writable : List (String × WireType) :=
  [("bool", .bool), ("int2", .int2), ("int4", .int4), ("int8", .int8), ("float4", .float4),
    ("float8", .float8), ("text", .text), ("varchar", .varchar), ("bpchar", .bpchar),
    ("name", .name), ("unknown", .unknown), ("uuid", .uuid), ("timestamptz", .timestamptz),
    ("timestamp", .timestamp), ("date", .date), ("json", .json), ("jsonb", .jsonb),
    ("citext", .citext), ("ltree", .ltree), ("lquery", .lquery), ("ltxtquery", .ltxtquery)]

def ofTitle (s : String) : WireType := (writable.lookup s).getD (.other s)

/-- The PostgreSQL name of a type. -/
def title (t : WireType) : String :=
  match t with
  | .other s => s
  | t => ((writable.find? fun (_, u) => u == t).map (·.1)).getD ""

/-- Whether a column of the type holds characters that are read as a text. -/
def isText : WireType → Bool
  | .text | .varchar | .bpchar | .name => true
  | _ => false

/-- Whether some value can be bound to the type. -/
def isWritable : WireType → Bool
  | .other _ => false
  | _ => true

/-- Whether a column of the type can be read. -/
def isReadable : WireType → Bool
  | .unknown | .citext | .ltree | .lquery | .ltxtquery | .other _ => false
  | _ => true

end WireType

/-- Why a value cannot be written or read. -/
inductive WireError where
  | wrongType
  | integerRange
  | uuid
  | time
  | utf8
  | json
  | malformed
  | unsupported (type : WireType)
  | tooLarge
deriving DecidableEq

namespace Wire

/-- The lowest `width` bytes of a number, the highest first. -/
def bytesOf : Nat → Nat → Bytes
  | 0, _ => []
  | width + 1, n => bytesOf width (n / 256) ++ [UInt8.ofNat n]

/-- The number that bytes spell, the highest first. -/
def natOf (bs : Bytes) : Nat := bs.foldl (fun n b => n * 256 + b.toNat) 0

/-- An integer in two's complement. -/
def bytesOfInt (width : Nat) (i : Int) : Bytes := bytesOf width (i % Nat.pow 256 width).toNat

/-- The integer in two's complement that bytes spell. -/
def intOf (bs : Bytes) : Int :=
  let n := natOf bs
  if 2 * n < Nat.pow 256 bs.length then n else (n : Int) - Nat.pow 256 bs.length

/-- Whether an integer fits in a number of bytes. -/
def fits (width : Nat) (i : Int) : Bool :=
  decide (-(Nat.pow 256 width : Int) ≤ 2 * i ∧ 2 * i < Nat.pow 256 width)

/-- The day from which times are counted, 2000-01-01. -/
def epochDay : Int := 10957

/-- The microseconds of a timestamp, cut toward the epoch. -/
def microseconds (t : Timestamp) : Int :=
  ((t.second - epochDay * 86400) * 1000000000 + t.nano).tdiv 1000

/-- The timestamp of a number of microseconds. -/
def timestamp? (n : Int) : Option Timestamp :=
  Timestamp.ofSecond? (epochDay * 86400 + n / 1000000) ((n % 1000000).toNat * 1000)

def textBytes (s : String) : Bytes := s.toUTF8.toList

def characters? (bs : Bytes) : Option String := String.fromUTF8? ⟨bs.toArray⟩

end Wire

namespace Value

open Wire

/-- The bytes of an integer of a width, which it must fit in. -/
def writeInt (width : Nat) (i : Int64) : Except WireError Bytes :=
  if fits width i.toInt then .ok (bytesOfInt width i.toInt) else .error .integerRange

/-- Writes a value that is not null as a type, in the binary format that the type receives. A text is
read as what the type asks for. -/
def writePresent (type : WireType) : Value → Except WireError Bytes
  | .null => .ok []
  | .bool b => match type with
    | .bool => .ok [if b then 1 else 0]
    | _ => .error .wrongType
  | .int i => match type with
    | .int2 => writeInt 2 i
    | .int4 => writeInt 4 i
    | .int8 => writeInt 8 i
    | .float8 => .ok (bytesOf 8 (Double.ofInt i.toInt).bits.toNat)
    | _ => .error .wrongType
  | .float x => match type with
    | .float4 => .ok (bytesOf 4 x.toSingle.bits.toNat)
    | .float8 => .ok (bytesOf 8 x.bits.toNat)
    | _ => .error .wrongType
  | .text s => match type with
    | .uuid => match Uuid.parse? s with
      | some u => .ok (bytesOf 16 u.bits.toNat)
      | none => .error .uuid
    | .timestamptz => match Timestamp.parse? s with
      | some t => .ok (bytesOfInt 8 (microseconds t))
      | none => .error .time
    | .date => match Date.parse? s with
      | some d => .ok (bytesOfInt 4 (d.day - epochDay))
      | none => .error .time
    | .unknown | .citext => .ok (textBytes s)
    | .ltree | .lquery | .ltxtquery => .ok (1 :: textBytes s)
    | type => if type.isText then .ok (textBytes s) else .error .wrongType
  | .uuid u => match type with
    | .uuid => .ok (bytesOf 16 u.bits.toNat)
    | type => if type.isText then .ok (textBytes u.text) else .error .wrongType
  | .timestamp t => match type with
    | .timestamptz | .timestamp => .ok (bytesOfInt 8 (microseconds t))
    | _ => .error .wrongType
  | .date d => match type with
    | .date => .ok (bytesOfInt 4 (d.day - epochDay))
    | _ => .error .wrongType
  | .json j => match type with
    | .json => .ok (textBytes j.text)
    | .jsonb => .ok (1 :: textBytes j.text)
    | _ => .error .wrongType

/-- Writes a value as a type; null has no bytes. -/
def write (type : WireType) (v : Value) : Except WireError (Option Bytes) :=
  if !type.isWritable then .error .wrongType
  else if v.isNull then .ok none
  else (v.writePresent type).map some

/-- The document of a text. -/
def readJson (bs : Bytes) : Except WireError Value :=
  match (characters? bs).bind Json.parse? with
  | some j => .ok (.json j)
  | none => .error .json

/-- The value of bytes that must be a given number. -/
def readSized (width : Nat) (bs : Bytes) (f : Bytes → Except WireError Value) :
    Except WireError Value :=
  if bs.length = width then f bs else .error .malformed

/-- Reads the bytes of a column, in the binary format that its type sends. -/
def readPresent (type : WireType) (bs : Bytes) : Except WireError Value :=
  match type with
  | .bool => readSized 1 bs fun bs => .ok (.bool (natOf bs != 0))
  | .int2 => readSized 2 bs fun bs => .ok (.int (Int64.ofInt (intOf bs)))
  | .int4 => readSized 4 bs fun bs => .ok (.int (Int64.ofInt (intOf bs)))
  | .int8 => readSized 8 bs fun bs => .ok (.int (Int64.ofInt (intOf bs)))
  | .float4 => readSized 4 bs fun bs => .ok (.float (.ofSingle ⟨BitVec.ofNat 32 (natOf bs)⟩))
  | .float8 => readSized 8 bs fun bs => .ok (.float ⟨BitVec.ofNat 64 (natOf bs)⟩)
  | .text | .varchar | .bpchar | .name =>
    match characters? bs with
    | some s => .ok (.text s)
    | none => .error .utf8
  | .uuid => readSized 16 bs fun bs => .ok (.uuid ⟨BitVec.ofNat 128 (natOf bs)⟩)
  | .timestamptz | .timestamp => readSized 8 bs fun bs =>
    match timestamp? (intOf bs) with
    | some t => .ok (.timestamp t)
    | none => .error .tooLarge
  | .date => readSized 4 bs fun bs =>
    match Date.ofDay? (epochDay + intOf bs) with
    | some d => .ok (.date d)
    | none => .error .tooLarge
  | .json => readJson bs
  | .jsonb =>
    match bs with
    | 1 :: rest => readJson rest
    | _ => .error .malformed
  | .unknown | .citext | .ltree | .lquery | .ltxtquery | .other _ => .error (.unsupported type)

/-- Reads a column; a column without bytes is null. -/
def read (type : WireType) : Option Bytes → Except WireError Value
  | none => .ok .null
  | some bs => readPresent type bs

end Value

/-- The text of an error that has one. -/
def WireError.message? : WireError → Option String
  | .unsupported type => some ("unsupported column type " ++ type.title)
  | .tooLarge => some "value too large to decode"
  | _ => none

end Sift
