import Sift.Proofs.Uuid
import Sift.Proofs.Value.Bytes

/-!
# Values come back from the wire

A type and the values of its kind determine each other's bytes. What is written as the
type is read as the value that was written, but that a timestamp is cut to microseconds
toward the epoch of the wire; and what is read of the type is written as the bytes it
was read from.
-/
namespace Sift

open Wire

/-! ## Times -/

namespace Timestamp

/-- The nanoseconds from the epoch of the wire, 2000-01-01 UTC, to a point in time. -/
def fromEpoch (t : Timestamp) : Int := (t.second - epochDay * 86400) * 1000000000 + t.nano

/-- A timestamp is cut to whole microseconds toward the epoch: it is less than one away, and not beyond
the epoch. -/
structure Cut (t c : Timestamp) : Prop where
  regular : c.nano < 1000000000
  whole : c.nano % 1000 = 0
  near : (t.fromEpoch - c.fromEpoch).natAbs < 1000
  after : 0 ≤ t.fromEpoch → c.fromEpoch ≤ t.fromEpoch
  before : t.fromEpoch ≤ 0 → t.fromEpoch ≤ c.fromEpoch

/-- The microseconds are the nanoseconds divided by a thousand; before the epoch the rest is dropped upward. -/
theorem microseconds_bounds (t : Timestamp) :
    (0 ≤ t.fromEpoch → microseconds t * 1000 ≤ t.fromEpoch ∧ t.fromEpoch < microseconds t * 1000 + 1000) ∧
      (t.fromEpoch ≤ 0 → t.fromEpoch ≤ microseconds t * 1000 ∧ microseconds t * 1000 - 1000 < t.fromEpoch) := by
  have quotient : microseconds t = t.fromEpoch.tdiv 1000 := rfl
  have sign : Int.sign 1000 = 1 := rfl
  -- the quotient is the floor, one more if a negative number leaves a rest
  rw [quotient, Int.tdiv_eq_ediv, sign]
  split <;> omega

/-- A number of microseconds is read as the timestamp at that distance from the epoch. -/
theorem timestamp_eq_some {n : Int} {c : Timestamp} :
    timestamp? n = some c ↔ c.nano < 1000000000 ∧ c.nano % 1000 = 0 ∧ c.fromEpoch = n * 1000 := by
  rw [timestamp?, ofSecond?]
  constructor
  · intro read
    split at read
    case isTrue inside =>
      cases read
      simp only [fromEpoch]
      omega
    case isFalse => cases read
  · rintro ⟨regular, whole, distance⟩
    obtain ⟨second, nano, inside, short⟩ := c
    simp only [fromEpoch, epochDay] at regular whole distance ⊢
    have seconds : 10957 * 86400 + n / 1000000 = second := by omega
    have nanos : (n % 1000000).toNat * 1000 = nano := by omega
    simp only [seconds, nanos]
    rw [dif_pos ⟨inside, short⟩]

/-- The microseconds of a timestamp are read as its cut. -/
theorem exists_cut {t : Timestamp} (regular : t.nano < 1000000000) :
    ∃ c, timestamp? (microseconds t) = some c ∧ t.Cut c := by
  have bounds := t.microseconds_bounds
  have inside := t.inRange
  simp only [fromEpoch, epochDay, Calendar.firstDay, Calendar.lastDay] at bounds inside
  have room : (Calendar.firstDay * 86400 ≤ epochDay * 86400 + microseconds t / 1000000 ∧
      epochDay * 86400 + microseconds t / 1000000 < (Calendar.lastDay + 1) * 86400) ∧
      (microseconds t % 1000000).toNat * 1000 < 2000000000 := by
    simp only [epochDay, Calendar.firstDay, Calendar.lastDay]
    omega
  have read : timestamp? (microseconds t) = some ⟨_, _, room.1, room.2⟩ := by
    rw [timestamp?, ofSecond?, dif_pos room]
  obtain ⟨short, whole, distance⟩ := timestamp_eq_some.mp read
  refine ⟨_, read, short, whole, ?_, ?_, ?_⟩
  all_goals
    rw [distance]
    simp only [fromEpoch, epochDay]
    omega

/-- A timestamp that was read is written with the number that it was read from. -/
theorem microseconds_of_timestamp {n : Int} {c : Timestamp} (read : timestamp? n = some c) :
    microseconds c = n := by
  obtain ⟨-, -, distance⟩ := timestamp_eq_some.mp read
  have bounds := c.microseconds_bounds
  omega

/-- All timestamps are within the reach of 64 bits. -/
theorem fits_microseconds (t : Timestamp) : fits 8 (microseconds t) = true := by
  have bounds := t.microseconds_bounds
  have inside := t.inRange
  have short := t.nano_lt
  simp only [fromEpoch, epochDay, Calendar.firstDay, Calendar.lastDay] at bounds inside
  rw [fits_iff]
  omega

end Timestamp

/-- All dates are within the reach of 32 bits. -/
theorem Date.fits_day (d : Date) : fits 4 (d.day - epochDay) = true := by
  have inside := d.inRange
  simp only [Calendar.firstDay, Calendar.lastDay] at inside
  rw [fits_iff, epochDay]
  omega

theorem Date.ofDay_eq_some {n : Int} {d : Date} : Date.ofDay? n = some d ↔ d.day = n := by
  rw [Date.ofDay?]
  constructor
  · intro read
    split at read
    case isTrue => cases read; rfl
    case isFalse => cases read
  · rintro rfl
    exact dif_pos d.inRange

/-! ## Types and their values -/

/-- The kind of the values that a type holds, where its bytes tell the values of one kind apart. -/
def WireType.kind? : WireType → Option Kind
  | .bool => some .bool
  | .int2 | .int4 | .int8 => some .int
  | .float8 => some .float
  | .text | .varchar | .bpchar | .name => some .text
  | .uuid => some .uuid
  | .timestamptz | .timestamp => some .timestamp
  | .date => some .date
  | .json | .jsonb => some .json
  | .float4 | .unknown | .citext | .ltree | .lquery | .ltxtquery | .other _ => none

/-- Whether a type has room for a value; the shorter integer types do not have it for all integers. -/
def WireType.HasRoom (type : WireType) : Value → Prop
  | .int i => match type with
    | .int2 => -32768 ≤ i.toInt ∧ i.toInt ≤ 32767
    | .int4 => -2147483648 ≤ i.toInt ∧ i.toInt ≤ 2147483647
    | _ => True
  | _ => True

/-- The byte that `jsonb` has before the document. -/
def WireType.version : WireType → Bytes
  | .jsonb => [1]
  | _ => []

namespace Value

/-- The timestamps out of leap seconds, the documents that their text is read as, and all other values. -/
def Regular : Value → Prop
  | .timestamp t => t.nano < 1000000000
  | .json j => Json.parse? j.text = some j
  | _ => True

/-- How a value comes back: a timestamp cut to microseconds, all others as they are. -/
def ComesBack (v w : Value) : Prop :=
  match v with
  | .timestamp t => ∃ c, w = .timestamp c ∧ t.Cut c
  | v => w = v

theorem write_of_kind {type : WireType} {v : Value} (kind : type.kind? = some v.kind) :
    v.write type = (v.writePresent type).map some := by
  have writable : type.isWritable = true := by
    cases type with
    | other => cases kind
    | _ => rfl
  have present : v.isNull = false := by
    cases v with
    | null => cases type <;> cases kind
    | _ => rfl
  simp [write, writable, present]

theorem readSized_eq_ok {width : Nat} {bs : Bytes} {f : Bytes → Except WireError Value} {w : Value} :
    readSized width bs f = .ok w ↔ bs.length = width ∧ f bs = .ok w := by
  rw [readSized]
  by_cases sized : bs.length = width
  · simp [sized]
  · simp [sized]

theorem readSized_bytesOf (width n : Nat) (f : Bytes → Except WireError Value) :
    readSized width (bytesOf width n) f = f (bytesOf width n) := if_pos (length_bytesOf width n)

theorem readSized_bytesOfInt (width : Nat) (i : Int) (f : Bytes → Except WireError Value) :
    readSized width (bytesOfInt width i) f = f (bytesOfInt width i) := if_pos (length_bytesOf width _)

/-- The integer types differ in their width only. -/
theorem exists_width {type : WireType} (kind : type.kind? = some .int) :
    ∃ width ≤ 8, (∀ i, (Value.int i).writePresent type = writeInt width i) ∧
      (∀ i, type.HasRoom (.int i) ↔ fits width i.toInt = true) ∧
      ∀ bs, readPresent type bs = readSized width bs fun bs => .ok (.int (Int64.ofInt (intOf bs))) := by
  cases type with
  | int2 =>
    refine ⟨2, by decide, fun _ => rfl, fun i => ?_, fun _ => rfl⟩
    rw [fits_iff, WireType.HasRoom]
    omega
  | int4 =>
    refine ⟨4, by decide, fun _ => rfl, fun i => ?_, fun _ => rfl⟩
    rw [fits_iff, WireType.HasRoom]
    omega
  | int8 => exact ⟨8, by decide, fun _ => rfl, fun i => ⟨fun _ => fits_toInt i, fun _ => trivial⟩, fun _ => rfl⟩
  | _ => cases kind

/-- The types of times differ in name only. -/
theorem readPresent_time {type : WireType} (kind : type.kind? = some .timestamp) (bs : Bytes) :
    readPresent type bs = readSized 8 bs fun bs =>
      match timestamp? (intOf bs) with
      | some t => .ok (.timestamp t)
      | none => .error .tooLarge := by
  cases type with
  | timestamptz | timestamp => rfl
  | _ => cases kind

theorem writePresent_time {type : WireType} (kind : type.kind? = some .timestamp) (t : Timestamp) :
    (Value.timestamp t).writePresent type = .ok (bytesOfInt 8 (microseconds t)) := by
  cases type with
  | timestamptz | timestamp => rfl
  | _ => cases kind

theorem kind_of_isText {type : WireType} (text : type.isText = true) : type.kind? = some .text := by
  cases type with
  | text | varchar | bpchar | name => rfl
  | _ => cases text

/-- The types of characters differ in name only. -/
theorem readPresent_text {type : WireType} (kind : type.kind? = some .text) (bs : Bytes) :
    readPresent type bs = match characters? bs with
      | some s => .ok (.text s)
      | none => .error .utf8 := by
  cases type with
  | text | varchar | bpchar | name => rfl
  | _ => cases kind

theorem writePresent_text {type : WireType} (kind : type.kind? = some .text) (s : String) :
    (Value.text s).writePresent type = .ok (textBytes s) := by
  cases type with
  | text | varchar | bpchar | name => rfl
  | _ => cases kind

/-- A document is read behind the version byte of its type. -/
theorem readPresent_json {type : WireType} (kind : type.kind? = some .json) (bs : Bytes) :
    readPresent type (type.version ++ bs) = readJson bs := by
  cases type with
  | json | jsonb => rfl
  | _ => cases kind

theorem writePresent_json {type : WireType} (kind : type.kind? = some .json) (j : Json) :
    (Value.json j).writePresent type = .ok (type.version ++ textBytes j.text) := by
  cases type with
  | json | jsonb => rfl
  | _ => cases kind

/-! ## From the value -/

theorem exists_read_int {type : WireType} (kind : type.kind? = some .int) {i : Int64} (room : type.HasRoom (.int i)) :
    ∃ bs, (Value.int i).writePresent type = .ok bs ∧ readPresent type bs = .ok (.int i) := by
  obtain ⟨width, -, write, fit, read⟩ := exists_width kind
  have fit : fits width i.toInt = true := (fit i).mp room
  refine ⟨bytesOfInt width i.toInt, ?_, ?_⟩
  · rw [write, writeInt, if_pos fit]
  · rw [read, readSized_bytesOfInt, intOf_bytesOfInt fit, Int64.ofInt_toInt]

/-- What is written as the type of its kind is read as it comes back. -/
theorem exists_comesBack {type : WireType} {v : Value} (kind : type.kind? = some v.kind) (room : type.HasRoom v) :
    ∃ bs, v.writePresent type = .ok bs ∧ (v.Regular → ∃ w, readPresent type bs = .ok w ∧ v.ComesBack w) := by
  cases v with
  | null => cases type <;> cases kind
  | bool b =>
    cases type with
    | bool =>
      refine ⟨_, rfl, fun _ => ⟨.bool b, ?_, rfl⟩⟩
      cases b <;> rfl
    | _ => cases kind
  | int i =>
    obtain ⟨bs, written, read⟩ := exists_read_int kind room
    exact ⟨bs, written, fun _ => ⟨_, read, rfl⟩⟩
  | float x =>
    cases type with
    | float8 =>
      refine ⟨_, rfl, fun _ => ⟨.float x, ?_, rfl⟩⟩
      rw [readPresent, readSized_bytesOf, ofNat_natOf_bytesOf (by decide)]
    | _ => cases kind
  | text s =>
    refine ⟨textBytes s, writePresent_text kind s, fun _ => ⟨.text s, ?_, rfl⟩⟩
    rw [readPresent_text kind, characters_textBytes]
  | uuid u =>
    cases type with
    | uuid =>
      refine ⟨_, rfl, fun _ => ⟨.uuid u, ?_, rfl⟩⟩
      rw [readPresent, readSized_bytesOf, ofNat_natOf_bytesOf (by decide)]
    | _ => cases kind
  | timestamp t =>
    refine ⟨_, writePresent_time kind t, fun regular => ?_⟩
    obtain ⟨c, read, cut⟩ := Timestamp.exists_cut regular
    refine ⟨.timestamp c, ?_, c, rfl, cut⟩
    rw [readPresent_time kind, readSized_bytesOfInt, intOf_bytesOfInt t.fits_microseconds, read]
  | date d =>
    cases type with
    | date =>
      have day : Date.ofDay? (epochDay + (d.day - epochDay)) = some d := Date.ofDay_eq_some.mpr (by omega)
      refine ⟨_, rfl, fun _ => ⟨.date d, ?_, rfl⟩⟩
      rw [readPresent, readSized_bytesOfInt, intOf_bytesOfInt d.fits_day, day]
    | _ => cases kind
  | json j =>
    refine ⟨_, writePresent_json kind j, fun (text : Json.parse? j.text = some j) => ⟨.json j, ?_, rfl⟩⟩
    rw [readPresent_json kind, readJson, characters_textBytes, Option.bind_some, text]

/-- The one way to have no room is an integer out of the range of its type, which is refused. -/
theorem writePresent_without_room {type : WireType} {v : Value} (kind : type.kind? = some v.kind)
    (full : ¬ type.HasRoom v) : v.writePresent type = .error .integerRange := by
  cases v with
  | int i =>
    obtain ⟨width, -, write, fit, -⟩ := exists_width kind
    have large : ¬ fits width i.toInt = true := mt (fit i).mpr full
    rw [write, writeInt, if_neg large]
  | _ => exact absurd trivial full

/-! ## From the bytes -/

/-- An integer that was read has room in the type and is written with the bytes it was read from. -/
theorem writePresent_of_read_int {type : WireType} (kind : type.kind? = some .int) {bs : Bytes} {w : Value}
    (read : readPresent type bs = .ok w) : w.kind = .int ∧ w.writePresent type = .ok bs := by
  obtain ⟨width, narrow, write, -, reads⟩ := exists_width kind
  rw [reads, readSized_eq_ok] at read
  obtain ⟨rfl, read⟩ := read
  cases read
  have value : (Int64.ofInt (intOf bs)).toInt = intOf bs := toInt_ofInt narrow (fits_intOf bs)
  refine ⟨rfl, ?_⟩
  rw [write, writeInt, value, if_pos (fits_intOf bs), bytesOfInt_intOf]

/-- What is read of a type, documents apart, is of its kind and is written with the bytes it was read
from. -/
theorem writePresent_of_read {type : WireType} {k : Kind} (kind : type.kind? = some k) (plain : k ≠ .json)
    {bs : Bytes} (truth : type = .bool → bs = [0] ∨ bs = [1]) {w : Value} (read : readPresent type bs = .ok w) :
    w.kind = k ∧ w.writePresent type = .ok bs := by
  cases k with
  | null => cases type <;> cases kind
  | bool =>
    cases type with
    | bool => obtain rfl | rfl := truth rfl <;> (cases read; exact ⟨rfl, rfl⟩)
    | _ => cases kind
  | int => exact writePresent_of_read_int kind read
  | float =>
    cases type with
    | float8 =>
      rw [readPresent, readSized_eq_ok] at read
      obtain ⟨sized, read⟩ := read
      cases read
      have same : bytesOf bs.length (BitVec.ofNat 64 (natOf bs)).toNat = bs := bytesOf_toNat_ofNat (by simp [sized])
      exact ⟨rfl, congrArg Except.ok (sized ▸ same)⟩
    | _ => cases kind
  | text =>
    rw [readPresent_text kind] at read
    split at read
    case h_1 s spelled =>
      cases read
      exact ⟨rfl, by rw [writePresent_text kind, textBytes_of_characters spelled]⟩
    case h_2 => cases read
  | uuid =>
    cases type with
    | uuid =>
      rw [readPresent, readSized_eq_ok] at read
      obtain ⟨sized, read⟩ := read
      cases read
      have same : bytesOf bs.length (BitVec.ofNat 128 (natOf bs)).toNat = bs := bytesOf_toNat_ofNat (by simp [sized])
      exact ⟨rfl, congrArg Except.ok (sized ▸ same)⟩
    | _ => cases kind
  | timestamp =>
    rw [readPresent_time kind] at read
    obtain ⟨sized, read⟩ := readSized_eq_ok.mp read
    split at read
    case h_1 t spelled =>
      cases read
      refine ⟨rfl, ?_⟩
      rw [writePresent_time kind, Timestamp.microseconds_of_timestamp spelled, ← sized, bytesOfInt_intOf]
    case h_2 => cases read
  | date =>
    cases type with
    | date =>
      rw [readPresent, readSized_eq_ok] at read
      obtain ⟨sized, read⟩ := read
      split at read
      case h_1 d spelled =>
        cases read
        have day : d.day - epochDay = intOf bs := by
          rw [Date.ofDay_eq_some.mp spelled]
          omega
        refine ⟨rfl, ?_⟩
        rw [writePresent, day, ← sized, bytesOfInt_intOf]
      case h_2 => cases read
    | _ => cases kind
  | json => exact absurd rfl plain

/-- What is read of a document type is the document that its bytes spell behind the version. -/
theorem exists_document {type : WireType} (kind : type.kind? = some .json) {bs : Bytes} {w : Value}
    (read : readPresent type bs = .ok w) :
    ∃ s j, bs = type.version ++ textBytes s ∧ Json.parse? s = some j ∧ w = .json j := by
  obtain ⟨rest, rfl, document⟩ : ∃ rest, bs = type.version ++ rest ∧ readJson rest = .ok w := by
    cases type with
    | json => exact ⟨bs, rfl, read⟩
    | jsonb =>
      simp only [readPresent] at read
      split at read
      · exact ⟨_, rfl, read⟩
      · cases read
    | _ => cases kind
  rw [readJson] at document
  split at document
  case h_1 j found =>
    cases document
    obtain ⟨s, spelled, parsed⟩ := Option.bind_eq_some_iff.mp found
    exact ⟨s, j, by rw [textBytes_of_characters spelled], parsed, rfl⟩
  case h_2 => cases document

/-- The bytes of a type and the values of its kind determine each other.

A value is written unless it is an integer that the type has no room for, and is read from its bytes as it
comes back. What is read is written with its bytes again, a document with the text that it has. A UUID
written as characters is read as its text, which is written as the UUID is. -/
theorem wire_round_trip (type : WireType) :
    (∀ v : Value, type.kind? = some v.kind → type.HasRoom v →
      ∃ bs, v.write type = .ok (some bs) ∧ (v.Regular → ∃ w, read type (some bs) = .ok w ∧ v.ComesBack w)) ∧
    (∀ v : Value, type.kind? = some v.kind → ¬ type.HasRoom v → v.write type = .error .integerRange) ∧
    (∀ bs w k, type.kind? = some k → k ≠ .json → (type = .bool → bs = [0] ∨ bs = [1]) →
      read type (some bs) = .ok w → w.kind = k ∧ w.write type = .ok (some bs)) ∧
    (∀ bs w, type.kind? = some .json → read type (some bs) = .ok w →
      ∃ s j, bs = type.version ++ textBytes s ∧ Json.parse? s = some j ∧ w = .json j ∧
        w.write type = .ok (some (type.version ++ textBytes j.text))) ∧
    (type.isText = true → ∀ u : Uuid, ∃ bs ds, (Value.uuid u).write type = .ok (some bs) ∧
      read type (some bs) = .ok (.text u.text) ∧ ds.length = 16 ∧
      (Value.uuid u).write .uuid = .ok (some ds) ∧ (Value.text u.text).write .uuid = .ok (some ds)) := by
  refine ⟨?_, ?_, ?_, ?_, ?_⟩
  · intro v kind room
    obtain ⟨bs, written, reads⟩ := exists_comesBack kind room
    exact ⟨bs, by rw [write_of_kind kind, written]; rfl, reads⟩
  · intro v kind full
    rw [write_of_kind kind, writePresent_without_room kind full]
    rfl
  · intro bs w k kind plain truth reads
    obtain ⟨rfl, written⟩ := writePresent_of_read kind plain truth reads
    exact ⟨rfl, by rw [write_of_kind kind, written]; rfl⟩
  · intro bs w kind reads
    obtain ⟨s, j, spelled, parsed, rfl⟩ := exists_document kind reads
    exact ⟨s, j, spelled, parsed, rfl, by rw [write_of_kind kind, writePresent_json kind]; rfl⟩
  · intro text u
    have kind : type.kind? = some .text := kind_of_isText text
    refine ⟨textBytes u.text, bytesOf 16 u.bits.toNat, ?_, ?_, length_bytesOf _ _, rfl, ?_⟩
    · cases type with
      | text | varchar | bpchar | name => rfl
      | _ => cases kind
    · rw [read, readPresent_text kind, characters_textBytes]
    · rw [write, writePresent, Uuid.parse_text]
      rfl

/-- The values that come back in ways of their own: a timestamp before the epoch, an integer out of range, a
date that was read, a document that was read behind its version and a UUID among characters. -/
theorem wire_round_trip_in_each_way :
    (∃ bs, (Value.timestamp ⟨946684799, 123456789, by decide, by decide⟩).write .timestamptz = .ok (some bs) ∧
      ∃ w, read .timestamptz (some bs) = .ok w ∧
        (Value.timestamp ⟨946684799, 123456789, by decide, by decide⟩).ComesBack w) ∧
    (Value.int 32768).write .int2 = .error .integerRange ∧
    (Value.date ⟨10956, by decide⟩).write .date = .ok (some [255, 255, 255, 255]) ∧
    (∃ s j, ([1, 32, 91, 93] : Bytes) = WireType.version .jsonb ++ textBytes s ∧ Json.parse? s = some j ∧
      Value.json (.arr []) = .json j ∧
      (Value.json (.arr [])).write .jsonb = .ok (some (WireType.version .jsonb ++ textBytes j.text))) ∧
    ∃ bs ds, (Value.uuid ⟨1#128⟩).write .name = .ok (some bs) ∧
      read .name (some bs) = .ok (.text (Uuid.text ⟨1#128⟩)) ∧ ds.length = 16 ∧
      (Value.uuid ⟨1#128⟩).write .uuid = .ok (some ds) ∧
      (Value.text (Uuid.text ⟨1#128⟩)).write .uuid = .ok (some ds) := by
  refine ⟨?_, ?_, ?_, ?_, ?_⟩
  · obtain ⟨bs, written, reads⟩ := (wire_round_trip .timestamptz).1
      (.timestamp ⟨946684799, 123456789, by decide, by decide⟩) rfl trivial
    exact ⟨bs, written, reads (by decide : 123456789 < 1000000000)⟩
  · exact (wire_round_trip .int2).2.1 (.int 32768) rfl fun room =>
      absurd room.2 (by decide +kernel : ¬ (32768 : Int64).toInt ≤ 32767)
  · have spelled : intOf [255, 255, 255, 255] = -1 := by decide +kernel
    have found : read .date (some [255, 255, 255, 255]) = .ok (.date ⟨10956, by decide⟩) := by
      simp only [read, readPresent, readSized, spelled]
      rfl
    exact ((wire_round_trip .date).2.2.1 _ _ .date rfl (by decide) nofun found).2
  · have spelled : textBytes " []" = [32, 91, 93] := by decide +kernel
    have parsed : Json.parse? " []" = some (.arr []) := rfl
    have found : read .jsonb (some [1, 32, 91, 93]) = .ok (.json (.arr [])) := by
      show readJson [32, 91, 93] = .ok (.json (.arr []))
      rw [← spelled, readJson, characters_textBytes, Option.bind_some, parsed]
    exact (wire_round_trip .jsonb).2.2.2.1 _ _ rfl found
  · exact (wire_round_trip .name).2.2.2.2 rfl ⟨1#128⟩

/-- A nanosecond before the epoch is cut to the epoch. -/
example : (Value.timestamp ⟨946684799, 999999999, by decide, by decide⟩).write .timestamptz =
    .ok (some [0, 0, 0, 0, 0, 0, 0, 0]) := rfl

end Value
end Sift
