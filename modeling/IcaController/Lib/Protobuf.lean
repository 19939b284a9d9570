/-
The protobuf wire format, as far as length-delimited fields go.

A message is the concatenation of its fields.  A field is a key (field number and
wire type), and for the length-delimited wire type a length and that many bytes.
A scalar field holding its default value is left out; an embedded message is
always written.

A message read back is the list of its fields in the order they stand in.  Lengths
make the fields self-delimiting, so no payload can run into what follows it: the
round trip needs nothing of the payloads at all.
-/
import Mathlib.Data.List.Basic

/-- A sequence of bytes. -/
abbrev Bytes := List UInt8

/-- The UTF-8 bytes of a string. -/
def String.utf8 (s : String) : Bytes := s.toUTF8.data.toList

theorem String.utf8_toByteArray (s : String) : s.utf8.toByteArray = s.toUTF8 := by
  apply ByteArray.ext
  simp [String.utf8]

/-- The UTF-8 bytes of a string read as that string. -/
theorem String.fromUTF8?_utf8 (s : String) : String.fromUTF8? s.utf8.toByteArray = some s := by
  have hvalid : s.toUTF8.IsValidUTF8 := s.isValidUTF8
  rw [String.utf8_toByteArray, String.fromUTF8?, dif_pos hvalid]
  rfl

namespace Protobuf

/-- Base-128 digits, least significant first, all but the last with the high bit set. -/
def varintLoop : Nat → Nat → Bytes
  | 0, n => [UInt8.ofNat n]
  | fuel + 1, n =>
      if n < 128 then [UInt8.ofNat n]
      else UInt8.ofNat (n % 128 + 128) :: varintLoop fuel (n / 128)

/-- A number as a varint. -/
def varint (n : Nat) : Bytes := varintLoop n n

/-- A length-delimited field. -/
def lengthDelimited (field : Nat) (payload : Bytes) : Bytes :=
  varint (8 * field + 2) ++ varint payload.length ++ payload

/-- A `bytes` field: left out when empty. -/
def bytesField (field : Nat) (payload : Bytes) : Bytes :=
  if payload = [] then [] else lengthDelimited field payload

/-- A `string` field: left out when empty. -/
def stringField (field : Nat) (s : String) : Bytes := bytesField field s.utf8

/-- The occurrences of a repeated embedded message. -/
def repeatedField (field : Nat) (messages : List Bytes) : Bytes :=
  messages.flatMap (lengthDelimited field)

/-! ### Reading

A reader that knows its fields asks for them by number: a repeated field is all its
occurrences in order, and of a scalar one the last counts.
-/

/-- The number at the start of some bytes, and what follows it. -/
def readVarint : Bytes → Option (Nat × Bytes)
  | [] => none
  | b :: rest =>
      if b.toNat < 128 then some (b.toNat, rest)
      else do
        let (n, rest) ← readVarint rest
        return (b.toNat - 128 + 128 * n, rest)

/-- The length-delimited field at the start of some bytes, and what follows it. -/
def readField (bytes : Bytes) : Option ((Nat × Bytes) × Bytes) := do
  let (key, rest) ← readVarint bytes
  let (len, rest) ← readVarint rest
  if key % 8 = 2 && len ≤ rest.length then some ((key / 8, rest.take len), rest.drop len)
  else none

def readFieldsLoop : Nat → Bytes → Option (List (Nat × Bytes))
  | _, [] => some []
  | 0, _ :: _ => none
  | fuel + 1, bytes => do
      let (field, rest) ← readField bytes
      let fields ← readFieldsLoop fuel rest
      return field :: fields

/-- The fields of a message, which must all be length-delimited. -/
def readFields (bytes : Bytes) : Option (List (Nat × Bytes)) :=
  readFieldsLoop bytes.length bytes

/-- The values of a repeated field. -/
def allOf (field : Nat) (fields : List (Nat × Bytes)) : List Bytes :=
  (fields.filter fun f => f.1 = field).map Prod.snd

/-- The value of a scalar field: the last one given, or the default. -/
def lastOf (field : Nat) (fields : List (Nat × Bytes)) : Bytes :=
  ((allOf field fields).getLast?).getD []

/-- The value of a `string` field, if it is one. -/
def stringOf (field : Nat) (fields : List (Nat × Bytes)) : Option String :=
  String.fromUTF8? (lastOf field fields).toByteArray

/-! ### Round trip -/

theorem readVarint_loop (fuel n : Nat) (rest : Bytes) (h : n ≤ fuel) :
    readVarint (varintLoop fuel n ++ rest) = some (n, rest) := by
  induction fuel generalizing n with
  | zero =>
      obtain rfl : n = 0 := by omega
      rfl
  | succ fuel ih =>
      unfold varintLoop
      by_cases hsmall : n < 128
      · have hbyte : (UInt8.ofNat n).toNat = n := by
          rw [UInt8.toNat_ofNat']
          omega
        rw [if_pos hsmall, List.singleton_append, readVarint, hbyte, if_pos hsmall]
      · have hbyte : (UInt8.ofNat (n % 128 + 128)).toNat = n % 128 + 128 := by
          rw [UInt8.toNat_ofNat']
          omega
        have hsum : n % 128 + 128 - 128 + 128 * (n / 128) = n := by omega
        rw [if_neg hsmall, List.cons_append, readVarint, hbyte, if_neg (by omega),
          ih (n / 128) (by omega)]
        simp only [Option.bind_eq_bind, Option.bind_some, Option.pure_def, hsum]

/-- **A varint reads as its number**, and what follows it is left alone. -/
theorem readVarint_varint (n : Nat) (rest : Bytes) :
    readVarint (varint n ++ rest) = some (n, rest) :=
  readVarint_loop n n rest (Nat.le_refl n)

/-- A field reads as its number and payload, whatever the payload and what follows. -/
theorem readField_lengthDelimited (field : Nat) (payload rest : Bytes) :
    readField (lengthDelimited field payload ++ rest) = some ((field, payload), rest) := by
  have hwire : (8 * field + 2) % 8 = 2 := by omega
  have hfield : (8 * field + 2) / 8 = field := by omega
  simp only [readField, lengthDelimited, List.append_assoc, readVarint_varint,
    Option.bind_eq_bind, Option.bind_some, hwire, hfield]
  simp

/-- The message made of some fields. -/
def encodeFields (fields : List (Nat × Bytes)) : Bytes :=
  fields.flatMap fun f => lengthDelimited f.1 f.2

theorem lengthDelimited_ne_nil (field : Nat) (payload : Bytes) :
    lengthDelimited field payload ≠ [] := by
  intro h
  have hread := readField_lengthDelimited field payload []
  rw [h] at hread
  cases hread

theorem readFieldsLoop_lengthDelimited (fuel field : Nat) (payload rest : Bytes) :
    readFieldsLoop (fuel + 1) (lengthDelimited field payload ++ rest) =
      (readFieldsLoop fuel rest).map ((field, payload) :: ·) := by
  obtain ⟨b, bytes, hcons⟩ := List.exists_cons_of_ne_nil (lengthDelimited_ne_nil field payload)
  have hread := readField_lengthDelimited field payload rest
  rw [hcons, List.cons_append] at hread ⊢
  rw [readFieldsLoop]
  · simp only [hread, Option.bind_eq_bind, Option.bind_some]
    cases hrest : readFieldsLoop fuel rest <;> simp
  · intro h
    cases h

theorem readFieldsLoop_encodeFields (fields : List (Nat × Bytes)) (fuel : Nat)
    (h : fields.length ≤ fuel) : readFieldsLoop fuel (encodeFields fields) = some fields := by
  induction fields generalizing fuel with
  | nil => cases fuel <;> rfl
  | cons f fields ih =>
      cases fuel with
      | zero => simp at h
      | succ fuel =>
          have hrest := ih fuel (by simpa using h)
          have hbytes : encodeFields (f :: fields) =
              lengthDelimited f.1 f.2 ++ encodeFields fields := rfl
          rw [hbytes, readFieldsLoop_lengthDelimited, hrest]
          rfl

theorem length_le_encodeFields (fields : List (Nat × Bytes)) :
    fields.length ≤ (encodeFields fields).length := by
  induction fields with
  | nil => exact Nat.le_refl 0
  | cons f fields ih =>
      have hpos := List.length_pos_of_ne_nil (lengthDelimited_ne_nil f.1 f.2)
      have hbytes : encodeFields (f :: fields) =
          lengthDelimited f.1 f.2 ++ encodeFields fields := rfl
      rw [hbytes, List.length_append, List.length_cons]
      omega

/-- **A message reads as the fields it was made of.** -/
theorem readFields_encodeFields (fields : List (Nat × Bytes)) :
    readFields (encodeFields fields) = some fields :=
  readFieldsLoop_encodeFields fields _ (length_le_encodeFields fields)

/-! ### Messages as fields -/

/-- The occurrences of a scalar field: none for the default. -/
def scalar (field : Nat) (payload : Bytes) : List (Nat × Bytes) :=
  if payload = [] then [] else [(field, payload)]

/-- The occurrences of a repeated field. -/
def repeated (field : Nat) (messages : List Bytes) : List (Nat × Bytes) :=
  messages.map (field, ·)

theorem encodeFields_append (fs gs : List (Nat × Bytes)) :
    encodeFields (fs ++ gs) = encodeFields fs ++ encodeFields gs :=
  List.flatMap_append

theorem bytesField_eq (field : Nat) (payload : Bytes) :
    bytesField field payload = encodeFields (scalar field payload) := by
  unfold bytesField scalar
  split
  · rfl
  · exact (List.append_nil _).symm

theorem repeatedField_eq (field : Nat) (messages : List Bytes) :
    repeatedField field messages = encodeFields (repeated field messages) := by
  rw [encodeFields, repeated, List.flatMap_map]
  rfl

@[simp] theorem allOf_append (field : Nat) (fs gs : List (Nat × Bytes)) :
    allOf field (fs ++ gs) = allOf field fs ++ allOf field gs := by
  simp [allOf]

@[simp] theorem allOf_scalar_ne {field other : Nat} (h : other ≠ field) (payload : Bytes) :
    allOf field (scalar other payload) = [] := by
  unfold scalar
  split
  · rfl
  · simp [allOf, h]

@[simp] theorem allOf_repeated_ne {field other : Nat} (h : other ≠ field)
    (messages : List Bytes) : allOf field (repeated other messages) = [] := by
  simp [allOf, repeated, h]

@[simp] theorem allOf_repeated (field : Nat) (messages : List Bytes) :
    allOf field (repeated field messages) = messages := by
  rw [allOf, repeated, List.filter_eq_self.mpr]
  · rw [List.map_map]
    exact List.map_id messages
  · simp

/-- A scalar field reads as its value, the default included. -/
theorem lastOf_eq {field : Nat} {fields : List (Nat × Bytes)} {payload : Bytes}
    (h : allOf field fields = allOf field (scalar field payload)) :
    lastOf field fields = payload := by
  rw [lastOf, h]
  unfold scalar
  split
  · rename_i hempty
    exact hempty.symm
  · simp [allOf]

theorem stringOf_eq {field : Nat} {fields : List (Nat × Bytes)} {s : String}
    (h : allOf field fields = allOf field (scalar field s.utf8)) :
    stringOf field fields = some s := by
  rw [stringOf, lastOf_eq h, String.fromUTF8?_utf8]

end Protobuf
