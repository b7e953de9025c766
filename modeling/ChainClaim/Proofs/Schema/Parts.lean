import ChainClaim.Proofs.Basic
import ChainClaim.Proofs.Wire.Framing
import ChainClaim.Schema
import ChainClaim.Wire.Entry

/-!
# Entries and scalars

The two ends of a message: the entries that its bytes are cut into, and the scalars that the entries
hold. Of both, what a reader accepts is what a writer gives.
-/

/-!
## Entries of written fields

The schema's reader is more lenient than the walk over frames, but it reads the written form of
well-framed fields no differently: as these fields, in order, whatever its limit on groups
(`readAll_writeFields`).
-/

namespace ChainClaim.Entry

/-- The entry that a field is read as. -/
def ofField (field : Nat × FieldValue) : Entry := ⟨field.1, some field.2⟩

theorem Tag.ofBits?_bits (type : WireType) : ofBits? type.bits = some (.value type) := by
  cases type <;> rfl

/-- The key of a field is read: it has at most 32 bits. -/
theorem readKey_writeKey {number : Nat} (type : WireType) (rest : Bytes) (hpos : 0 < number)
    (hle : number ≤ maxFieldNumber) :
    readKey (writeKey number type ++ rest) = some (number, .value type, rest) := by
  have hbits := type.bits_lt
  have hkey : number * 8 + type.bits < UInt32.size := by
    unfold maxFieldNumber at hle
    unfold UInt32.size
    omega
  -- the lenient reader takes a varint of any size; a key has to fit into 32 bits besides
  have hloose := Varint.readLoose_write (Nat.lt_trans hkey (by decide)) rest
  rw [readKey, writeKey, hloose]
  simp only [key_div_eight, key_mod_eight, Tag.ofBits?_bits, Option.map_some]
  rw [if_neg (by omega)]

theorem splitBytes?_append (bytes rest : Bytes) :
    splitBytes? bytes.length (bytes ++ rest) = some (bytes, rest) := by
  rw [splitBytes?, if_neg (by simp), List.take_left, List.drop_left]

theorem readValue_write {value : FieldValue} (hshaped : value.Shaped) (hfits : value.Fits)
    (rest : Bytes) : readValue value.wireType (value.write ++ rest) = some (value, rest) := by
  cases value with
  | varint n =>
    simp only [FieldValue.wireType, FieldValue.write, readValue, Varint.readLoose_write hshaped]
    rfl
  | fixed64 bytes =>
    have hsplit := splitBytes?_append bytes rest
    rw [show bytes.length = 8 from hshaped] at hsplit
    simp only [FieldValue.wireType, FieldValue.write, readValue, hsplit]
    rfl
  | fixed32 bytes =>
    have hsplit := splitBytes?_append bytes rest
    rw [show bytes.length = 4 from hshaped] at hsplit
    simp only [FieldValue.wireType, FieldValue.write, readValue, hsplit]
    rfl
  | delimited bytes =>
    simp only [FieldValue.wireType, FieldValue.write, readValue, List.append_assoc,
      Varint.readLoose_write hfits, splitBytes?_append]
    rfl

/-- Well-framed fields in their written form are read as these fields. Induction on the fields. -/
theorem readAll_writeFields {fields : List (Nat × FieldValue)}
    (h : ∀ field ∈ fields, WellFramed field) (limit : Nat) :
    readAll limit (writeFields fields) = some (fields.map ofField) := by
  induction fields with
  | nil =>
    rw [readAll]
    rfl
  | cons field fields ih =>
    obtain ⟨number, value⟩ := field
    rw [List.forall_mem_cons] at h
    obtain ⟨⟨hpos, hle, hshaped, hfits⟩, hrest⟩ := h
    have hne : (writeFields ((number, value) :: fields)).isEmpty = false := by
      have := writeField_append_ne_nil number value (writeFields fields)
      simpa using this
    have hkey : readKey (writeFields ((number, value) :: fields)) =
        some (number, .value value.wireType, value.write ++ writeFields fields) := by
      rw [writeFields_cons, writeField, List.append_assoc]
      exact readKey_writeKey _ _ hpos hle
    have hvalue := readValue_write hshaped hfits (writeFields fields)
    -- a value is at hand, so the limit on groups is not used up and is the same for the rest
    rw [readAll, hne]
    simp only [Bool.false_eq_true, if_false]
    -- the key is that of a value, so the cases without one and those of groups are void
    split
    next hnone => cases hkey.symm.trans hnone
    next hend => cases hkey.symm.trans hend
    next hstart => cases hkey.symm.trans hstart
    next hfound =>
      cases hkey.symm.trans hfound
      split
      next hnone => cases hvalue.symm.trans hnone
      next hsome =>
        cases hvalue.symm.trans hsome
        rw [ih hrest]
        rfl

@[simp] theorem filter_map_ofField (numbers : List Nat) (fields : List (Nat × FieldValue)) :
    (fields.map ofField).filter (·.number ∈ numbers) =
      (fields.filter (·.1 ∈ numbers)).map ofField := by
  rw [List.filter_map]
  rfl

/-- The values of entries that are some fields of one number are the values of these fields. -/
theorem mapM_value_map_ofField (fields : List (Nat × FieldValue)) :
    (fields.map ofField).mapM (·.value) = some (fields.map Prod.snd) := by
  induction fields with
  | nil => rfl
  | cons field fields ih => rw [List.map_cons, List.mapM_cons, ih]; rfl

end ChainClaim.Entry

/-!
## Laws of scalars

A scalar is read back from the value that it is written as, and only the zero of its type counts as
zero, so a field that is left out stands for the zero that was there.
-/

namespace ChainClaim.Scalar

variable {α : Type}

/-- What formats rely on of a scalar type. -/
structure Lawful (s : Scalar α) : Prop where
  shaped : ∀ a, (s.write a).Shaped
  read_write : ∀ a, s.read? (s.write a) = some a
  eq_zero : ∀ a, s.isZero a → a = s.zero

theorem ofVarint_lawful {zero : α} {isZero : α → Bool} {write : α → Nat} {read : Nat → α}
    (hlt : ∀ a, write a < 2 ^ 64) (hread : ∀ a, read (write a) = a)
    (hzero : ∀ a, isZero a → a = zero) : (ofVarint zero isZero write read).Lawful where
  shaped := hlt
  read_write a := congrArg some (hread a)
  eq_zero := hzero

/-- The 64 bits of an integer as a number. -/
theorem toNat_emod_lt (x : Int) : (x % UInt64.size).toNat < 2 ^ 64 := by
  unfold UInt64.size
  omega

theorem int32_lawful : int32.Lawful := by
  refine ofVarint_lawful (fun x => toNat_emod_lt x.toInt) (fun x => ?_) (fun x => by simp)
  -- a negative number is written with 64 bits, of which the low 32 are those of the number
  rw [← Int32.toInt_inj, Int32.toInt_ofInt, Int32.size]
  have hlo := x.le_toInt
  have hhi := x.toInt_lt
  simp only [Int.bmod_def, UInt64.size]
  omega

theorem int64_lawful : int64.Lawful := by
  refine ofVarint_lawful (fun x => toNat_emod_lt x.toInt) (fun x => ?_) (fun x => by simp)
  rw [← Int64.toInt_inj, Int64.toInt_ofInt, Int64.size]
  have hlo := x.le_toInt
  have hhi := x.toInt_lt
  simp only [Int.bmod_def, UInt64.size]
  omega

theorem uint32_lawful : uint32.Lawful :=
  ofVarint_lawful (fun x => Nat.lt_trans x.toNat_lt (by decide)) (fun _ => UInt32.ofNat_toNat)
    (fun x => by simp)

theorem uint64_lawful : uint64.Lawful :=
  ofVarint_lawful UInt64.toNat_lt (fun _ => UInt64.ofNat_toNat) (fun x => by simp)

/-- The zigzag image of a 32-bit number has 32 bits. -/
theorem zigzag_lt (x : Int32) : zigzag x.toInt < 2 ^ 32 := by
  have hlo := x.le_toInt
  have hhi := x.toInt_lt
  unfold zigzag
  split <;> omega

theorem sint32_lawful : sint32.Lawful := by
  refine ofVarint_lawful (fun x => Nat.lt_trans (zigzag_lt x) (by decide)) (fun x => ?_)
    (fun x => by simp)
  have hlt : zigzag x.toInt < UInt32.size := zigzag_lt x
  rw [Nat.mod_eq_of_lt hlt, unzigzag_zigzag, Int32.ofInt_toInt]

theorem bool_lawful : bool.Lawful := by
  refine ofVarint_lawful (fun b => ?_) (fun b => ?_) (fun b => ?_) <;> cases b <;> decide

theorem string_lawful : string.Lawful where
  shaped _ := trivial
  read_write := Text.ofBytes?_toBytes
  eq_zero s h := by simpa [string] using h

theorem bytes_lawful : bytes.Lawful where
  shaped _ := trivial
  read_write _ := rfl
  eq_zero bs h := by simpa [bytes] using h

/-- A number is written as its bits, so every bit of it comes back, those of NaN payloads too. -/
theorem float_lawful : float.Lawful where
  shaped x := by
    show (Bytes.ofNat 4 x.bits.toNat).reverse.length = 4
    rw [List.length_reverse, Bytes.length_ofNat]
  read_write x := by
    show some (Binary32.mk (UInt32.ofNat (Bytes.toNat (Bytes.ofNat 4 x.bits.toNat).reverse.reverse)))
      = some x
    -- the four bytes stand in reverse order, and cover the range of the bits
    have hlt : x.bits.toNat < 256 ^ 4 := x.bits.toNat_lt
    rw [List.reverse_reverse, Bytes.toNat_ofNat, Nat.mod_eq_of_lt hlt, UInt32.ofNat_toNat]
  eq_zero x h := by
    obtain ⟨bits⟩ := x
    have hbits : bits = 0 := by simpa [float] using h
    rw [hbits]
    rfl

end ChainClaim.Scalar
