import ChainClaim.Proofs.Basic
import ChainClaim.Proofs.Wire.VarintForm
import ChainClaim.Wire.Frame

/-!
# Framing

A walk over frames and the writing of fields are inverse to each other. `Frame.readAll_eq_ok_iff`
says it in both directions: a buffer is read exactly if it is some well-framed fields in their
written form, and what is read are these fields, each where it stands. `writeFields_inj` is the same
uniqueness without the reader's bounds: fields of the right shape are told by their bytes alone.
-/

namespace ChainClaim

/-! ## What can stand in a frame -/

/-- The shape that the type of a value fixes: numbers of 64 bits, fixed values of their width. -/
def FieldValue.Shaped : FieldValue → Prop
  | .varint n => n < 2 ^ 64
  | .fixed64 bytes => bytes.length = 8
  | .delimited _ => True
  | .fixed32 bytes => bytes.length = 4

/-- A length that is written is a 64-bit number. -/
def FieldValue.Fits : FieldValue → Prop
  | .delimited bytes => bytes.length < 2 ^ 64
  | _ => True

/-- A field that has a frame: its number is one of a field, and its value has its shape and a
length that can be written. -/
structure WellFramed (field : Nat × FieldValue) : Prop where
  number_pos : 0 < field.1
  number_le : field.1 ≤ maxFieldNumber
  shaped : field.2.Shaped
  fits : field.2.Fits

theorem FieldValue.fits_of_length_lt {value : FieldValue} (h : value.write.length < 2 ^ 64) :
    value.Fits := by
  cases value with
  | delimited bytes =>
    rw [write, List.length_append] at h
    show bytes.length < 2 ^ 64
    omega
  | varint | fixed64 | fixed32 => trivial

@[simp] theorem writeFields_nil : writeFields [] = [] := rfl

@[simp] theorem writeFields_cons (field : Nat × FieldValue) (fields : List (Nat × FieldValue)) :
    writeFields (field :: fields) = writeField field.1 field.2 ++ writeFields fields := rfl

theorem writeFields_append (fields others : List (Nat × FieldValue)) :
    writeFields (fields ++ others) = writeFields fields ++ writeFields others :=
  List.flatMap_append

/-! ## One field -/

theorem key_div_eight (number : Nat) (type : WireType) :
    (number * 8 + type.bits) / 8 = number := by
  have := type.bits_lt
  omega

theorem key_mod_eight (number : Nat) (type : WireType) :
    (number * 8 + type.bits) % 8 = type.bits := by
  have := type.bits_lt
  omega

theorem WireType.ofBits?_eq_some {n : Nat} {type : WireType} (h : ofBits? n = some type) :
    n = type.bits := by
  unfold ofBits? at h
  split at h <;> cases h <;> rfl

theorem takeBytes_eq_ok {pos length : Nat} {bs bytes : Bytes}
    (h : takeBytes pos length bs = .ok bytes) :
    bytes.length = length ∧ bs = bytes ++ bs.drop length := by
  unfold takeBytes at h
  split at h
  · cases h
  · cases h
    exact ⟨List.length_take_of_le (by omega), (List.take_append_drop length bs).symm⟩

theorem takeBytes_append (pos : Nat) (bytes rest : Bytes) :
    takeBytes pos bytes.length (bytes ++ rest) = .ok bytes := by
  unfold takeBytes
  rw [if_neg (by simp), List.take_left]

namespace FieldValue

/-- A value that is read is one of its type, and stands in its written form. -/
theorem read_sound {type : WireType} {pos length : Nat} {bs : Bytes} {value : FieldValue}
    (h : read type pos bs = .ok (value, length)) :
    value.wireType = type ∧ value.Shaped ∧ value.Fits ∧ length = value.write.length ∧
      ∃ rest, bs = value.write ++ rest := by
  cases type with
  | varint =>
    obtain ⟨⟨n, len⟩, hn, h⟩ := Outcome.bind_eq_ok.mp h
    cases h
    obtain ⟨hlt, rfl, hrest⟩ := Varint.read_eq_ok_iff.mp hn
    exact ⟨rfl, hlt, trivial, rfl, hrest⟩
  | fixed64 =>
    obtain ⟨bytes, hb, h⟩ := Outcome.bind_eq_ok.mp h
    cases h
    obtain ⟨hlen, hrest⟩ := takeBytes_eq_ok hb
    exact ⟨rfl, hlen, trivial, hlen.symm, _, hrest⟩
  | fixed32 =>
    obtain ⟨bytes, hb, h⟩ := Outcome.bind_eq_ok.mp h
    cases h
    obtain ⟨hlen, hrest⟩ := takeBytes_eq_ok hb
    exact ⟨rfl, hlen, trivial, hlen.symm, _, hrest⟩
  | delimited =>
    obtain ⟨⟨len, width⟩, hn, h⟩ := Outcome.bind_eq_ok.mp h
    obtain ⟨bytes, hb, h⟩ := Outcome.bind_eq_ok.mp h
    cases h
    obtain ⟨hlt, rfl, rest, rfl⟩ := Varint.read_eq_ok_iff.mp hn
    -- behind the form of the length stand the bytes that it counts
    rw [List.drop_left] at hb
    obtain ⟨rfl, hrest⟩ := takeBytes_eq_ok hb
    refine ⟨rfl, trivial, hlt, ?_, rest.drop bytes.length, ?_⟩
    · rw [write, List.length_append]
    · rw [write, List.append_assoc, ← hrest]

/-- A value in its written form is read, whatever follows it. -/
theorem read_write {value : FieldValue} (hshaped : value.Shaped) (hfits : value.Fits) (pos : Nat)
    (rest : Bytes) :
    read value.wireType pos (value.write ++ rest) = .ok (value, value.write.length) := by
  cases value with
  | varint n =>
    simp only [wireType, read, write, Varint.read_write hshaped, Outcome.ok_bind]
    rfl
  | fixed64 bytes =>
    have hlen : bytes.length = 8 := hshaped
    have htake := takeBytes_append pos bytes rest
    rw [hlen] at htake
    simp only [wireType, read, write, htake, Outcome.ok_bind, hlen]
    rfl
  | fixed32 bytes =>
    have hlen : bytes.length = 4 := hshaped
    have htake := takeBytes_append pos bytes rest
    rw [hlen] at htake
    simp only [wireType, read, write, htake, Outcome.ok_bind, hlen]
    rfl
  | delimited bytes =>
    simp only [wireType, read, write, List.append_assoc, Varint.read_write hfits,
      Outcome.ok_bind, List.drop_left, takeBytes_append, List.length_append]
    rfl

/-- Values of one type are told by their bytes, whatever follows them. -/
theorem write_append_inj {v w : FieldValue} {a b : Bytes} (hv : v.Shaped) (hw : w.Shaped)
    (htype : v.wireType = w.wireType) (h : v.write ++ a = w.write ++ b) : v = w ∧ a = b := by
  cases v <;> cases w <;> cases htype
  case varint.varint.refl =>
    obtain ⟨rfl, hab⟩ := Varint.write_append_inj h
    exact ⟨rfl, hab⟩
  case fixed64.fixed64.refl =>
    obtain ⟨rfl, hab⟩ := List.append_inj h (hv.trans hw.symm)
    exact ⟨rfl, hab⟩
  case fixed32.fixed32.refl =>
    obtain ⟨rfl, hab⟩ := List.append_inj h (hv.trans hw.symm)
    exact ⟨rfl, hab⟩
  case delimited.delimited.refl =>
    -- the length stands in front and is told by itself; then the bytes are
    rw [write, write, List.append_assoc, List.append_assoc] at h
    obtain ⟨hlen, h⟩ := Varint.write_append_inj h
    obtain ⟨rfl, hab⟩ := List.append_inj h hlen
    exact ⟨rfl, hab⟩

end FieldValue

theorem length_writeField_pos (number : Nat) (value : FieldValue) :
    0 < (writeField number value).length := by
  rw [writeField, writeKey, List.length_append]
  have := Varint.length_write_pos (number * 8 + value.wireType.bits)
  omega

theorem writeField_append_ne_nil (number : Nat) (value : FieldValue) (rest : Bytes) :
    writeField number value ++ rest ≠ [] := by
  intro h
  have hlen := length_writeField_pos number value
  rw [(List.append_eq_nil_iff.mp h).1] at hlen
  exact absurd hlen (by decide)

theorem writeField_append_inj {n m : Nat} {v w : FieldValue} {a b : Bytes} (hv : v.Shaped)
    (hw : w.Shaped) (h : writeField n v ++ a = writeField m w ++ b) : n = m ∧ v = w ∧ a = b := by
  rw [writeField, writeKey, writeField, writeKey, List.append_assoc, List.append_assoc] at h
  obtain ⟨hkey, h⟩ := Varint.write_append_inj h
  -- a key is a number and a type, the type as its rest by eight
  have hbits : v.wireType.bits = w.wireType.bits := by
    rw [← key_mod_eight n, hkey, key_mod_eight]
  have htype : v.wireType = w.wireType := by
    have := congrArg WireType.ofBits? hbits
    rw [WireType.ofBits?_bits, WireType.ofBits?_bits] at this
    exact Option.some.inj this
  obtain ⟨rfl, rfl⟩ := FieldValue.write_append_inj hv hw htype h
  exact ⟨by omega, rfl, rfl⟩

/-- Fields of the right shape are told by their bytes. Induction on both lists together. -/
theorem writeFields_inj {fields others : List (Nat × FieldValue)}
    (hf : ∀ field ∈ fields, field.2.Shaped) (ho : ∀ field ∈ others, field.2.Shaped)
    (h : writeFields fields = writeFields others) : fields = others := by
  induction fields generalizing others with
  | nil =>
    cases others with
    | nil => rfl
    | cons other others =>
      -- a field has bytes, so lists of different lengths are told apart at the end of the shorter
      exact absurd h.symm (writeField_append_ne_nil other.1 other.2 _)
  | cons field fields ih =>
    cases others with
    | nil => exact absurd h (writeField_append_ne_nil field.1 field.2 _)
    | cons other others =>
      rw [writeFields_cons, writeFields_cons] at h
      rw [List.forall_mem_cons] at hf ho
      obtain ⟨hn, hv, h⟩ := writeField_append_inj hf.1 ho.1 h
      rw [ih hf.2 ho.2 h, Prod.ext hn hv]

/-- The bytes of a value are among those of its field. -/
theorem length_write_le_writeField (number : Nat) (value : FieldValue) :
    value.write.length ≤ (writeField number value).length := by
  rw [writeField, List.length_append]
  omega

/-- A value that stands in so short a field has a length that can be written. -/
theorem FieldValue.fits_of_writeField {number : Nat} {value : FieldValue} {before : Bytes}
    (h : (before ++ writeField number value).length < 2 ^ 64) : value.Fits := by
  have hvalue := length_write_le_writeField number value
  rw [List.length_append] at h
  exact fits_of_length_lt (by omega)

/-- The bytes of a field's value are among those of the fields around it. -/
theorem length_write_le_of_mem {field : Nat × FieldValue} {fields : List (Nat × FieldValue)}
    (h : field ∈ fields) : field.2.write.length ≤ (writeFields fields).length := by
  have hvalue := length_write_le_writeField field.1 field.2
  obtain ⟨before, behind, rfl⟩ := List.append_of_mem h
  rw [writeFields_append, writeFields_cons, List.length_append, List.length_append]
  omega

/-! ## One frame -/

namespace Frame

/-- What stands in a frame. -/
def field (f : Frame) : Nat × FieldValue := (f.number, f.value)

/-- A frame that is read is a well-framed field in its written form. -/
theorem read_sound {pos : Nat} {bs : Bytes} {f : Frame} (h : read pos bs = .ok f) :
    WellFramed f.field ∧ f.start = pos ∧ f.stop = pos + (writeField f.number f.value).length ∧
      ∃ rest, bs = writeField f.number f.value ++ rest := by
  rw [read] at h
  -- what a reader asks in turn: a key, the number in it, the type in it, the value
  split at h
  · cases h
  next key keyLength hkey =>
  split at h
  · cases h
  next hnumber =>
  split at h
  · cases h
  next type htype =>
  split at h
  · cases h
  next value length hvalue =>
  cases h
  obtain ⟨-, rfl, rest, rfl⟩ := Varint.read_eq_ok_iff.mp hkey
  rw [List.drop_left] at hvalue
  obtain ⟨rfl, hshaped, hfits, rfl, rest, rfl⟩ := FieldValue.read_sound hvalue
  have hbits := WireType.ofBits?_eq_some htype
  -- the key that was read is the key of the field
  have hfield : writeField (key / 8) value = Varint.write key ++ value.write := by
    rw [writeField, writeKey, ← hbits, show key / 8 * 8 + key % 8 = key from by omega]
  refine ⟨⟨?_, ?_, hshaped, hfits⟩, rfl, ?_, rest, ?_⟩
  · show 0 < key / 8
    omega
  · show key / 8 ≤ maxFieldNumber
    omega
  · rw [hfield, List.length_append, Nat.add_assoc]
  · rw [hfield, List.append_assoc]

/-- A well-framed field in its written form is read, whatever follows it. -/
theorem read_writeField {number : Nat} {value : FieldValue} (h : WellFramed (number, value))
    (pos : Nat) (rest : Bytes) :
    read pos (writeField number value ++ rest) =
      .ok ⟨number, pos, pos + (writeField number value).length, value⟩ := by
  have hle : number ≤ maxFieldNumber := h.number_le
  have hpos : 0 < number := h.number_pos
  have hbits := value.wireType.bits_lt
  -- the largest field number leaves room for the type in 64 bits
  have hkey : number * 8 + value.wireType.bits < 2 ^ 64 := by
    unfold maxFieldNumber at hle
    omega
  have hnumber : ¬(number = 0 ∨ maxFieldNumber < number) := by omega
  rw [read, writeField, writeKey, List.append_assoc, Varint.read_write hkey]
  simp only [key_div_eight, key_mod_eight, WireType.ofBits?_bits, List.drop_left,
    FieldValue.read_write h.shaped h.fits]
  rw [if_neg hnumber, List.length_append, Nat.add_assoc]

/-! ## All frames of a buffer -/

/-- The frames of some fields that are written one after the other from offset `pos` on. -/
def placed (pos : Nat) : List (Nat × FieldValue) → List Frame
  | [] => []
  | (number, value) :: fields =>
    ⟨number, pos, pos + (writeField number value).length, value⟩ ::
      placed (pos + (writeField number value).length) fields

@[simp] theorem map_field_placed (pos : Nat) (fields : List (Nat × FieldValue)) :
    (placed pos fields).map field = fields := by
  induction fields generalizing pos with
  | nil => rfl
  | cons field fields ih => rw [placed, List.map_cons, ih]; rfl

theorem placed_append (pos : Nat) (fields others : List (Nat × FieldValue)) :
    placed pos (fields ++ others) =
      placed pos fields ++ placed (pos + (writeFields fields).length) others := by
  induction fields generalizing pos with
  | nil => rfl
  | cons field fields ih =>
    rw [List.cons_append, placed, ih, placed, writeFields_cons, List.length_append, Nat.add_assoc,
      List.cons_append]

theorem getElem?_of_placed {pos i : Nat} {fields : List (Nat × FieldValue)} {f : Frame}
    (h : (placed pos fields)[i]? = some f) : fields[i]? = some f.field := by
  rw [← map_field_placed pos fields, List.getElem?_map, h, Option.map_some]

theorem walk_nil (pos : Nat) : walk pos [] = ⟨[], none, pos⟩ := by
  rw [walk]
  rfl

theorem walk_of_error {pos : Nat} {bs : Bytes} {e : Error} (hne : bs ≠ [])
    (hread : read pos bs = .error e) : walk pos bs = ⟨[], some e, pos⟩ := by
  have hmore : bs.isEmpty = false := by simpa using hne
  rw [walk, hmore]
  simp only [Bool.false_eq_true, if_false]
  -- the walk keeps the equation of its step for termination, so it is split and not rewritten
  split
  next hfault =>
    cases hread.symm.trans hfault
    rfl
  next hframe => cases hread.symm.trans hframe

/-- A walk that can begin reads one frame and goes on behind it. -/
theorem walk_of_ok {pos : Nat} {bs : Bytes} {f : Frame} (hne : bs ≠ [])
    (hread : read pos bs = .ok f) :
    walk pos bs =
      ⟨f :: (walk f.stop (bs.drop (f.stop - pos))).frames,
        (walk f.stop (bs.drop (f.stop - pos))).fault,
        (walk f.stop (bs.drop (f.stop - pos))).stop⟩ := by
  have hmore : bs.isEmpty = false := by simpa using hne
  rw [walk, hmore]
  simp only [Bool.false_eq_true, if_false]
  split
  next hfault => cases hread.symm.trans hfault
  next hframe =>
    cases hread.symm.trans hframe
    rfl

theorem readAll_nil (pos : Nat) : readAll pos [] = .ok [] := by
  rw [readAll, walk_nil]

theorem readAll_of_ne_nil {pos : Nat} {bs : Bytes} (h : bs ≠ []) :
    readAll pos bs =
      (read pos bs).bind fun f => (readAll f.stop (bs.drop (f.stop - pos))).map (f :: ·) := by
  cases hread : read pos bs with
  | error e =>
    rw [readAll, walk_of_error h hread]
    rfl
  | ok f =>
    rw [readAll, walk_of_ok h hread]
    simp only [Except.bind, readAll]
    cases (walk f.stop (bs.drop (f.stop - pos))).fault with
    | none | some => rfl

/-- Induction on the fields: each is read at its place, and the rest behind it. -/
theorem readAll_placed {fields : List (Nat × FieldValue)} (h : ∀ field ∈ fields, WellFramed field)
    (pos : Nat) : readAll pos (writeFields fields) = .ok (placed pos fields) := by
  induction fields generalizing pos with
  | nil => exact readAll_nil pos
  | cons field fields ih =>
    obtain ⟨number, value⟩ := field
    rw [List.forall_mem_cons] at h
    rw [writeFields_cons, readAll_of_ne_nil (writeField_append_ne_nil number value _),
      read_writeField h.1]
    simp only [Except.bind]
    rw [Nat.add_sub_cancel_left, List.drop_left, ih h.2]
    rfl

/-- What a walk to the end has read. Induction on the length of what is left. -/
theorem readAll_sound {pos : Nat} {bs : Bytes} {frames : List Frame}
    (h : readAll pos bs = .ok frames) :
    ∃ fields, (∀ field ∈ fields, WellFramed field) ∧ bs = writeFields fields ∧
      frames = placed pos fields := by
  induction hn : bs.length using Nat.strongRecOn generalizing pos bs frames with
  | ind n ih =>
    subst hn
    by_cases hnil : bs = []
    · subst hnil
      rw [readAll_nil] at h
      cases h
      exact ⟨[], by simp, rfl, rfl⟩
    · rw [readAll_of_ne_nil hnil] at h
      obtain ⟨f, hread, h⟩ := Outcome.bind_eq_ok.mp h
      obtain ⟨frames', hall, rfl⟩ := Outcome.map_eq_ok.mp h
      obtain ⟨hframed, rfl, hstop, rest, rfl⟩ := read_sound hread
      rw [hstop, Nat.add_sub_cancel_left, List.drop_left] at hall
      -- a frame is not empty, so what is left is shorter
      have hlen := length_writeField_pos f.number f.value
      obtain ⟨fields, hfields, rfl, rfl⟩ :=
        ih rest.length (by rw [List.length_append]; omega) hall rfl
      refine ⟨f.field :: fields, List.forall_mem_cons.mpr ⟨hframed, hfields⟩, rfl, ?_⟩
      rw [field, placed, ← hstop]

/-- A buffer is read to its end exactly if it is some well-framed fields in their written form, and
what is read are these fields where they stand. -/
theorem readAll_eq_ok_iff {pos : Nat} {bs : Bytes} {frames : List Frame} :
    readAll pos bs = .ok frames ↔
      ∃ fields, (∀ field ∈ fields, WellFramed field) ∧ bs = writeFields fields ∧
        frames = placed pos fields := by
  constructor
  · exact readAll_sound
  · rintro ⟨fields, hfields, rfl, rfl⟩
    exact readAll_placed hfields pos

end Frame

end ChainClaim
