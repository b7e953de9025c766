import ChainClaim.Wire.Varint

/-!
# Field frames

A message is a sequence of field frames: a key that joins the field's number and the type of its
value, and the value. Envelope and signature are found on frames alone, without the schema of what
they hold. Reading is strict, so that a frame has one form only, and total: a walk over a buffer
stops at its end or at the first frame that cannot be read.
-/

namespace ChainClaim

/-- Types of values. Groups have none: they are not read as frames. -/
inductive WireType where
  | varint
  | fixed64
  | delimited
  | fixed32
deriving DecidableEq, Repr

namespace WireType

/-- The three bits that stand for the type in a key. -/
def bits : WireType → Nat
  | .varint => 0
  | .fixed64 => 1
  | .delimited => 2
  | .fixed32 => 5

def ofBits? : Nat → Option WireType
  | 0 => some .varint
  | 1 => some .fixed64
  | 2 => some .delimited
  | 5 => some .fixed32
  | _ => none

theorem ofBits?_bits (t : WireType) : ofBits? t.bits = some t := by cases t <;> rfl

theorem bits_lt (t : WireType) : t.bits < 8 := by cases t <;> decide

end WireType

/-- The value of a field. -/
inductive FieldValue where
  | varint (n : Nat)
  | fixed64 (bytes : Bytes)
  /-- A value behind its length; the length is not part of it. -/
  | delimited (bytes : Bytes)
  | fixed32 (bytes : Bytes)
deriving DecidableEq, Repr

namespace FieldValue

def wireType : FieldValue → WireType
  | .varint _ => .varint
  | .fixed64 _ => .fixed64
  | .delimited _ => .delimited
  | .fixed32 _ => .fixed32

def varint? : FieldValue → Option Nat
  | .varint n => some n
  | _ => none

def delimited? : FieldValue → Option Bytes
  | .delimited bytes => some bytes
  | _ => none

/-- The bytes of a value, behind its length where it has one. -/
def write : FieldValue → Bytes
  | .varint n => Varint.write n
  | .fixed64 bytes => bytes
  | .delimited bytes => Varint.write bytes.length ++ bytes
  | .fixed32 bytes => bytes

end FieldValue

def writeKey (number : Nat) (type : WireType) : Bytes :=
  Varint.write (number * 8 + type.bits)

def writeField (number : Nat) (value : FieldValue) : Bytes :=
  writeKey number value.wireType ++ value.write

def writeFields (fields : List (Nat × FieldValue)) : Bytes :=
  fields.flatMap fun (number, value) => writeField number value

def maxFieldNumber : Nat := 0x1fffffff

/-- The first `length` bytes of `bs`, which stand at offset `pos`. -/
def takeBytes (pos length : Nat) (bs : Bytes) : Except Error Bytes :=
  if bs.length < length then .error (.truncated (pos + bs.length) (length - bs.length))
  else .ok (bs.take length)

/-- Reads a value of a known type at offset `pos`: the value and the number of its bytes. -/
def FieldValue.read (type : WireType) (pos : Nat) (bs : Bytes) : Except Error (FieldValue × Nat) :=
  match type with
  | .varint => do
    let (n, length) ← Varint.read pos bs
    return (.varint n, length)
  | .fixed64 => do
    let bytes ← takeBytes pos 8 bs
    return (.fixed64 bytes, 8)
  | .fixed32 => do
    let bytes ← takeBytes pos 4 bs
    return (.fixed32 bytes, 4)
  | .delimited => do
    let (length, width) ← Varint.read pos bs
    let bytes ← takeBytes (pos + width) length (bs.drop width)
    return (.delimited bytes, width + length)

/-- One field and where it stands: from `start` up to but not including `stop`. -/
structure Frame where
  number : Nat
  start : Nat
  stop : Nat
  value : FieldValue
deriving DecidableEq, Repr

namespace Frame

/-- Reads the frame at the head of `bs`, which stands at offset `pos`. -/
def read (pos : Nat) (bs : Bytes) : Except Error Frame :=
  match Varint.read pos bs with
  | .error e => .error e
  | .ok (key, keyLength) =>
    -- The number is looked at before the type, so a key with two faults has one error.
    if key / 8 = 0 ∨ maxFieldNumber < key / 8 then .error (.malformed pos .fieldNumber)
    else
      match WireType.ofBits? (key % 8) with
      | none => .error (.malformed pos .wireType)
      | some type =>
        match FieldValue.read type (pos + keyLength) (bs.drop keyLength) with
        | .error e => .error e
        | .ok (value, length) => .ok ⟨key / 8, pos, pos + keyLength + length, value⟩

/-- A frame stands where it is read and ends behind its start. -/
theorem read_bounds {pos : Nat} {bs : Bytes} {f : Frame} (h : read pos bs = .ok f) :
    f.start = pos ∧ pos < f.stop := by
  rw [read] at h
  split at h
  · cases h
  next key keyLength hk =>
    have := Varint.read_length hk
    split at h
    · cases h
    split at h
    · cases h
    split at h
    · cases h
    · cases h
      exact ⟨rfl, by simp only; omega⟩

/-- What a walk over frames found: the frames it read, the fault that stopped it before the end of
the buffer if there was one, and the offset at which it stopped. -/
structure Walk where
  frames : List Frame
  fault : Option Error
  stop : Nat

/-- Reads frame after frame from `bs`, which stands at offset `pos`. -/
def walk (pos : Nat) (bs : Bytes) : Walk :=
  if bs.isEmpty then ⟨[], none, pos⟩
  else
    match _h : read pos bs with
    | .error e => ⟨[], some e, pos⟩
    | .ok f =>
      let w := walk f.stop (bs.drop (f.stop - pos))
      ⟨f :: w.frames, w.fault, w.stop⟩
termination_by bs.length
decreasing_by
  -- A frame ends behind its start, so less is left of the buffer.
  have := read_bounds _h
  cases bs with
  | nil => contradiction
  | cons _ _ => simp only [List.length_drop, List.length_cons]; omega

/-- All frames from offset `pos` to the end of the buffer, or the first fault. -/
def readAll (pos : Nat) (bs : Bytes) : Except Error (List Frame) :=
  let w := walk pos bs
  match w.fault with
  | none => .ok w.frames
  | some e => .error e

/-- The frames of a whole buffer that begin at `start` or later. -/
def readFrom (buffer : Bytes) (start : Nat) : Except Error (List Frame) :=
  readAll start (buffer.drop start)

end Frame

/-!
## Reading frame by frame

A reader stands at a position of its buffer and gives one frame after the other. A frame that cannot
be read is the last that it is asked for: it gives the fault, once, and stays where it is.
-/

/-- A buffer, the position from which it is read next, and whether a fault has been given. -/
structure Reader where
  buffer : Bytes
  position : Nat
  failed : Bool

namespace Reader

/-- A reader that is to begin at offset `start`. -/
def startingAt (buffer : Bytes) (start : Nat) : Reader := ⟨buffer, start, false⟩

/-- The next frame, or the fault in its place, and the reader as it is left. There is none at the
end of the buffer, and none after a fault. -/
def next? (r : Reader) : Option (Except Error Frame × Reader) :=
  if r.failed = true ∨ r.buffer.length ≤ r.position then none
  else
    match Frame.read r.position (r.buffer.drop r.position) with
    | .ok f => some (.ok f, { r with position := f.stop })
    | .error e => some (.error e, { r with failed := true })

end Reader

end ChainClaim
