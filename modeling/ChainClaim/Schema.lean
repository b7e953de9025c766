import ChainClaim.Numbers
import ChainClaim.Text
import ChainClaim.Wire.Entry

/-!
# The schema language

What message types are made of: scalars that stand in one field, and formats that join fields.
-/

/-!
## Scalar field types

How each type of scalar stands in a field. Integers narrower than their varint take its low bits;
negative integers of the signed types fill all 64 bits, except in the zigzag type, which maps
numbers of small magnitude to small varints.
-/

namespace ChainClaim

/-- A scalar type: its zero, which a field may leave out, and its form as a field's value. -/
structure Scalar (α : Type) where
  zero : α
  isZero : α → Bool
  write : α → FieldValue
  read? : FieldValue → Option α

namespace Scalar

/-- A scalar type that is a function of a varint. -/
def ofVarint {α : Type} (zero : α) (isZero : α → Bool) (write : α → Nat) (read : Nat → α) :
    Scalar α where
  zero := zero
  isZero := isZero
  write a := .varint (write a)
  read? v := v.varint?.map read

def int32 : Scalar Int32 :=
  ofVarint 0 (· == 0) (fun x => (x.toInt % UInt64.size).toNat) (fun n => Int32.ofInt n)

def int64 : Scalar Int64 :=
  ofVarint 0 (· == 0) (fun x => (x.toInt % UInt64.size).toNat) (fun n => Int64.ofInt n)

def uint32 : Scalar UInt32 :=
  ofVarint 0 (· == 0) UInt32.toNat UInt32.ofNat

def uint64 : Scalar UInt64 :=
  ofVarint 0 (· == 0) UInt64.toNat UInt64.ofNat

/-- The zigzag image of an integer: `0, -1, 1, -2, …` go to `0, 1, 2, 3, …`. -/
def zigzag (x : Int) : Nat :=
  if 0 ≤ x then (2 * x).toNat else (-2 * x - 1).toNat

def unzigzag (n : Nat) : Int :=
  if n % 2 = 0 then (n / 2 : Nat) else -((n / 2 : Nat) + 1)

theorem unzigzag_zigzag (x : Int) : unzigzag (zigzag x) = x := by
  unfold unzigzag zigzag
  split <;> split <;> omega

def sint32 : Scalar Int32 :=
  ofVarint 0 (· == 0) (fun x => zigzag x.toInt) (fun n => Int32.ofInt (unzigzag (n % UInt32.size)))

def bool : Scalar Bool :=
  ofVarint false (!·) Bool.toNat (· != 0)

def string : Scalar String where
  zero := ""
  isZero s := s.isEmpty
  write s := .delimited (Text.toBytes s)
  read? v := v.delimited?.bind Text.ofBytes?

def bytes : Scalar Bytes where
  zero := []
  isZero := List.isEmpty
  write bs := .delimited bs
  read? := FieldValue.delimited?

/-- The bits of the number, least significant byte first. -/
def float : Scalar Binary32 where
  zero := ⟨0⟩
  isZero x := x.bits == 0
  write x := .fixed32 (Bytes.ofNat 4 x.bits.toNat).reverse
  read?
    | .fixed32 bs => some ⟨UInt32.ofNat (Bytes.toNat bs.reverse)⟩
    | _ => none

end Scalar

/-!
## Message formats

A message type is described once, as a `Format`: the fields that a value writes, in order of their
numbers, and how a value is read from the entries of a message. Formats are put together from one
format per field with `Format.and`, so writing and reading of every message, and the laws that
relate them, follow from those of its fields.

Reading takes entries in any order. Of a singular scalar the last entry counts; the entries of a
singular message are joined, so that its fields are merged; a choice between messages is made by
the last run of entries with one number.
-/

/-- What a field holds: one value as a field value, its size there, and the value that the entries
of a singular field make together, none of them included. -/
structure Element (α : Type) where
  write : α → FieldValue
  size : α → Nat
  combine : (limit : Nat) → List FieldValue → Option α

/-- How values of a type are the fields of a message. `limit` bounds the nesting below. -/
structure Format (α : Type) where
  /-- The numbers of the fields it reads. -/
  numbers : List Nat
  fields : α → List (Nat × FieldValue)
  /-- The size of all fields in bytes, reckoned without writing them. -/
  size : α → Nat
  read : (limit : Nat) → List Entry → Option α

def FieldValue.size : FieldValue → Nat
  | .varint n => Varint.size n
  | .fixed64 _ => 8
  | .fixed32 _ => 4
  | .delimited bytes => Varint.size bytes.length + bytes.length

namespace Format

/-- The size of a key. It does not depend on the type of the value. -/
def keySize (number : Nat) : Nat := Varint.size (number * 8)

def encode {α : Type} (f : Format α) (a : α) : Bytes :=
  writeFields (f.fields a)

/-- How deep messages and skipped groups may nest below a message. -/
def maxNesting : Nat := 100

/-- The message that `bs` holds, if its fields can be read. -/
def decode {α : Type} (f : Format α) (bs : Bytes) : Option α :=
  (Entry.readAll maxNesting bs).bind (f.read maxNesting)

end Format

/-! ### What a field holds -/

namespace Element

/-- A scalar. Every entry has to be of its type, and the last one counts. -/
def scalar {α : Type} (s : Scalar α) : Element α where
  write := s.write
  size a := (s.write a).size
  combine _ values := (values.mapM s.read?).map fun as => as.getLast?.getD s.zero

/-- A message. The entries of all its occurrences are read as one message. -/
def message {α : Type} (f : Format α) : Element α where
  write a := .delimited (f.encode a)
  size a := Varint.size (f.size a) + f.size a
  combine
    | 0, _ => none
    -- Every occurrence is one level down, however many there are.
    | limit + 1, values => do
      let bodies ← values.mapM FieldValue.delimited?
      let entries ← bodies.mapM (Entry.readAll limit)
      f.read limit entries.flatten

end Element

/-! ### Formats of one field -/

namespace Format

/-- A field that is left out when it holds the zero of its type. -/
def implicit {α : Type} (number : Nat) (s : Scalar α) : Format α where
  numbers := [number]
  fields a := if s.isZero a then [] else [(number, s.write a)]
  size a := if s.isZero a then 0 else keySize number + (s.write a).size
  read limit entries := (Entry.valuesAt number entries).bind ((Element.scalar s).combine limit)

/-- A field that is always written. It may be missing where it is read. -/
def required {α : Type} (number : Nat) (e : Element α) : Format α where
  numbers := [number]
  fields a := [(number, e.write a)]
  size a := keySize number + e.size a
  read limit entries := (Entry.valuesAt number entries).bind (e.combine limit)

/-- A field whose presence is part of the value. -/
def optional {α : Type} (number : Nat) (e : Element α) : Format (Option α) where
  numbers := [number]
  fields
    | none => []
    | some a => [(number, e.write a)]
  size
    | none => 0
    | some a => keySize number + e.size a
  read limit entries :=
    match Entry.valuesAt number entries with
    | none => none
    -- Without an entry there is no value; with one, even of nothing, there is.
    | some [] => some none
    | some values => (e.combine limit values).map some

/-- Any number of fields, one for each member of a list. -/
def repeated {α : Type} (number : Nat) (e : Element α) : Format (List α) where
  numbers := [number]
  fields as := as.map fun a => (number, e.write a)
  size as := as.foldr (fun a total => keySize number + e.size a + total) 0
  read limit entries :=
    (Entry.valuesAt number entries).bind fun values => values.mapM fun v => e.combine limit [v]

/-- A member of a choice: the values of `κ` that are written under its number. -/
structure Member (κ : Type) where
  number : Nat
  write? : κ → Option FieldValue
  size : κ → Nat
  combine : (limit : Nat) → List FieldValue → Option κ

/-- The member whose values are `inject a`. -/
def Member.of {α κ : Type} (number : Nat) (e : Element α) (inject : α → κ)
    (project? : κ → Option α) : Member κ where
  number := number
  write? k := (project? k).map e.write
  size k := ((project? k).map fun a => keySize number + e.size a).getD 0
  combine limit values := (e.combine limit values).map inject

/-- Reads a run of entries that have the number of its first. -/
def readRun {κ : Type} (members : List (Member κ)) (limit : Nat) (run : List Entry) :
    Option κ := do
  let first ← run.head?
  let member ← members.find? (·.number = first.number)
  let values ← run.mapM (·.value)
  member.combine limit values

/-- At most one of several fields. An entry of another member than the one before it starts anew,
and every run of entries has to be readable, also one that is given up. -/
def choice {κ : Type} (members : List (Member κ)) : Format (Option κ) where
  numbers := members.map (·.number)
  fields
    | none => []
    | some k => members.filterMap fun m => (m.write? k).map (m.number, ·)
  size
    | none => 0
    | some k => members.foldr (fun m total => m.size k + total) 0
  read limit entries :=
    -- Fields of other numbers do not part a run.
    let mine := entries.filter (·.number ∈ members.map (·.number))
    let runs := mine.splitBy (fun a b => a.number == b.number)
    (runs.mapM (readRun members limit)).map (·.getLast?)

/-! ### Putting formats together -/

/-- The fields of two formats in one message. Their numbers are to be disjoint, those of the first
before those of the second. -/
def and {α β : Type} (f : Format α) (g : Format β) : Format (α × β) where
  numbers := f.numbers ++ g.numbers
  fields a := f.fields a.1 ++ g.fields a.2
  size a := f.size a.1 + g.size a.2
  read limit entries :=
    match f.read limit entries, g.read limit entries with
    | some a, some b => some (a, b)
    | _, _ => none

/-- The format of a type whose values are those of another. -/
def via {α β : Type} (f : Format α) (make : α → β) (parts : β → α) : Format β where
  numbers := f.numbers
  fields b := f.fields (parts b)
  size b := f.size (parts b)
  read limit entries := (f.read limit entries).map make

end Format

end ChainClaim
