import ChainClaim.Wire.Frame

/-!
# Message entries

A payload schema is more lenient than the envelope: it takes padded varints, and it skips the
fields it does not know, groups of fields among them. `readEntries` cuts a payload into entries
without the schema. A payload that cannot be cut is refused whatever its schema says, because a
field that is known is then read from an entry of the right type, and one that is not known is
dropped.
-/

namespace ChainClaim

/-- A field of a message. The value of a group is not kept. -/
structure Entry where
  number : Nat
  value : Option FieldValue
deriving DecidableEq, Repr

namespace Entry

/-- The key of a field as an entry has it: besides the types of frames, groups begin and end. -/
inductive Tag where
  | value (type : WireType)
  | groupStart
  | groupEnd
deriving DecidableEq, Repr

def Tag.ofBits? : Nat → Option Tag
  | 3 => some .groupStart
  | 4 => some .groupEnd
  | n => (WireType.ofBits? n).map .value

/-- Reads a key: field number, tag, and the bytes after it. A key has at most 32 bits. -/
def readKey (bs : Bytes) : Option (Nat × Tag × Bytes) :=
  match Varint.readLoose bs with
  | none => none
  | some (key, rest) =>
    if UInt32.size ≤ key ∨ key / 8 = 0 then none
    else (Tag.ofBits? (key % 8)).map fun tag => (key / 8, tag, rest)

/-- The first `length` bytes and what comes after them. -/
def splitBytes? (length : Nat) (bs : Bytes) : Option (Bytes × Bytes) :=
  if bs.length < length then none else some (bs.take length, bs.drop length)

/-- Reads a value of a known type, and the bytes after it. -/
def readValue (type : WireType) (bs : Bytes) : Option (FieldValue × Bytes) :=
  match type with
  | .varint => (Varint.readLoose bs).map fun (n, rest) => (.varint n, rest)
  | .fixed64 => (splitBytes? 8 bs).map fun (bytes, rest) => (.fixed64 bytes, rest)
  | .fixed32 => (splitBytes? 4 bs).map fun (bytes, rest) => (.fixed32 bytes, rest)
  | .delimited =>
    match Varint.readLoose bs with
    | none => none
    | some (length, rest) =>
      (splitBytes? length rest).map fun (bytes, rest) => (.delimited bytes, rest)

theorem readKey_length {bs : Bytes} {number : Nat} {tag : Tag} {rest : Bytes}
    (h : readKey bs = some (number, tag, rest)) : rest.length < bs.length := by
  unfold readKey at h
  split at h
  · cases h
  next key rest' hk =>
    split at h
    · cases h
    · obtain ⟨_, _, hr⟩ := Option.map_eq_some_iff.1 h
      cases hr
      exact Varint.readLoose_length hk

theorem splitBytes?_length {n : Nat} {bs bytes rest : Bytes}
    (h : splitBytes? n bs = some (bytes, rest)) : rest.length ≤ bs.length := by
  unfold splitBytes? at h
  split at h
  · cases h
  · cases h
    simp

theorem readValue_length {type : WireType} {bs : Bytes} {value : FieldValue} {rest : Bytes}
    (h : readValue type bs = some (value, rest)) : rest.length ≤ bs.length := by
  unfold readValue at h
  split at h
  · obtain ⟨_, hr, he⟩ := Option.map_eq_some_iff.1 h
    cases he
    exact Nat.le_of_lt (Varint.readLoose_length hr)
  · obtain ⟨_, hr, he⟩ := Option.map_eq_some_iff.1 h
    cases he
    exact splitBytes?_length hr
  · obtain ⟨_, hr, he⟩ := Option.map_eq_some_iff.1 h
    cases he
    exact splitBytes?_length hr
  · split at h
    · cases h
    next _ _ hv =>
      obtain ⟨_, hr, he⟩ := Option.map_eq_some_iff.1 h
      cases he
      have := splitBytes?_length hr
      have := Varint.readLoose_length hv
      omega

/-- Skips to the end of the innermost of the groups that are open, innermost first, and of all
around it. At most `limit` groups are open at a time, and only fewer around any other field. -/
def skipGroups (limit : Nat) (opened : List Nat) (bs : Bytes) : Option Bytes :=
  match opened with
  | [] => some bs
  | number :: outer =>
    match _h : readKey bs with
    | none => none
    | some (found, .groupEnd, rest) =>
      if found = number then skipGroups limit outer rest else none
    | some (found, .groupStart, rest) =>
      -- The groups that are open already count against the limit.
      if opened.length < limit then skipGroups limit (found :: opened) rest else none
    | some (_, .value type, rest) =>
      if opened.length < limit then
        match _hv : readValue type rest with
        | none => none
        | some (_, rest) => skipGroups limit opened rest
      else none
termination_by bs.length
decreasing_by
  · exact readKey_length _h
  · exact readKey_length _h
  · exact Nat.lt_of_le_of_lt (readValue_length _hv) (readKey_length _h)

theorem skipGroups_length {limit : Nat} {opened : List Nat} {bs rest : Bytes}
    (h : skipGroups limit opened bs = some rest) : rest.length ≤ bs.length := by
  match opened with
  | [] =>
    rw [skipGroups] at h
    cases h
    exact Nat.le_refl _
  | number :: outer =>
    rw [skipGroups] at h
    split at h
    · cases h
    next hk =>
      have shorter := readKey_length hk
      split at h
      · exact Nat.le_of_lt (Nat.lt_of_le_of_lt (skipGroups_length h) shorter)
      · cases h
    next hk =>
      have shorter := readKey_length hk
      split at h
      · exact Nat.le_of_lt (Nat.lt_of_le_of_lt (skipGroups_length h) shorter)
      · cases h
    next hk =>
      have shorter := readKey_length hk
      split at h
      · split at h
        · cases h
        next hv =>
          have notLonger := readValue_length hv
          exact Nat.le_trans (skipGroups_length h) (by omega)
      · cases h
termination_by bs.length

/-- Cuts a message into its entries. Groups nest at most `limit` deep. -/
def readAll (limit : Nat) (bs : Bytes) : Option (List Entry) :=
  if bs.isEmpty then some []
  else
    match _h : readKey bs with
    | none => none
    -- No group is open here.
    | some (_, .groupEnd, _) => none
    | some (number, .groupStart, rest) =>
      if 0 < limit then
        match _hg : skipGroups limit [number] rest with
        | none => none
        | some rest => (readAll limit rest).map (⟨number, none⟩ :: ·)
      else none
    | some (number, .value type, rest) =>
      match _hv : readValue type rest with
      | none => none
      | some (value, rest) => (readAll limit rest).map (⟨number, some value⟩ :: ·)
termination_by bs.length
decreasing_by
  · exact Nat.lt_of_le_of_lt (skipGroups_length _hg) (readKey_length _h)
  · exact Nat.lt_of_le_of_lt (readValue_length _hv) (readKey_length _h)

/-- The values of the entries with a given number, in order; none if one of them is a group. -/
def valuesAt (number : Nat) (entries : List Entry) : Option (List FieldValue) :=
  (entries.filter (·.number = number)).mapM (·.value)

end Entry

end ChainClaim
