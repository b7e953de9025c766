import ChainClaim.Error

/-!
# Varints

A number below `2⁶⁴` as groups of seven bits, least significant first; every byte but the last has
its high bit set. `write` leaves out leading zero groups. Two readers accept it: `read` is for
framing and takes the written form only, `readLoose` is for payload schemas and takes padded forms
too.
-/

namespace ChainClaim.Varint

/-- The shortest form of `n`. -/
def write (n : Nat) : Bytes :=
  if n < 128 then [UInt8.ofNat n] else UInt8.ofNat (n % 128 + 128) :: write (n / 128)
termination_by n
decreasing_by exact Nat.div_lt_self (by omega) (by omega)

/-- The length of the shortest form: a byte for each started group of seven bits. -/
def size (n : Nat) : Nat :=
  n.log2 / 7 + 1

theorem write_of_lt {n : Nat} (h : n < 128) : write n = [UInt8.ofNat n] := by
  rw [write, if_pos h]

theorem write_of_ge {n : Nat} (h : 128 ≤ n) :
    write n = UInt8.ofNat (n % 128 + 128) :: write (n / 128) := by
  rw [write, if_neg (by omega)]

/-- The length of the longest form of a number below `2⁶⁴`. -/
def maxLength : Nat := 10

/-- Reads the groups from the `i`-th on of a varint that begins at offset `start`; the list holds
the bytes from that group on. Gives the value of these groups and how many there are in all. The
tenth byte has room for one bit, and a last byte of zero would be a group to leave out. -/
def readFrom (start i : Nat) (bs : Bytes) : Except Error (Nat × Nat) :=
  if i = maxLength then .error (.malformed start .varintTooLong)
  else
    match bs with
    | [] => .error (.truncated (start + i) 1)
    | b :: rest =>
      -- Nine groups are 63 bits.
      if i = 9 ∧ 1 < b.toNat then .error (.malformed start .varintOverflow)
      else if b.toNat < 128 then
        if 0 < i ∧ b = 0 then .error (.malformed start .varintNotMinimal)
        else .ok (b.toNat, i + 1)
      else
        match readFrom start (i + 1) rest with
        | .error e => .error e
        | .ok (high, length) => .ok (b.toNat - 128 + 128 * high, length)

/-- Reads the varint at the head of `bs`, which stands at offset `pos`: its value and length. -/
def read (pos : Nat) (bs : Bytes) : Except Error (Nat × Nat) :=
  readFrom pos 0 bs

/-- Reads the groups from the `i`-th on, padded or not. Gives the value and the bytes after it. -/
def readLooseFrom (i : Nat) : Bytes → Option (Nat × Bytes)
  | [] => none
  | b :: rest =>
    if i = 9 ∧ 1 < b.toNat then none
    else if b.toNat < 128 then some (b.toNat, rest)
    else (readLooseFrom (i + 1) rest).map fun (high, rest) => (b.toNat - 128 + 128 * high, rest)

/-- Reads the varint at the head of `bs`, padded or not. -/
def readLoose (bs : Bytes) : Option (Nat × Bytes) :=
  readLooseFrom 0 bs

/-- A varint that is read takes at least the bytes up to its last group, all of them present. -/
theorem readFrom_length {start i : Nat} {bs : Bytes} {v n : Nat}
    (h : readFrom start i bs = .ok (v, n)) : i < n ∧ n ≤ i + bs.length := by
  induction bs generalizing i v with
  | nil =>
    rw [readFrom] at h
    split at h <;> cases h
  | cons b rest ih =>
    rw [readFrom] at h
    split at h
    · cases h
    split at h
    · cases h
    split at h
    · split at h
      · cases h
      · cases h
        simp
    · split at h
      · cases h
      next hr =>
        cases h
        have := ih hr
        simp only [List.length_cons]
        omega

theorem read_length {pos : Nat} {bs : Bytes} {v n : Nat} (h : read pos bs = .ok (v, n)) :
    0 < n ∧ n ≤ bs.length := by
  have := readFrom_length h
  omega

theorem readLooseFrom_length {i : Nat} {bs : Bytes} {v : Nat} {rest : Bytes}
    (h : readLooseFrom i bs = some (v, rest)) : rest.length < bs.length := by
  induction bs generalizing i v with
  | nil => cases h
  | cons b bs ih =>
    rw [readLooseFrom] at h
    split at h
    · cases h
    split at h
    · cases h
      simp
    · cases hr : readLooseFrom (i + 1) bs with
      | none => rw [hr] at h; cases h
      | some r =>
        rw [hr] at h
        cases h
        have := ih hr
        simp only [List.length_cons]
        omega

theorem readLoose_length {bs : Bytes} {v : Nat} {rest : Bytes}
    (h : readLoose bs = some (v, rest)) : rest.length < bs.length :=
  readLooseFrom_length h

end ChainClaim.Varint
