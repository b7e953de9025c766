import ChainClaim.Proofs.Wire.VarintForm

/-!
# Varints that are refused

What stands at a position of a buffer is the shortest form of a 64-bit number, or the buffer ends
within a form, or no form begins there at all. The strict reader tells the three apart
(`read_classifies`).

A form goes on as long as the high bit is set, so a fault is found behind a run of bytes with that
bit (`Continues`): at the end of the buffer, at a tenth byte for which there is no room, or at a last
group that could have been left out. These are all (`read_eq_error_iff`): the tenth byte either ends
the form or does not fit, so no eleventh one is ever looked at.
-/

namespace ChainClaim.Varint

/-- Bytes each of which says that another one follows. -/
def Continues (groups : Bytes) : Prop :=
  ∀ b ∈ groups, 128 ≤ b.toNat

theorem continues_nil : Continues [] := List.forall_mem_nil _

theorem Continues.cons {b : UInt8} {groups : Bytes} (hb : 128 ≤ b.toNat) (h : Continues groups) :
    Continues (b :: groups) :=
  List.forall_mem_cons.mpr ⟨hb, h⟩

/-- What is wrong with the groups from the `i`-th on of a varint that begins at offset `start`. -/
inductive Fault (start i : Nat) (bs : Bytes) : Error → Prop where
  | truncated (hmore : Continues bs) (hroom : i + bs.length < maxLength) :
      Fault start i bs (.truncated (start + i + bs.length) 1)
  | overflow (groups : Bytes) (last : UInt8) (rest : Bytes) (heq : bs = groups ++ last :: rest)
      (hmore : Continues groups) (htenth : i + groups.length = 9) (hlast : 1 < last.toNat) :
      Fault start i bs (.malformed start .varintOverflow)
  | notMinimal (groups rest : Bytes) (heq : bs = groups ++ 0 :: rest) (hmore : Continues groups)
      (hbehind : 0 < i + groups.length) (hroom : i + groups.length < maxLength) :
      Fault start i bs (.malformed start .varintNotMinimal)

/-- A fault of what follows a group is a fault of the varint with it. -/
theorem Fault.cons {start i : Nat} {b : UInt8} {bs : Bytes} {e : Error} (hb : 128 ≤ b.toNat)
    (h : Fault start (i + 1) bs e) : Fault start i (b :: bs) e := by
  cases h with
  | truncated hmore hroom =>
    have hlength : i + 1 + bs.length = i + (b :: bs).length := by
      rw [List.length_cons]
      omega
    -- the offset is that of the end, whichever group the count begins at
    rw [Nat.add_assoc, hlength, ← Nat.add_assoc]
    exact .truncated (hmore.cons hb) (hlength ▸ hroom)
  | overflow groups last rest heq hmore htenth hlast =>
    refine .overflow (b :: groups) last rest (by rw [heq, List.cons_append]) (hmore.cons hb) ?_ hlast
    rw [List.length_cons]
    omega
  | notMinimal groups rest heq hmore hbehind hroom =>
    refine .notMinimal (b :: groups) rest (by rw [heq, List.cons_append]) (hmore.cons hb) ?_ ?_
    all_goals
      rw [List.length_cons]
      omega

/-- What the reader says is wrong is wrong. Induction on the bytes: a fault is found at the group
at hand or behind it. -/
theorem fault_of_readFrom {start i : Nat} {bs : Bytes} {e : Error} (hi : i ≤ 9)
    (h : readFrom start i bs = .error e) : Fault start i bs e := by
  induction bs generalizing i with
  | nil =>
    rw [readFrom, if_neg (by unfold maxLength; omega)] at h
    cases h
    exact .truncated continues_nil (Nat.lt_succ_of_le hi)
  | cons b rest ih =>
    rw [readFrom, if_neg (by unfold maxLength; omega)] at h
    -- the group at hand: too large, the last one, or one with others behind it
    split at h
    next hover =>
      cases h
      exact .overflow [] b rest rfl continues_nil hover.1 hover.2
    next hfit =>
    split at h
    next hlast =>
      split at h
      next hzero =>
        cases h
        exact .notMinimal [] rest (by rw [hzero.2, List.nil_append]) continues_nil hzero.1
          (Nat.lt_succ_of_le hi)
      · cases h
    next hmore =>
      split at h
      next hrest =>
        cases h
        exact (ih (by omega) hrest).cons (Nat.le_of_not_lt hmore)
      · cases h

/-- The reader goes through a run of groups as far as the tenth byte and fails where it fails behind
them. -/
theorem readFrom_append_of_continues {start i : Nat} {groups bs : Bytes} {e : Error}
    (hmore : Continues groups) (hroom : i + groups.length ≤ 9)
    (h : readFrom start (i + groups.length) bs = .error e) :
    readFrom start i (groups ++ bs) = .error e := by
  induction groups generalizing i with
  | nil => exact h
  | cons b groups ih =>
    rw [List.length_cons] at hroom h
    obtain ⟨hb, hgroups⟩ := List.forall_mem_cons.mp hmore
    -- this group is not the tenth, so it is not asked whether it fits
    have hrest : readFrom start (i + 1) (groups ++ bs) = .error e := by
      refine ih hgroups (by omega) ?_
      rwa [Nat.add_assoc, Nat.add_comm 1]
    rw [List.cons_append, readFrom, if_neg (by unfold maxLength; omega), if_neg (by omega),
      if_neg (Nat.not_lt.mpr hb), hrest]

/-- What is wrong is said to be wrong. -/
theorem Fault.readFrom_eq {start i : Nat} {bs : Bytes} {e : Error} (h : Fault start i bs e) :
    readFrom start i bs = .error e := by
  cases h with
  | truncated hmore hroom =>
    have hend : readFrom start (i + bs.length) [] =
        .error (.truncated (start + i + bs.length) 1) := by
      rw [readFrom, if_neg (Nat.ne_of_lt hroom), Nat.add_assoc]
    have hread := readFrom_append_of_continues hmore (Nat.le_of_lt_succ hroom) hend
    rwa [List.append_nil] at hread
  | overflow groups last rest heq hmore htenth hlast =>
    subst heq
    refine readFrom_append_of_continues hmore (Nat.le_of_eq htenth) ?_
    rw [htenth, readFrom, if_neg (by decide), if_pos ⟨rfl, hlast⟩]
  | notMinimal groups rest heq hmore hbehind hroom =>
    subst heq
    refine readFrom_append_of_continues hmore (Nat.le_of_lt_succ hroom) ?_
    rw [readFrom, if_neg (Nat.ne_of_lt hroom), if_neg (fun h => absurd h.2 (by decide)),
      if_pos (by decide), if_pos ⟨hbehind, rfl⟩]

theorem read_eq_error_iff {pos : Nat} {bs : Bytes} {e : Error} :
    read pos bs = .error e ↔ Fault pos 0 bs e :=
  ⟨fault_of_readFrom (Nat.zero_le 9), Fault.readFrom_eq⟩

/-! ## Varints in a buffer -/

/-- The shortest form of a 64-bit number stands at an offset of a buffer and takes `length` bytes. -/
structure Stands (buffer : Bytes) (pos n length : Nat) : Prop where
  n_lt : n < 2 ^ 64
  stop_le : pos + length ≤ buffer.length
  eq : (buffer.drop pos).take length = write n

/-- A buffer ends within a form: fewer than ten bytes are left, and each says that another one
follows. -/
structure CutOff (buffer : Bytes) (pos : Nat) : Prop where
  room : buffer.length - pos < maxLength
  continues : Continues (buffer.drop pos)

theorem read_drop_eq_ok_iff {buffer : Bytes} {pos n length : Nat} :
    read pos (buffer.drop pos) = .ok (n, length) ↔ Stands buffer pos n length := by
  rw [read_eq_ok_iff]
  constructor
  · rintro ⟨hn, rfl, rest, hrest⟩
    have hlength := congrArg List.length hrest
    have hpos := length_write_pos n
    rw [List.length_drop, List.length_append] at hlength
    exact ⟨hn, by omega, by rw [hrest, List.take_left]⟩
  · -- the bytes of the form are all there, so their number is the length
    rintro ⟨hn, hstop, heq⟩
    refine ⟨hn, ?_, (buffer.drop pos).drop length, by rw [← heq, List.take_append_drop]⟩
    rw [← heq, List.length_take, List.length_drop]
    omega

theorem read_drop_eq_truncated_iff {buffer : Bytes} {pos : Nat} (hpos : pos ≤ buffer.length)
    {offset needed : Nat} :
    read pos (buffer.drop pos) = .error (.truncated offset needed) ↔
      offset = buffer.length ∧ needed = 1 ∧ CutOff buffer pos := by
  have hlength : (buffer.drop pos).length = buffer.length - pos := List.length_drop
  have hstop : pos + 0 + (buffer.drop pos).length = buffer.length := by omega
  rw [read_eq_error_iff]
  constructor
  · intro h
    cases h with
    | truncated hmore hroom =>
      rw [Nat.zero_add, hlength] at hroom
      exact ⟨hstop, rfl, hroom, hmore⟩
  · rintro ⟨rfl, rfl, hroom, hmore⟩
    rw [← hlength, ← Nat.zero_add (buffer.drop pos).length] at hroom
    have hfault : Fault pos 0 (buffer.drop pos) _ := .truncated hmore hroom
    rwa [hstop] at hfault

/-- A fault other than an end within a form is one of two, and both are found where the varint
begins. -/
theorem Fault.malformed_or {pos : Nat} {bs : Bytes} {e : Error} (h : Fault pos 0 bs e) :
    (∃ offset needed, e = .truncated offset needed) ∨ e = .malformed pos .varintOverflow ∨
      e = .malformed pos .varintNotMinimal := by
  cases h with
  | truncated => exact .inl ⟨_, _, rfl⟩
  | overflow => exact .inr (.inl rfl)
  | notMinimal => exact .inr (.inr rfl)

/-- The reader gives a number and a length exactly where the shortest form of the number stands and
takes that length, it asks for one byte at the end of the buffer exactly where the buffer ends
within a form, and everything else it refuses for good, at the offset where it began. It never gives
up on a form for being longer than ten bytes. -/
theorem read_classifies {buffer : Bytes} {pos : Nat} (hpos : pos ≤ buffer.length) :
    (∀ n length, read pos (buffer.drop pos) = .ok (n, length) ↔ Stands buffer pos n length) ∧
      (∀ offset needed, read pos (buffer.drop pos) = .error (.truncated offset needed) ↔
        offset = buffer.length ∧ needed = 1 ∧ CutOff buffer pos) ∧
      ((∃ what, read pos (buffer.drop pos) = .error (.malformed pos what)) ↔
        (¬∃ n length, Stands buffer pos n length) ∧ ¬CutOff buffer pos) ∧
      ∀ what, read pos (buffer.drop pos) = .error (.malformed pos what) →
        what = .varintOverflow ∨ what = .varintNotMinimal := by
  refine ⟨fun _ _ => read_drop_eq_ok_iff, fun _ _ => read_drop_eq_truncated_iff hpos, ⟨?_, ?_⟩, ?_⟩
  · -- one buffer has one verdict
    rintro ⟨what, hwhat⟩
    constructor
    · rintro ⟨n, length, hstands⟩
      rw [read_drop_eq_ok_iff.mpr hstands] at hwhat
      cases hwhat
    · intro hcut
      rw [(read_drop_eq_truncated_iff hpos).mpr ⟨rfl, rfl, hcut⟩] at hwhat
      cases hwhat
  · -- the verdict is one of three, and two of them are excluded
    rintro ⟨hstands, hcut⟩
    cases hread : read pos (buffer.drop pos) with
    | ok x => exact absurd ⟨x.1, x.2, read_drop_eq_ok_iff.mp hread⟩ hstands
    | error e =>
      rcases (read_eq_error_iff.mp hread).malformed_or with ⟨offset, needed, rfl⟩ | rfl | rfl
      · exact absurd ((read_drop_eq_truncated_iff hpos).mp hread).2.2 hcut
      · exact ⟨_, rfl⟩
      · exact ⟨_, rfl⟩
  · intro what hwhat
    rcases (read_eq_error_iff.mp hwhat).malformed_or with ⟨offset, needed, h⟩ | h | h
    · cases h
    · exact .inl (Error.malformed.inj h).2
    · exact .inr (Error.malformed.inj h).2

/-- A byte, then nine groups without a bit left out, then `last`. -/
def tenGroups (last : UInt8) : Bytes := 0x08 :: (List.replicate 9 0xff ++ [last])

/-- In the tenth byte there is room for one bit and not for two, and a lone first group asks for
another byte. -/
theorem read_classifies_tenGroups :
    1 ≤ (tenGroups 1).length ∧ Stands (tenGroups 1) 1 0xffffffffffffffff 10 ∧
      (¬∃ n length, Stands (tenGroups 2) 1 n length) ∧ ¬CutOff (tenGroups 2) 1 ∧
      read 1 (List.drop 1 [0x08, 0x80]) = .error (.truncated 2 1) := by
  have hlong : ∀ last, 1 ≤ (tenGroups last).length := fun last => Nat.succ_le_succ (Nat.zero_le _)
  have hshort : 1 ≤ ([0x08, 0x80] : Bytes).length := by decide
  have hread : read 1 ((tenGroups 1).drop 1) = .ok (0xffffffffffffffff, 10) := rfl
  have hover : read 1 ((tenGroups 2).drop 1) = .error (.malformed 1 .varintOverflow) := rfl
  have hcut : CutOff [0x08, 0x80] 1 := ⟨by decide, List.forall_mem_singleton.mpr (by decide)⟩
  obtain ⟨hstands, -⟩ := read_classifies (hlong 1)
  obtain ⟨-, -, hrefused, -⟩ := read_classifies (hlong 2)
  obtain ⟨-, htruncated, -⟩ := read_classifies hshort
  obtain ⟨hnone, hwhole⟩ := hrefused.mp ⟨_, hover⟩
  exact ⟨hlong 1, (hstands _ _).mp hread, hnone, hwhole, (htruncated _ _).mpr ⟨rfl, rfl, hcut⟩⟩

end ChainClaim.Varint
