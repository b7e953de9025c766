import ChainClaim.Wire.Varint
import Mathlib.Algebra.Group.Nat.Defs

/-!
# The form of a varint

`Varint.write` gives every number one form, and no form begins another one. The strict reader
accepts exactly the forms of the numbers below `2⁶⁴` (`read_eq_ok_iff`), wherever they stand and
whatever follows; the lenient reader accepts them too (`readLoose_write`).

The bound is carried through the groups as `n < 2 ^ (64 - 7 * i)`: what is left of a number at its
`i`-th group has to fit into the bits that are left of 64.
-/

namespace ChainClaim.Varint

theorem toNat_ofNat_of_lt {n : Nat} (h : n < 256) : (UInt8.ofNat n).toNat = n := by
  rw [UInt8.toNat_ofNat']
  exact Nat.mod_eq_of_lt h

/-- The high bit of a byte with the high bit set and seven bits of `n` below it. -/
theorem toNat_group (n : Nat) : (UInt8.ofNat (n % 128 + 128)).toNat = n % 128 + 128 :=
  toNat_ofNat_of_lt (by omega)

/-! ## Writing -/

theorem length_write_pos (n : Nat) : 0 < (write n).length := by
  rw [write]
  split <;> simp

/-- No form begins another one, so what stands before any rest is known from the bytes. -/
theorem write_append_inj {n m : Nat} {a b : Bytes} (h : write n ++ a = write m ++ b) :
    n = m ∧ a = b := by
  induction n using Nat.strongRecOn generalizing m with
  | ind n ih =>
    -- a form of one byte has its high bit clear, the first byte of any other form has it set
    rcases Nat.lt_or_ge n 128 with hn | hn <;> rcases Nat.lt_or_ge m 128 with hm | hm
    · rw [write_of_lt hn, write_of_lt hm, List.cons_append, List.cons_append] at h
      obtain ⟨hhead, htail⟩ := List.cons.inj h
      have hnat := congrArg UInt8.toNat hhead
      rw [toNat_ofNat_of_lt (by omega), toNat_ofNat_of_lt (by omega)] at hnat
      exact ⟨hnat, htail⟩
    · rw [write_of_lt hn, write_of_ge hm, List.cons_append, List.cons_append] at h
      have hnat := congrArg UInt8.toNat (List.cons.inj h).1
      rw [toNat_ofNat_of_lt (by omega), toNat_group] at hnat
      omega
    · rw [write_of_ge hn, write_of_lt hm, List.cons_append, List.cons_append] at h
      have hnat := congrArg UInt8.toNat (List.cons.inj h).1
      rw [toNat_group, toNat_ofNat_of_lt (by omega)] at hnat
      omega
    · rw [write_of_ge hn, write_of_ge hm, List.cons_append, List.cons_append] at h
      obtain ⟨hhead, htail⟩ := List.cons.inj h
      have hnat := congrArg UInt8.toNat hhead
      rw [toNat_group, toNat_group] at hnat
      obtain ⟨hdiv, hrest⟩ := ih (n / 128) (by omega) htail
      exact ⟨by omega, hrest⟩

/-! ## The size of a form -/

theorem log2_lt_of_lt {n k : Nat} (hk : 0 < k) (h : n < 2 ^ k) : n.log2 < k := by
  rcases Nat.eq_zero_or_pos n with rfl | hpos
  · rw [Nat.log2_zero]
    exact hk
  · exact (Nat.log2_lt (Nat.ne_of_gt hpos)).mpr h

/-- Low bits count as many as there are, whatever they are. -/
theorem log2_mul_two_pow_add {n k low : Nat} (hn : 0 < n) (hlow : low < 2 ^ k) :
    (n * 2 ^ k + low).log2 = n.log2 + k := by
  obtain ⟨hlo, hhi⟩ := (Nat.log2_eq_iff (Nat.ne_of_gt hn)).mp rfl
  have hpos : 0 < n * 2 ^ k := Nat.mul_pos hn (Nat.two_pow_pos k)
  have hbelow : 2 ^ n.log2 * 2 ^ k ≤ n * 2 ^ k := Nat.mul_le_mul_right _ hlo
  -- the next number with the same low bits is still no larger than the next power
  have habove : (n + 1) * 2 ^ k ≤ 2 ^ (n.log2 + 1) * 2 ^ k := Nat.mul_le_mul_right _ hhi
  rw [Nat.add_mul, Nat.one_mul] at habove
  rw [Nat.log2_eq_iff (by omega), Nat.add_right_comm, Nat.pow_add, Nat.pow_add]
  omega

theorem log2_div_128 {n : Nat} (h : 128 ≤ n) : n.log2 = (n / 128).log2 + 7 := by
  have hlog : (n / 128 * 2 ^ 7 + n % 128).log2 = (n / 128).log2 + 7 :=
    log2_mul_two_pow_add (by omega) (Nat.mod_lt n (by decide))
  have hsplit : n / 128 * 2 ^ 7 + n % 128 = n := Nat.div_add_mod' n 128
  rwa [hsplit] at hlog

/-- The reckoned size is the length of the form. -/
theorem size_eq (n : Nat) : size n = (write n).length := by
  induction n using Nat.strongRecOn with
  | ind n ih =>
    rcases Nat.lt_or_ge n 128 with hn | hn
    · rw [write_of_lt hn, size, Nat.div_eq_of_lt (log2_lt_of_lt (by decide) hn)]
      rfl
    · -- a group less is seven bits less
      rw [write_of_ge hn, List.length_cons, ← ih (n / 128) (by omega), size, size,
        log2_div_128 hn]
      omega

/-- Three more low bits do not change the size of a multiple of eight. -/
theorem size_mul_eight_add {n b : Nat} (hb : b < 8) : size (n * 8 + b) = size (n * 8) := by
  rcases Nat.eq_zero_or_pos n with rfl | hn
  · have hlog : b.log2 < 3 := log2_lt_of_lt (by decide) hb
    rw [Nat.zero_mul, Nat.zero_add, size, Nat.div_eq_of_lt (Nat.lt_trans hlog (by decide))]
    rfl
  have hlog : ∀ low < 8, (n * 8 + low).log2 = n.log2 + 3 := fun low hlow =>
    log2_mul_two_pow_add (k := 3) hn hlow
  have h0 := hlog 0 (by decide)
  rw [Nat.add_zero] at h0
  rw [size, size, hlog b hb, h0]

/-! ## Reading strictly -/

/-- A group takes seven of the bits that are left, except for the tenth. -/
theorem two_pow_left {i : Nat} (h : i < 9) :
    2 ^ (64 - 7 * i) = 2 ^ (64 - 7 * (i + 1)) * 128 := by
  rw [show 64 - 7 * i = 64 - 7 * (i + 1) + 7 from by omega, Nat.pow_add]

/-- What the reader finds from the `i`-th group on is a written form: of a number that fits into
the bits that are left and, behind a first group, is not zero. Induction on the bytes. -/
theorem readFrom_sound {start i : Nat} {bs : Bytes} {v length : Nat} (hi : i ≤ 9)
    (h : readFrom start i bs = .ok (v, length)) :
    v < 2 ^ (64 - 7 * i) ∧ (0 < i → 0 < v) ∧ length = i + (write v).length ∧
      ∃ rest, bs = write v ++ rest := by
  induction bs generalizing i v with
  | nil =>
    rw [readFrom] at h
    split at h <;> cases h
  | cons b rest ih =>
    rw [readFrom, if_neg (by unfold maxLength; omega)] at h
    have hb := b.toNat_lt
    split at h
    · cases h
    next hfit =>
    split at h
    · next hlast =>
      -- the last group, which is not zero behind others
      split at h
      · cases h
      next hzero =>
      cases h
      refine ⟨?_, ?_, by rw [write_of_lt hlast]; rfl, rest, ?_⟩
      · -- seven bits fit into what is left before the tenth group, and one bit there
        rcases Nat.lt_or_ge i 9 with h9 | h9
        · have : 2 ^ 8 ≤ 2 ^ (64 - 7 * i) := Nat.pow_le_pow_right (by decide) (by omega)
          omega
        · obtain rfl : i = 9 := by omega
          omega
      · intro hpos
        refine Nat.pos_of_ne_zero fun h0 => hzero ⟨hpos, ?_⟩
        exact UInt8.toNat_inj.mp h0
      · rw [write_of_lt hlast, UInt8.ofNat_toNat]
        rfl
    · next hmore =>
      -- more groups follow, so this is not the tenth, and what they hold has seven bits less
      have hi9 : i ≠ 9 := by omega
      split at h
      · cases h
      next high length' hr =>
      cases h
      obtain ⟨hlt, hpos, hlen, rest', hrest⟩ := ih (by omega) hr
      have hhigh := hpos (by omega)
      -- the writer would split the number into this group and those behind it
      have hdiv : (b.toNat - 128 + 128 * high) / 128 = high := by omega
      have hmod : (b.toNat - 128 + 128 * high) % 128 + 128 = b.toNat := by omega
      have hwrite : write (b.toNat - 128 + 128 * high) = b :: write high := by
        rw [write_of_ge (by omega), hdiv, hmod, UInt8.ofNat_toNat]
      have hbits := two_pow_left (i := i) (by omega)
      refine ⟨by omega, fun _ => by omega, ?_, rest', ?_⟩
      · rw [hwrite, List.length_cons, hlen]
        omega
      · rw [hwrite, hrest, List.cons_append]

/-- The reader accepts the rest of a form from the `i`-th group on. Induction on the number. -/
theorem readFrom_write {start i n : Nat} (rest : Bytes) (hi : i ≤ 9)
    (hn : n < 2 ^ (64 - 7 * i)) (hpos : 0 < i → 0 < n) :
    readFrom start i (write n ++ rest) = .ok (n, i + (write n).length) := by
  induction n using Nat.strongRecOn generalizing i with
  | ind n ih =>
    have hmax : i ≠ maxLength := by unfold maxLength; omega
    -- the tenth group is left with one bit
    have hlast : i = 9 → n < 2 := fun h => by subst h; simpa using hn
    rcases Nat.lt_or_ge n 128 with hsmall | hlarge
    · have hbyte : (UInt8.ofNat n).toNat = n := toNat_ofNat_of_lt (by omega)
      -- a zero group ends a form only if it is the whole form
      have hzero : ¬(0 < i ∧ UInt8.ofNat n = 0) := by
        rintro ⟨h0, hn0⟩
        rw [hn0] at hbyte
        have := hpos h0
        simp at hbyte
        omega
      rw [write_of_lt hsmall, List.cons_append, readFrom, if_neg hmax]
      simp only [hbyte]
      rw [if_neg (by omega), if_pos hsmall, if_neg hzero]
      rfl
    · have hi9 : i ≠ 9 := by omega
      have hbits := two_pow_left (i := i) (by omega)
      have htail := ih (n / 128) (by omega) (i := i + 1) (by omega) (by omega) (fun _ => by omega)
      rw [write_of_ge hlarge, List.cons_append, readFrom, if_neg hmax]
      simp only [toNat_group, htail]
      rw [if_neg (by omega), if_neg (by omega), List.length_cons]
      congr 2
      · omega
      · omega

/-- The strict reader accepts the forms of the numbers below `2⁶⁴` and nothing else. -/
theorem read_eq_ok_iff {pos : Nat} {bs : Bytes} {n length : Nat} :
    read pos bs = .ok (n, length) ↔
      n < 2 ^ 64 ∧ length = (write n).length ∧ ∃ rest, bs = write n ++ rest := by
  constructor
  · intro h
    obtain ⟨hlt, -, hlen, hrest⟩ := readFrom_sound (by decide) h
    exact ⟨hlt, by omega, hrest⟩
  · rintro ⟨hlt, rfl, rest, rfl⟩
    rw [read, readFrom_write rest (by decide) hlt (by omega), Nat.zero_add]

theorem read_write {pos n : Nat} (h : n < 2 ^ 64) (rest : Bytes) :
    read pos (write n ++ rest) = .ok (n, (write n).length) :=
  read_eq_ok_iff.mpr ⟨h, rfl, rest, rfl⟩

/-! ## Reading leniently -/

/-- The same induction as for the strict reader, which only refuses more. -/
theorem readLooseFrom_write {i n : Nat} (rest : Bytes) (hi : i ≤ 9)
    (hn : n < 2 ^ (64 - 7 * i)) : readLooseFrom i (write n ++ rest) = some (n, rest) := by
  induction n using Nat.strongRecOn generalizing i with
  | ind n ih =>
    have hlast : i = 9 → n < 2 := fun h => by subst h; simpa using hn
    rcases Nat.lt_or_ge n 128 with hsmall | hlarge
    · have hbyte : (UInt8.ofNat n).toNat = n := toNat_ofNat_of_lt (by omega)
      rw [write_of_lt hsmall, List.cons_append, readLooseFrom]
      simp only [hbyte]
      rw [if_neg (by omega), if_pos hsmall]
      rfl
    · have hi9 : i ≠ 9 := by omega
      have hbits := two_pow_left (i := i) (by omega)
      have htail := ih (n / 128) (by omega) (i := i + 1) (by omega) (by omega)
      rw [write_of_ge hlarge, List.cons_append, readLooseFrom]
      simp only [toNat_group, htail]
      rw [if_neg (by omega), if_neg (by omega), Option.map_some]
      congr 2
      omega

theorem readLoose_write {n : Nat} (h : n < 2 ^ 64) (rest : Bytes) :
    readLoose (write n ++ rest) = some (n, rest) :=
  readLooseFrom_write rest (by decide) h

end ChainClaim.Varint
