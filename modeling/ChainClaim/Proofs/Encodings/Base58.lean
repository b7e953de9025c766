import ChainClaim.Encodings
import ChainClaim.Proofs.Basic
import Mathlib.Data.List.GetD
import Mathlib.Data.List.TakeWhile
import Mathlib.Data.Nat.Digits.Lemmas

/-!
# Bytes in base 58

Writing bytes in base 58 and reading them back are one conversion between two bases: digits that are
zero in front stay where they are, and what follows them is a number, written anew
(`Radix.rebase`). Converting back undoes it (`Radix.rebase_rebase`), so a byte string has one text,
and no other text is read as it (`Base58.decode_eq_ok_iff`).
-/

namespace ChainClaim

/-! ## Numerals -/

namespace Radix

/-- The same digits as those of the library, which begins with the least significant one. -/
theorem digits_eq_reverse (b n : Nat) : digits b n = (Nat.digits (b + 2) n).reverse := by
  induction n using Nat.strongRecOn with
  | ind n ih =>
    rw [digits]
    split
    next hzero => rw [hzero, Nat.digits_zero, List.reverse_nil]
    next hzero =>
      -- both split off the last digit; the library puts it in front
      rw [Nat.digits_def' (by omega) (Nat.pos_of_ne_zero hzero), List.reverse_cons,
        ih _ (Nat.div_lt_self (by omega) (by omega))]

theorem value_eq_ofDigits (b : Nat) (ds : List Nat) : value b ds = Nat.ofDigits b ds.reverse := by
  rw [Nat.ofDigits_eq_foldr, List.foldr_reverse, value]
  congr 1
  funext n d
  rw [Nat.mul_comm, Nat.add_comm, Nat.cast_id]

/-- No number is written with a zero in front. -/
theorem head?_digits_ne (b n : Nat) : (digits b n).head? ≠ some 0 := by
  rw [digits_eq_reverse, List.head?_reverse]
  intro hlast
  obtain ⟨hne, hzero⟩ := List.mem_getLast?_eq_getLast hlast
  exact Nat.getLast_digit_ne_zero (b + 2) (Nat.digits_ne_nil_iff_ne_zero.mp hne) hzero.symm

/-- Digits with no zero in front are those of the number that they write. -/
theorem digits_value {b : Nat} {ds : List Nat} (hlt : ∀ d ∈ ds, d < b + 2)
    (hhead : ds.head? ≠ some 0) : digits b (value (b + 2) ds) = ds := by
  rw [digits_eq_reverse, value_eq_ofDigits, Nat.digits_ofDigits _ (by omega), List.reverse_reverse]
  · intro d hd
    exact hlt d (List.mem_reverse.mp hd)
  · -- what comes last for the library comes first here
    intro hne hlast
    rw [List.getLast_reverse] at hlast
    apply hhead
    rw [← hlast, List.head?_eq_some_head]

/-- Zeros in front add nothing. -/
theorem value_append_of_zeros {b : Nat} {zeros : List Nat} (h : ∀ d ∈ zeros, d = 0)
    (ds : List Nat) : value b (zeros ++ ds) = value b ds := by
  induction zeros with
  | nil => rfl
  | cons d zeros ih =>
    rw [List.forall_mem_cons] at h
    obtain ⟨rfl, hzeros⟩ := h
    rw [← ih hzeros]
    simp [value]

/-! ## From base to base -/

/-- Takes digits in base `b + 2` to base `c + 2`: zeros in front as they are, the rest by its
value. -/
def rebase (b c : Nat) (ds : List Nat) : List Nat :=
  ds.takeWhile (· = 0) ++ digits c (value (b + 2) ds)

theorem eq_zero_of_mem_takeWhile {ds : List Nat} {d : Nat} (h : d ∈ ds.takeWhile (· = 0)) :
    d = 0 := by
  simpa using List.mem_takeWhile_imp h

theorem lt_of_mem_rebase {b c d : Nat} {ds : List Nat} (h : d ∈ rebase b c ds) : d < c + 2 := by
  rcases List.mem_append.mp h with hzero | hdigit
  · rw [eq_zero_of_mem_takeWhile hzero]
    omega
  · exact lt_of_mem_digits hdigit

/-- Converting back gives the digits that there were, as many zeros in front included. -/
theorem rebase_rebase {b c : Nat} {ds : List Nat} (hlt : ∀ d ∈ ds, d < b + 2) :
    rebase c b (rebase b c ds) = ds := by
  have hzeros : ∀ d ∈ ds.takeWhile (· = 0), d = 0 := fun d => eq_zero_of_mem_takeWhile
  -- of the converted digits the same ones are zeros in front
  have hfront : (rebase b c ds).takeWhile (· = 0) = ds.takeWhile (· = 0) := by
    have hnone : (digits c (value (b + 2) ds)).takeWhile (· = 0) = [] := by
      have hhead := head?_digits_ne c (value (b + 2) ds)
      cases hdigits : digits c (value (b + 2) ds) with
      | nil => rfl
      | cons d rest =>
        rw [hdigits, List.head?_cons] at hhead
        exact List.takeWhile_cons_of_neg (by simpa using hhead)
    rw [rebase, List.takeWhile_append_of_pos (by simpa using hzeros), hnone, List.append_nil]
  -- and they write the same number, which is that of the digits behind the zeros
  have hvalue : value (c + 2) (rebase b c ds) = value (b + 2) (ds.dropWhile (· = 0)) := by
    rw [rebase, value_append_of_zeros hzeros, value_digits]
    conv_lhs => rw [← List.takeWhile_append_dropWhile (p := (· = 0)) (l := ds)]
    exact value_append_of_zeros hzeros _
  -- behind the zeros stand the digits of a number, with no zero in front
  have hrest : digits b (value (b + 2) (ds.dropWhile (· = 0))) = ds.dropWhile (· = 0) := by
    refine digits_value (fun d hd => hlt d ((List.dropWhile_sublist _).subset hd)) fun hhead => ?_
    have hnot := List.head?_dropWhile_not (fun d : Nat => decide (d = 0)) ds
    rw [hhead] at hnot
    simp at hnot
  rw [rebase, hfront, hvalue, hrest, List.takeWhile_append_dropWhile]

end Radix

theorem Bytes.toNat_eq_value (bs : Bytes) : bs.toNat = Radix.value 256 (bs.map UInt8.toNat) := by
  rw [Radix.value, List.foldl_map, Bytes.toNat]

/-! ## Digits as characters -/

namespace Base58

open Radix (rebase)

theorem digit?_symbol {d : Nat} (h : d < 58) : digit? (symbol d) = some d := by
  revert d
  decide

theorem toNat_symbol_lt {d : Nat} (h : d < 58) : (symbol d).toNat < 128 := by
  revert d
  decide

/-- No two characters stand for one digit. -/
theorem digit?_eq_some_iff {c : Char} {d : Nat} : digit? c = some d ↔ d < 58 ∧ symbol d = c := by
  constructor
  · intro h
    obtain ⟨hd, hc, -⟩ := List.findIdx?_eq_some_iff_getElem.mp h
    refine ⟨hd, ?_⟩
    rw [symbol, List.getD_eq_getElem _ _ hd]
    exact of_decide_eq_true hc
  · rintro ⟨hd, rfl⟩
    exact digit?_symbol hd

/-- The characters of a text are read as digits exactly if they stand for these. Induction on the
characters. -/
theorem digitsOf_eq_ok_iff {i : Nat} {cs : List Char} {ds : List Nat} :
    digitsOf i cs = .ok ds ↔ (∀ d ∈ ds, d < 58) ∧ cs = ds.map symbol := by
  induction cs generalizing i ds with
  | nil =>
    rw [digitsOf]
    constructor
    · intro h
      cases h
      simp
    · rintro ⟨-, hds⟩
      rw [List.map_eq_nil_iff.mp hds.symm]
  | cons c rest ih =>
    constructor
    · -- a character outside ASCII and one that is no digit end the reading
      intro h
      rw [digitsOf] at h
      split at h
      · cases h
      split at h
      · cases h
      next d hd =>
        obtain ⟨read, hread, h⟩ := Outcome.bind_eq_ok.mp h
        cases h
        obtain ⟨hlt, rfl⟩ := digit?_eq_some_iff.mp hd
        obtain ⟨hrest, rfl⟩ := ih.mp hread
        exact ⟨List.forall_mem_cons.mpr ⟨hlt, hrest⟩, rfl⟩
    · rintro ⟨hlt, hds⟩
      obtain ⟨d, ds, rfl, rfl, rfl⟩ := List.map_eq_cons_iff.mp hds.symm
      rw [List.forall_mem_cons] at hlt
      have hrest : digitsOf (i + 1) (ds.map symbol) = .ok ds := ih.mpr ⟨hlt.2, rfl⟩
      rw [digitsOf, if_neg (Nat.not_le.mpr (toNat_symbol_lt hlt.1)), digit?_symbol hlt.1]
      simp only [hrest]
      rfl

/-! ## Whole texts -/

theorem encode_eq_rebase (bs : Bytes) :
    encode bs = String.ofList ((rebase 254 56 (bs.map UInt8.toNat)).map symbol) := by
  -- zeros in front are bytes for the writer and digits for the conversion
  have hzero : ((fun d : Nat => decide (d = 0)) ∘ UInt8.toNat) = fun b => decide (b = 0) := by
    funext b
    simp [← UInt8.toNat_inj]
  have hzeros : (bs.takeWhile (· = 0)).map (symbol ∘ UInt8.toNat) =
      (bs.takeWhile (· = 0)).map fun _ => symbol 0 := by
    refine List.map_congr_left fun b hb => ?_
    have hb : b = 0 := by simpa using List.mem_takeWhile_imp hb
    rw [hb]
    rfl
  rw [encode, rebase, List.map_append, List.takeWhile_map, hzero, List.map_map, hzeros,
    Bytes.toNat_eq_value]

theorem decode_eq_rebase (text : String) :
    decode text =
      (digitsOf 0 text.toList).map fun ds => (rebase 56 254 ds).map UInt8.ofNat := by
  rw [decode]
  cases digitsOf 0 text.toList with
  | error e => rfl
  | ok ds =>
    have hzeros : (ds.takeWhile (· = 0)).map UInt8.ofNat =
        (ds.takeWhile (· = 0)).map fun _ => 0 :=
      List.map_congr_left fun d hd => by rw [Radix.eq_zero_of_mem_takeWhile hd]; rfl
    simp only [Except.map, rebase, List.map_append, hzeros]
    rfl

/-- A text is read as the bytes that are written as it, and no other text is. -/
theorem decode_eq_ok_iff {text : String} {bs : Bytes} : decode text = .ok bs ↔ text = encode bs := by
  rw [decode_eq_rebase, Outcome.map_eq_ok, encode_eq_rebase]
  constructor
  · rintro ⟨ds, hread, rfl⟩
    obtain ⟨hlt, htext⟩ := digitsOf_eq_ok_iff.mp hread
    -- digits below 256 are bytes, so nothing is lost before they are converted back
    have hbytes : ((rebase 56 254 ds).map UInt8.ofNat).map UInt8.toNat = rebase 56 254 ds := by
      rw [List.map_map]
      refine (List.map_congr_left fun d hd => ?_).trans (List.map_id _)
      rw [Function.comp_apply, UInt8.toNat_ofNat']
      exact Nat.mod_eq_of_lt (Radix.lt_of_mem_rebase hd)
    rw [hbytes, Radix.rebase_rebase hlt, ← htext, String.ofList_toList]
  · rintro rfl
    refine ⟨rebase 254 56 (bs.map UInt8.toNat), digitsOf_eq_ok_iff.mpr ⟨fun d hd => ?_, ?_⟩, ?_⟩
    · exact Radix.lt_of_mem_rebase hd
    · rw [String.toList_ofList]
    · rw [Radix.rebase_rebase, List.map_map]
      · exact List.map_id'' (fun b => UInt8.ofNat_toNat) bs
      · intro d hd
        obtain ⟨b, -, rfl⟩ := List.mem_map.mp hd
        exact b.toNat_lt

theorem encode_inj {bs others : Bytes} (h : encode bs = encode others) : bs = others := by
  have hread : decode (encode bs) = .ok bs := decode_eq_ok_iff.mpr rfl
  rw [decode_eq_ok_iff.mpr h] at hread
  exact (Except.ok.inj hread).symm

end Base58

end ChainClaim
