import ChainClaim.Encodings
import ChainClaim.Proofs.Basic
import Mathlib

/-!
# Hexadecimal forms

A text is read as the bytes whose written form it is once its letters are lowered
(`decode_eq_ok_iff`), so it is the form of one byte string at most.

The writer makes characters and the reader takes bytes. The two meet at the digits: a byte is a
digit exactly if it is the whole encoding of a character that is one.
-/

namespace ChainClaim

/-! ## The bytes of a text -/

namespace Text

theorem toBytes_ofList (cs : List Char) :
    toBytes (String.ofList cs) = cs.flatMap String.utf8EncodeChar := by
  simp [toBytes, List.utf8Encode]

theorem toBytes_inj {s t : String} (h : toBytes s = toBytes t) : s = t := by
  have hs := ofBytes?_toBytes s
  rw [h, ofBytes?_toBytes t] at hs
  exact (Option.some.inj hs).symm

theorem length_toBytes (s : String) : (toBytes s).length = s.utf8ByteSize := rfl

theorem utf8EncodeChar_of_lt {c : Char} (h : c.toNat < 128) :
    String.utf8EncodeChar c = [UInt8.ofNat c.toNat] := by
  simp [String.utf8EncodeChar]
  omega

end Text

namespace Hex

/-! ## Digits -/

theorem toNat_toLower (c : Char) :
    c.toLower.toNat = if 65 ≤ c.toNat ∧ c.toNat ≤ 90 then c.toNat + 32 else c.toNat := by
  have hrange : (c.val ≥ 'A'.val ∧ c.val ≤ 'Z'.val) ↔ 65 ≤ c.toNat ∧ c.toNat ≤ 90 := Iff.rfl
  unfold Char.toLower
  split
  next h =>
    have hc := hrange.mp h
    rw [if_pos hc]
    -- the sum of code points does not wrap, since a capital is at most 90
    show (c.val + ('a'.val - 'A'.val)).toNat = c.val.toNat + 32
    have hlt : c.val.toNat ≤ 90 := hc.2
    rw [UInt32.toNat_add, show ('a'.val - 'A'.val).toNat = 32 from rfl]
    omega
  next h => rw [if_neg (hrange.not.mp h)]

theorem toNat_hexDigit {n : Nat} (h : n < 16) :
    (Text.hexDigit n).toNat = if n < 10 then 48 + n else 87 + n := by
  decide +revert

/-- Among the characters of one byte, the digits are those that lower to a digit in lower case. -/
theorem digit?_eq_some_iff {c : Char} (hc : c.toNat < 128) {n : Nat} :
    digit? (UInt8.ofNat c.toNat) = some n ↔ n < 16 ∧ c.toLower = Text.hexDigit n := by
  have hbyte : (UInt8.ofNat c.toNat).toNat = c.toNat := by
    rw [UInt8.toNat_ofNat']
    omega
  have hlower := toNat_toLower c
  simp only [digit?, hbyte]
  constructor
  -- a case for each of the three ranges of digits, and one for what is in none
  · intro h
    have hn : n < 16 := by
      split_ifs at h <;> cases h <;> omega
    refine ⟨hn, Char.toNat_inj.mp ?_⟩
    rw [hlower, toNat_hexDigit hn]
    split_ifs at h ⊢ <;> cases h <;> omega
  · rintro ⟨hn, h⟩
    rw [h, toNat_hexDigit hn] at hlower
    split_ifs at hlower ⊢ <;> first | omega | (congr 1; omega)

/-- A digit is the whole encoding of a character. -/
theorem exists_char_of_digit? {b : UInt8} {n : Nat} (h : digit? b = some n) :
    ∃ c, String.utf8EncodeChar c = [b] ∧ n < 16 ∧ c.toLower = Text.hexDigit n := by
  -- all digits are ASCII, so the byte is the code point of a character
  have hb : b.toNat < 128 := by
    simp only [digit?] at h
    split_ifs at h <;> omega
  have hc : (Char.ofNat b.toNat).toNat = b.toNat := by
    rw [Char.toNat_ofNat, if_pos (.inl (by omega))]
  refine ⟨Char.ofNat b.toNat, ?_, ?_⟩
  · rw [Text.utf8EncodeChar_of_lt (by omega), hc, UInt8.ofNat_toNat]
  · apply (digit?_eq_some_iff (by omega)).mp
    rw [hc, UInt8.ofNat_toNat, h]

/-- A character that lowers to a digit is encoded as a digit. -/
theorem digit?_of_toLower {c : Char} {n : Nat} (hn : n < 16) (h : c.toLower = Text.hexDigit n) :
    ∃ b, String.utf8EncodeChar c = [b] ∧ digit? b = some n := by
  have hc : c.toNat < 128 := by
    have hlower := toNat_toLower c
    rw [h, toNat_hexDigit hn] at hlower
    split_ifs at hlower <;> omega
  exact ⟨_, Text.utf8EncodeChar_of_lt hc, (digit?_eq_some_iff hc).mpr ⟨hn, h⟩⟩

/-! ## Pairs of digits -/

theorem encodeByte_ofNat {h l : Nat} (hh : h < 16) (hl : l < 16) :
    encodeByte (UInt8.ofNat (16 * h + l)) = [Text.hexDigit h, Text.hexDigit l] := by
  have hbyte : (UInt8.ofNat (16 * h + l)).toNat = 16 * h + l := by
    rw [UInt8.toNat_ofNat']
    omega
  have hdiv : (16 * h + l) / 16 = h := by omega
  have hmod : (16 * h + l) % 16 = l := by omega
  rw [encodeByte, hbyte, hdiv, hmod]

theorem decodePairs_cons {i h l : Nat} {hi lo : UInt8} {rest : Bytes} (hhi : digit? hi = some h)
    (hlo : digit? lo = some l) :
    decodePairs i (hi :: lo :: rest) =
      (decodePairs (i + 2) rest).map (UInt8.ofNat (16 * h + l) :: ·) := by
  rw [decodePairs, hhi, hlo]
  cases decodePairs (i + 2) rest with
  | error | ok => rfl

/-- What is read is the encoding of characters that lower to the written form, and there are two
digits to a byte. Induction on the reader's recursion. -/
theorem decodePairs_sound {i : Nat} {digits bs : Bytes} (hread : decodePairs i digits = .ok bs) :
    digits.length = 2 * bs.length ∧
      ∃ cs : List Char, digits = cs.flatMap String.utf8EncodeChar ∧
        cs.map Char.toLower = bs.flatMap encodeByte := by
  induction i, digits using decodePairs.induct generalizing bs with
  | case1 i =>
    cases hread
    exact ⟨rfl, [], rfl, rfl⟩
  -- one digit alone, or a character that is none
  | case2 i b => cases hread
  | case3 i hi lo rest hhi =>
    rw [decodePairs, hhi] at hread
    cases hread
  | case4 i hi lo rest h hlo hhi =>
    rw [decodePairs, hhi, hlo] at hread
    cases hread
  | case5 i hi lo rest h l hlo hhi ih =>
    rw [decodePairs_cons hhi hlo] at hread
    obtain ⟨read, hrest, rfl⟩ := Outcome.map_eq_ok.mp hread
    obtain ⟨hlength, cs, rfl, hcs⟩ := ih hrest
    obtain ⟨c, hc, hh, hclower⟩ := exists_char_of_digit? hhi
    obtain ⟨d, hd, hl, hdlower⟩ := exists_char_of_digit? hlo
    refine ⟨?_, c :: d :: cs, ?_, ?_⟩
    · simp only [List.length_cons]
      omega
    · simp only [List.flatMap_cons, hc, hd, List.singleton_append]
    · simp only [List.map_cons, List.flatMap_cons, hclower, hdlower, hcs, encodeByte_ofNat hh hl,
        List.cons_append, List.nil_append]

/-- Characters that lower to a written form are read as its bytes. Induction on these. -/
theorem decodePairs_complete {i : Nat} {cs : List Char} {bs : Bytes}
    (h : cs.map Char.toLower = bs.flatMap encodeByte) :
    decodePairs i (cs.flatMap String.utf8EncodeChar) = .ok bs := by
  induction bs generalizing i cs with
  | nil =>
    rw [List.flatMap_nil, List.map_eq_nil_iff] at h
    rw [h]
    rfl
  | cons b bs ih =>
    obtain ⟨c, cs, rfl, hc, h⟩ := List.map_eq_cons_iff.mp h
    obtain ⟨d, cs, rfl, hd, hcs⟩ := List.map_eq_cons_iff.mp h
    -- both halves of a byte are below sixteen
    have hb := b.toNat_lt
    obtain ⟨hi, hencodeHi, hhi⟩ := digit?_of_toLower (by omega) hc
    obtain ⟨lo, hencodeLo, hlo⟩ := digit?_of_toLower (by omega) hd
    have hbyte : UInt8.ofNat (16 * (b.toNat / 16) + b.toNat % 16) = b := by
      rw [Nat.div_add_mod, UInt8.ofNat_toNat]
    simp only [List.flatMap_cons, hencodeHi, hencodeLo, List.singleton_append]
    rw [decodePairs_cons hhi hlo, ih hcs, hbyte]
    rfl

/-! ## Whole texts -/

theorem decode_eq_decodePairs {text : String} {bs : Bytes} :
    decode text = .ok bs ↔ decodePairs 0 (Text.toBytes text) = .ok bs := by
  simp only [decode]
  split
  next hodd =>
    -- an odd length is reported first, and pairs would not have been read either
    refine ⟨nofun, fun h => ?_⟩
    have hlength := (decodePairs_sound h).1
    omega
  next => rfl

/-- A text is the hexadecimal form of the bytes that are written as it once its letters are
lowered. -/
theorem decode_eq_ok_iff {text : String} {bs : Bytes} :
    decode text = .ok bs ↔ text.toLower = encode bs := by
  have hlower : text.toLower.toList = text.toList.map Char.toLower := String.toList_map
  rw [decode_eq_decodePairs, encode, ← String.toList_inj, hlower, String.toList_ofList]
  constructor
  · intro h
    obtain ⟨-, cs, hcs, hlowered⟩ := decodePairs_sound h
    -- the bytes are those of some characters, and a text is told by its bytes
    have htext : text = String.ofList cs := by
      apply Text.toBytes_inj
      rw [hcs, Text.toBytes_ofList]
    rw [htext, String.toList_ofList, hlowered]
  · intro h
    have hbytes : Text.toBytes text = text.toList.flatMap String.utf8EncodeChar := by
      rw [← Text.toBytes_ofList, String.ofList_toList]
    rw [hbytes, decodePairs_complete h]

theorem length_of_decode {text : String} {bs : Bytes} (h : decode text = .ok bs) :
    text.utf8ByteSize = 2 * bs.length := by
  rw [← Text.length_toBytes]
  exact (decodePairs_sound (decode_eq_decodePairs.mp h)).1

end Hex

end ChainClaim
