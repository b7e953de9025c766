import ChainClaim.Codec
import ChainClaim.Proofs.Encodings.Hex
import ChainClaim.Proofs.Record.Reachable
import ChainClaim.Proofs.Record.Splicing
import Mathlib

/-!
# What a codec lets through

Sizes are checked before bytes are read, after a record is written, and on half the length of a
hexadecimal text before its digits are looked at; what is left when a signature is cut out is not
checked at all. Still nothing too large comes out of a codec, and it reads what it writes
(`Codec.closed`): each entry point is a check beside an operation on claims (`read_eq_ok_iff` and
its siblings), and cutting out makes no claim longer.
-/

namespace ChainClaim

namespace Codec

variable {codec : Codec}

/-! ## Entry points -/

theorem lift_eq_ok_iff {α : Type} {x : Except Error α} {a : α} : lift x = .ok a ↔ x = .ok a := by
  cases x with
  | error e => exact ⟨nofun, nofun⟩
  | ok b =>
    show Except.ok b = _ ↔ _
    rw [Except.ok.injEq, Except.ok.injEq]

theorem checkSize_eq_ok_iff {size : Nat} {done : Unit} :
    codec.checkSize size = .ok done ↔ size ≤ codec.maxSize := by
  unfold checkSize
  split
  next hlarge => exact ⟨nofun, fun h => absurd hlarge (by omega)⟩
  next hsmall => exact ⟨fun _ => by omega, fun _ => rfl⟩

/-- A size that is checked before the operation. -/
theorem checkSize_bind_eq_ok_iff {α : Type} {size : Nat} {x : Except Fault α} {a : α} :
    (codec.checkSize size >>= fun _ => x) = .ok a ↔ size ≤ codec.maxSize ∧ x = .ok a := by
  rw [Outcome.bind_eq_ok]
  simp only [checkSize_eq_ok_iff, exists_const]

/-- A size that is checked on what the operation gives. -/
theorem bind_checkSize_eq_ok_iff {x : Except Error Bytes} {b : Bytes} :
    (lift x >>= fun bytes => codec.checkSize bytes.length >>= fun _ => pure bytes) = .ok b ↔
      b.length ≤ codec.maxSize ∧ x = .ok b := by
  rw [Outcome.bind_eq_ok]
  constructor
  · rintro ⟨bytes, hbytes, h⟩
    obtain ⟨hsize, h⟩ := checkSize_bind_eq_ok_iff.mp h
    cases h
    exact ⟨hsize, lift_eq_ok_iff.mp hbytes⟩
  · rintro ⟨hsize, hx⟩
    exact ⟨b, lift_eq_ok_iff.mpr hx, checkSize_bind_eq_ok_iff.mpr ⟨hsize, rfl⟩⟩

theorem read_eq_ok_iff {b : Bytes} {r : Record} :
    codec.read b = .ok r ↔ b.length ≤ codec.maxSize ∧ Record.ofBytes b = .ok r := by
  rw [read, checkSize_bind_eq_ok_iff, lift_eq_ok_iff]

theorem write_eq_ok_iff {r : Record} {b : Bytes} :
    codec.write r = .ok b ↔ b.length ≤ codec.maxSize ∧ r.toBytes = .ok b := by
  rw [write, bind_checkSize_eq_ok_iff]

theorem strip_eq_ok_iff {b stripped : Bytes} :
    codec.strip b = .ok stripped ↔ b.length ≤ codec.maxSize ∧ Splice.strip b = .ok stripped := by
  rw [strip, checkSize_bind_eq_ok_iff, lift_eq_ok_iff]

theorem attach_eq_ok_iff {b signed : Bytes} {block : Block} :
    codec.attach b block = .ok signed ↔ b.length ≤ codec.maxSize ∧
      signed.length ≤ codec.maxSize ∧ Splice.attach b block = .ok signed := by
  rw [attach, checkSize_bind_eq_ok_iff, bind_checkSize_eq_ok_iff]

/-! ## Hexadecimal texts -/

/-- A text is read as its bytes are, and refused as they are: half the length of the text is the
length of the bytes, so they are found too large with one size and one limit. -/
theorem readHex_eq_read {text : String} {b : Bytes}
    (h : Hex.decode (Text.trimBlank text) = .ok b) : codec.readHex text = codec.read b := by
  -- what decodes has two digits for each byte, so nothing is lost in halving
  have hhalf : (Text.trimBlank text).utf8ByteSize / 2 = b.length := by
    have hsize := Hex.length_of_decode h
    omega
  simp only [readHex, hhalf, h]
  cases hsize : codec.checkSize b.length with
  | error fault =>
    rw [read, hsize]
    rfl
  | ok done => rfl

/-- A record that is read from a text is written as this text, its blanks cut off and its letters
lowered. -/
theorem writeHex_of_write {text : String} {b : Bytes} {r : Record}
    (h : Hex.decode (Text.trimBlank text) = .ok b) (hwrite : codec.write r = .ok b) :
    codec.writeHex r = .ok (Text.trimBlank text).toLower := by
  rw [writeHex, hwrite, Hex.decode_eq_ok_iff.mp h]
  rfl

/-! ## Closure -/

theorem write_of_read {b : Bytes} {r : Record} (h : codec.read b = .ok r) :
    b.length ≤ codec.maxSize ∧ codec.write r = .ok b := by
  obtain ⟨hsize, hread⟩ := read_eq_ok_iff.mp h
  exact ⟨hsize, write_eq_ok_iff.mpr ⟨hsize, Record.toBytes_eq_of_ofBytes hread⟩⟩

theorem read_of_write {r : Record} (hr : Reachable r) {b : Bytes} (h : codec.write r = .ok b) :
    b.length ≤ codec.maxSize ∧ (b.length < 2 ^ 64 → codec.read b = .ok r) := by
  obtain ⟨hsize, hbytes⟩ := write_eq_ok_iff.mp h
  refine ⟨hsize, fun hlen => read_eq_ok_iff.mpr ⟨hsize, ?_⟩⟩
  exact hr.wellFormed.ofBytes_of_toBytes hbytes hlen

theorem length_strip_le {b stripped : Bytes} (h : codec.strip b = .ok stripped) :
    stripped.length ≤ codec.maxSize := by
  obtain ⟨hsize, hstrip⟩ := strip_eq_ok_iff.mp h
  exact Nat.le_trans (Splice.length_strip_le hstrip) hsize

theorem strip_of_read {b : Bytes} {r : Record} (h : codec.read b = .ok r) :
    ∃ stripped, codec.strip b = .ok stripped ∧ codec.read stripped = .ok r.unsigned := by
  obtain ⟨hsize, hread⟩ := read_eq_ok_iff.mp h
  obtain ⟨stripped, hstrip, -, hunsigned⟩ := Record.strip_of_ofBytes hread
  -- what is left is not larger, so it passes the check that the whole claim passed
  have hstripped : codec.strip b = .ok stripped := strip_eq_ok_iff.mpr ⟨hsize, hstrip⟩
  exact ⟨stripped, hstripped, read_eq_ok_iff.mpr ⟨length_strip_le hstripped, hunsigned⟩⟩

/-- What holds of a codec of any size: it keeps out what is larger and nothing else, and sends out
nothing larger; what it reads it writes, what it writes it reads, and what it reads it reads without
the signature; texts are let through as the bytes are whose form they are. Lengths are 64-bit
numbers, in a claim as in memory. -/
structure Closed (codec : Codec) : Prop where
  admits : ∀ b r, Record.ofBytes b = .ok r → b.length ≤ codec.maxSize → codec.read b = .ok r
  write_of_read : ∀ b r, codec.read b = .ok r → b.length ≤ codec.maxSize ∧ codec.write r = .ok b
  read_of_write : ∀ r b, Reachable r → codec.write r = .ok b →
    b.length ≤ codec.maxSize ∧ (b.length < 2 ^ 64 → codec.read b = .ok r)
  length_strip : ∀ b stripped, codec.strip b = .ok stripped → stripped.length ≤ codec.maxSize
  strip_of_read : ∀ b r, codec.read b = .ok r →
    ∃ stripped, codec.strip b = .ok stripped ∧ codec.read stripped = .ok r.unsigned
  attach_iff : ∀ b block signed, codec.attach b block = .ok signed ↔
    b.length ≤ codec.maxSize ∧ signed.length ≤ codec.maxSize ∧
      Splice.attach b block = .ok signed
  hex : ∀ text b, Hex.decode (Text.trimBlank text) = .ok b →
    codec.readHex text = codec.read b ∧
      ∀ r, codec.readHex text = .ok r → codec.writeHex r = .ok (Text.trimBlank text).toLower

theorem closed (codec : Codec) : codec.Closed where
  admits b r h hsize := read_eq_ok_iff.mpr ⟨hsize, h⟩
  write_of_read b r h := write_of_read h
  read_of_write r b hr h := read_of_write hr h
  length_strip b stripped h := length_strip_le h
  strip_of_read b r h := strip_of_read h
  attach_iff b block signed := attach_eq_ok_iff
  hex text b h := by
    refine ⟨readHex_eq_read h, fun r hr => ?_⟩
    rw [readHex_eq_read h] at hr
    exact writeHex_of_write h (write_of_read hr).2

/-- A codec that lets signed blank streams through and nothing larger. -/
def tightCodec : Codec := { maxSize := 87 }

/-- The bytes of a blank stream that is signed with zeros. -/
def zeroSignedBytes : Bytes := 0x01 :: (List.replicate 84 0 ++ [0x0a, 0x00])

/-- A blank stream is read from a text between blanks and written in lower case; a signature just
fits in and is cut out again. -/
theorem closed_tightCodec :
    tightCodec.readHex " 000A00\n" = .ok (Record.blank .stream) ∧
      tightCodec.writeHex (Record.blank .stream) = .ok "000a00" ∧
      tightCodec.write (Record.blank .stream) = .ok [0x00, 0x0a, 0x00] ∧
      tightCodec.read [0x00, 0x0a, 0x00] = .ok (Record.blank .stream) ∧
      tightCodec.attach [0x00, 0x0a, 0x00] Record.zeroBlock = .ok zeroSignedBytes ∧
      zeroSignedBytes.length ≤ tightCodec.maxSize ∧
      tightCodec.strip zeroSignedBytes = .ok [0x00, 0x0a, 0x00] ∧
      [0x00, 0x0a, 0x00].length ≤ tightCodec.maxSize := by
  have hclosed := closed tightCodec
  have hdecode : Hex.decode (Text.trimBlank " 000A00\n") = .ok [0x00, 0x0a, 0x00] := by decide
  -- the text in lower case is what encoding gives, and no letter has to be looked at
  have hlower : (Text.trimBlank " 000A00\n").toLower = "000a00" := by
    rw [Hex.decode_eq_ok_iff.mp hdecode]
    decide
  have hread := hclosed.admits _ _ Record.ofBytes_blank_stream (by decide)
  obtain ⟨hsame, hwritten⟩ := hclosed.hex _ _ hdecode
  have hhex := hsame.trans hread
  have hwriteHex := hwritten _ hhex
  rw [hlower] at hwriteHex
  have hwrite := (hclosed.write_of_read _ _ hread).2
  have hagain := (hclosed.read_of_write _ _ (.blank .stream) hwrite).2 (by decide)
  have hattach : tightCodec.attach [0x00, 0x0a, 0x00] Record.zeroBlock = .ok zeroSignedBytes := by
    cbv
  have hstrip : tightCodec.strip zeroSignedBytes = .ok [0x00, 0x0a, 0x00] := by cbv
  exact ⟨hhex, hwriteHex, hwrite, hagain, hattach, ((hclosed.attach_iff _ _ _).mp hattach).2.1,
    hstrip, hclosed.length_strip _ _ hstrip⟩

end Codec

end ChainClaim
