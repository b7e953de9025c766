import ChainClaim.Proofs.Record.RoundTrip
import ChainClaim.Proofs.Signature.Splicing

/-!
# Splicing bytes and editing records

Signatures can be cut out and framed in on the bytes of a claim, without its schema, or on the
record that is read from them. Both ways give the same bytes, cover the same bytes and fail with the
same errors: the envelope of a claim says all that splicing needs, and the record agrees with it.

Framing the block of a claim back in gives the claim again unless the block holds no signature
(`attach_strip_eq_ok_iff`): such a block is read, but not framed in.
-/

namespace ChainClaim

open Envelope (Derives)

/-! ## Cutting a signature out -/

namespace Record

theorem unsigned_describes {env : Envelope} {r : Record} (h : env.Describes r) :
    env.unsigned.Describes r.unsigned := by
  rw [unsigned_eq]
  refine ⟨h.generation, ?_, h.variant, h.payload, rfl⟩
  show (if env.standing = .signed then Standing.unsigned else env.standing) = _
  rw [h.standing]

theorem toUnsignedBytes_eq (r : Record) : r.toUnsignedBytes = r.unsigned.toBytes := by
  rw [unsigned_eq]
  rfl

/-- The signature of a claim that is read can be cut out. What is left is what the record writes
without its signature, and is read as the record without it. -/
theorem strip_of_ofBytes {b : Bytes} {r : Record} (h : ofBytes b = .ok r) :
    ∃ stripped, Splice.strip b = .ok stripped ∧ r.toUnsignedBytes = .ok stripped ∧
      ofBytes stripped = .ok r.unsigned := by
  obtain ⟨env, hderives, hdescribes, hcontent⟩ := ofBytes_eq_ok_iff.mp h
  obtain ⟨stripped, hstrip, hunsigned⟩ := Splice.strip_of_derives hderives
  have hread : ofBytes stripped = .ok r.unsigned := by
    refine ofBytes_eq_ok_iff.mpr ⟨env.unsigned, hunsigned, unsigned_describes hdescribes, ?_⟩
    -- the payload is the same, so its content is
    rw [unsigned_eq]
    exact hcontent
  exact ⟨stripped, hstrip, (toUnsignedBytes_eq r).trans (toBytes_eq_of_ofBytes hread), hread⟩

/-! ## What a signature covers -/

/-- What a signature covers is told alike by an envelope and by the record that it describes. -/
theorem covered_of_describes {env : Envelope} {r : Record} (h : env.Describes r) :
    env.covered = r.signable := by
  obtain ⟨generation, standing, variant, content, signature⟩ := r
  obtain ⟨hgeneration, -, hvariant, hpayload, -⟩ := h
  rw [Envelope.covered, hgeneration, hvariant, hpayload]
  cases generation with
  | v1 | v2 => rfl

/-- The bytes that a signature covers stand in the claim as the record tells them. -/
theorem signable_of_derives {b : Bytes} {env : Envelope} {r : Record} (h : Derives b env)
    (hdescribes : env.Describes r) : Splice.signable b = .ok r.signable := by
  rw [Splice.signable_of_derives h, covered_of_describes hdescribes]

/-! ## Framing a signature in -/

/-- Attaching a block to a claim that has no signature, on its bytes and on its record. -/
theorem attach_agrees {b : Bytes} {env : Envelope} {r : Record} (h : Derives b env)
    (hdescribes : env.Describes r) (hr : r.WellFormed) (hpayload : r.payload = .ok r.content.encode)
    (hstanding : r.standing ≠ .signed) (block : Block) :
    match (attach block).run r with
    | .error e _ => Splice.attach b block = .error e
    | .ok _ signed => ∃ bytes, signed.toBytes = .ok bytes ∧ Splice.attach b block = .ok bytes ∧
        (bytes.length < 2 ^ 64 → ofBytes bytes = .ok signed) := by
  have hkeeps := (attach_makes block).keeps r hr
  rw [Edit.after] at hkeeps
  rw [Splice.attach, Envelope.read_of_derives h, Outcome.ok_bind, hdescribes.standing,
    hdescribes.generation, hdescribes.variant, hdescribes.payload]
  -- both ways ask for the standing first and then whether the block fits
  rw [run_attach] at hkeeps ⊢
  cases hcase : r.standing with
  | signed => exact absurd hcase hstanding
  | legacy => rfl
  | unsigned =>
    rw [hcase] at hkeeps
    cases hfits : block.checkFits r.generation with
    | error e => rfl
    | ok u =>
      rw [hfits] at hkeeps
      have hsigned : payload { r with signature := some block, standing := .signed } =
          .ok r.content.encode := hpayload
      -- what is framed in is what the signed record writes, and well-formed records read back
      refine ⟨_, ?_, rfl, ofBytes_framed hkeeps hsigned⟩
      rw [toBytes_eq, hsigned]
      rfl

/-- Splicing the bytes of a claim and editing its record agree: on the claim without its signature,
on what a signature covers, and, unless there is a signature already, on the claim with a block
attached, failures included. Lengths are 64-bit numbers, in a claim as in memory. -/
theorem splice_agrees {b : Bytes} {r : Record} (h : ofBytes b = .ok r) :
    (∃ stripped, Splice.strip b = .ok stripped ∧ r.toUnsignedBytes = .ok stripped ∧
        r.unsigned.toBytes = .ok stripped ∧ ofBytes stripped = .ok r.unsigned) ∧
      Splice.signable b = .ok r.signable ∧
      (r.standing ≠ .signed → ∀ block,
        match (attach block).run r with
        | .error e _ => Splice.attach b block = .error e
        | .ok _ signed => ∃ bytes, signed.toBytes = .ok bytes ∧
            Splice.attach b block = .ok bytes ∧
            (bytes.length < 2 ^ 64 → ofBytes bytes = .ok signed)) := by
  obtain ⟨env, hderives, hdescribes, hcontent⟩ := ofBytes_eq_ok_iff.mp h
  have hr := ofBytes_wellFormed h
  have hpayload := payload_of_readContent hdescribes hr hcontent
  refine ⟨?_, signable_of_derives hderives hdescribes, fun hstanding =>
    attach_agrees hderives hdescribes hr hpayload hstanding⟩
  obtain ⟨stripped, hstrip, hwritten, hread⟩ := strip_of_ofBytes h
  exact ⟨stripped, hstrip, hwritten, (toUnsignedBytes_eq r).symm.trans hwritten, hread⟩

/-- A block of zeros. -/
def zeroBlock : Block where
  keyKind := .secp256k1
  signature := List.replicate 64 0
  channelId := ⟨List.replicate 20 0, by decide⟩

/-- A blank stream, stripped and signed with zeros. -/
theorem splice_agrees_blank_stream :
    Splice.strip [0x00, 0x0a, 0x00] = .ok [0x00, 0x0a, 0x00] ∧
      Splice.signable [0x00, 0x0a, 0x00] = .ok (blank .stream).signable ∧
      Splice.attach [0x00, 0x0a, 0x00] zeroBlock =
        .ok (0x01 :: (List.replicate 84 0 ++ [0x0a, 0x00])) ∧
      ofBytes (0x01 :: (List.replicate 84 0 ++ [0x0a, 0x00])) =
        .ok { blank .stream with signature := some zeroBlock, standing := .signed } := by
  obtain ⟨⟨stripped, hstrip, -, hunsigned, -⟩, hsignable, hattach⟩ :=
    splice_agrees ofBytes_blank_stream
  obtain ⟨bytes, hbytes, hspliced, hread⟩ := hattach (by decide) zeroBlock
  -- the two byte strings of the theorem are those of the two records, evaluated once for both
  have hwritten : ∀ signature standing,
      toBytes { blank .stream with signature, standing } =
        .ok (Envelope.wrap .v2 .stream [0x0a, 0x00] signature) := by
    intro signature standing
    rw [← encode_blank_stream]
    rfl
  have hstripped := (hwritten none .unsigned).symm.trans hunsigned
  have hsigned := (hwritten (some zeroBlock) .signed).symm.trans hbytes
  cases hstripped
  cases hsigned
  exact ⟨hstrip, hsignable, hspliced, hread (by decide)⟩

/-! ## Framing a signature back in -/

/-- Framing the block of a signed claim into what is left of it without the block writes the claim
anew, if the block is let in at all. -/
theorem attach_of_describes {b stripped : Bytes} {env : Envelope} {r : Record} {block : Block}
    (h : Derives b env) (hdescribes : env.Describes r) (hr : r.WellFormed)
    (hsignature : r.signature = some block) (hstripped : Derives stripped env.unsigned) :
    Splice.attach stripped block = (block.checkFits r.generation).map fun _ => b := by
  have hsigned : env.standing = .signed := by
    rw [hdescribes.standing, ← hr.isSome_signature_iff, hsignature]
    rfl
  have hunsigned : env.unsigned.standing = .unsigned := if_pos hsigned
  -- the old claim is what wrapping its own block gives
  have hwritten : Envelope.wrap env.generation env.variant env.payload (some block) = b := by
    rw [← framed_of_derives h hdescribes, framed, hdescribes.generation, hdescribes.variant,
      hdescribes.payload, hsignature]
  rw [Splice.attach, Envelope.read_of_derives hstripped, Outcome.ok_bind, hunsigned,
    ← hdescribes.generation, ← hwritten]
  show (block.checkFits env.generation >>= fun _ =>
    pure (Envelope.wrap env.generation env.variant env.payload (some block))) = _
  cases block.checkFits env.generation with
  | error | ok => rfl

/-- Framing the block of a signed claim back into what is left when it is cut out gives the claim
again, exactly if there is a signature in the block. The reader lets in first-generation blocks
without one, and these are not framed in again. -/
theorem attach_strip_eq_ok_iff {b : Bytes} {r : Record} {block : Block} (h : ofBytes b = .ok r)
    (hsignature : r.signature = some block) :
    ∃ stripped, Splice.strip b = .ok stripped ∧
      (Splice.attach stripped block = .ok b ↔ block.signature ≠ []) ∧
      (block.signature = [] →
        r.generation = .v1 ∧ Splice.attach stripped block = .error (.badBlock .empty)) := by
  obtain ⟨env, hderives, hdescribes, -⟩ := ofBytes_eq_ok_iff.mp h
  obtain ⟨stripped, hstrip, hstripped⟩ := Splice.strip_of_derives hderives
  have hr := ofBytes_wellFormed h
  refine ⟨stripped, hstrip, ?_⟩
  rw [attach_of_describes hderives hdescribes hr hsignature hstripped]
  -- the block of a record that was read fits, with one exception
  rcases hr.checkFits hsignature with ⟨hfits, hnonempty⟩ | ⟨hgeneration, hempty⟩
  · rw [hfits]
    exact ⟨iff_of_true rfl hnonempty, fun hempty => absurd hempty hnonempty⟩
  · rw [Block.checkFits_of_eq_nil hempty]
    exact ⟨iff_of_false nofun (not_not_intro hempty), fun _ => ⟨hgeneration, rfl⟩⟩

/-- A first-generation stream in which nothing is set. -/
def blankFlat (signature : Option Block) : Record where
  generation := .v1
  standing := .ofSignature signature
  variant := .stream
  content := .legacyStream {}
  signature

/-- The bytes of such a stream without a signature. -/
def blankFlatBytes : Bytes := [
  0x08, 0x01, 0x10, 0x01, 0x1a, 0x1c, 0x08, 0x00, 0x12, 0x0e, 0x08, 0x00, 0x10, 0x00, 0x1a, 0x00,
  0x22, 0x00, 0x2a, 0x00, 0x32, 0x00, 0x38, 0x00, 0x1a, 0x08, 0x08, 0x00, 0x10, 0x00, 0x1a, 0x00,
  0x22, 0x00]

/-- It is read from these bytes, with the field of its signature behind them. -/
theorem ofBytes_blankFlat (signature : Option Block) (trailer : Bytes)
    (htrailer : trailer = match signature with
      | none => []
      | some block => writeField 5 (.delimited block.toFlat))
    (hlen : trailer.length < 2 ^ 32) :
    ofBytes (blankFlatBytes ++ trailer) = .ok (blankFlat signature) := by
  have hbody : Envelope.flatBytes 1 3 (Legacy.Stream.format.encode {}) = blankFlatBytes := by
    cbv
  have hframed : (blankFlat signature).framed = blankFlatBytes ++ trailer := by
    show Envelope.wrap .v1 .stream (Legacy.Stream.format.encode {}) signature = _
    rw [Envelope.wrap_stream, hbody]
    exact congrArg (blankFlatBytes ++ ·) htrailer.symm
  refine ofBytes_of_framed_eq (.stream {} signature) rfl hframed ?_
  rw [List.length_append, show blankFlatBytes.length = 34 from rfl]
  omega

/-- A short block is cut out of it and framed in again. -/
theorem attach_strip_blankFlat :
    ofBytes (blankFlatBytes ++ Splice.shortField) = .ok (blankFlat (some Splice.shortBlock)) ∧
      Splice.strip (blankFlatBytes ++ Splice.shortField) = .ok blankFlatBytes ∧
      Splice.attach blankFlatBytes Splice.shortBlock =
        .ok (blankFlatBytes ++ Splice.shortField) := by
  have hread := ofBytes_blankFlat (some Splice.shortBlock) Splice.shortField (by cbv) (by decide)
  obtain ⟨stripped, hstrip, hattach, -⟩ := attach_strip_eq_ok_iff hread rfl
  have hbare : Splice.strip (blankFlatBytes ++ Splice.shortField) = .ok blankFlatBytes := by cbv
  obtain rfl : stripped = blankFlatBytes := Except.ok.inj (hstrip.symm.trans hbare)
  exact ⟨hread, hstrip, hattach.mpr (List.cons_ne_nil _ _)⟩

/-- A block that holds no signature. -/
def emptyBlock : Block := { zeroBlock with signature := [] }

/-- The field that it stands in. -/
def emptyField : Bytes :=
  [0x2a, 0x1c, 0x08, 0x01, 0x10, 0x03, 0x1a, 0x00, 0x22, 0x14] ++ List.replicate 20 0

/-- A block without a signature in it is read from a claim and cut out of it, but is not framed in
again. -/
theorem attach_strip_emptyBlock :
    ofBytes (blankFlatBytes ++ emptyField) = .ok (blankFlat (some emptyBlock)) ∧
      (blankFlat (some emptyBlock)).standing = .signed ∧
      Splice.strip (blankFlatBytes ++ emptyField) = .ok blankFlatBytes ∧
      Splice.attach blankFlatBytes emptyBlock = .error (.badBlock .empty) :=
  ⟨ofBytes_blankFlat (some emptyBlock) emptyField (by cbv) (by decide), rfl, by cbv, by cbv⟩

end Record

end ChainClaim
