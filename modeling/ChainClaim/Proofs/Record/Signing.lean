import ChainClaim.Proofs.Curve
import ChainClaim.Proofs.Record.SignedMessage

/-!
# Signing and verifying

What is signed verifies, at the other end of a wire, too: the signer hashes a record that has no
block of this signature yet, and the verifier hashes one that was read with the block in it. They
hash one message because a signature does not cover itself (`SameClaim.signedMessage_eq`).

Of the curve nothing is proved here. That it does its part for a key and a digest is the assumption
`SigningKey.Serves`, made for the one digest that is signed.
-/

namespace ChainClaim

open Record

/-- The digest can be signed with the key, and the public key accepts what is made of it. -/
def SigningKey.Serves (key : SigningKey) (digest : Bytes) : Prop :=
  ∃ g, Ecdsa.sign? key digest = some g ∧ Ecdsa.verify key.publicKey digest g.lowS = true

instance (key : SigningKey) (digest : Bytes) : Decidable (key.Serves digest) :=
  decidable_of_iff ((Ecdsa.sign? key digest).any fun g =>
    Ecdsa.verify key.publicKey digest g.lowS) (Option.any_eq_true _ _)

/-- The block that is made of a signature. -/
def Ecdsa.block (g : Ecdsa) (channelId : ClaimId) : Block :=
  ⟨.secp256k1, g.lowS.toBytes, channelId⟩

theorem Ecdsa.block_fitsHeader (g : Ecdsa) (channelId : ClaimId) :
    (g.block channelId).FitsHeader := ⟨rfl, g.lowS.length_toBytes⟩

theorem Block.FitsHeader.checkFits {block : Block} (h : block.FitsHeader)
    (generation : Generation) : block.checkFits generation = .ok () := by
  cases generation with
  | v1 => exact Block.checkFits_v1_of_ne_nil h.signature_ne_nil
  | v2 => exact Block.checkFits_v2_eq_ok_iff.mpr h

namespace Record

/-! ## Digests -/

/-- A signature does not cover itself, nor any that it replaces. -/
theorem SameClaim.signedMessage_eq {r left : Record} (h : SameClaim r left) (channelId : ClaimId)
    (binding : Binding) :
    left.signedMessage channelId binding = r.signedMessage channelId binding := by
  dsimp only [signedMessage]
  rw [h.signable_eq, h.generation]

theorem SameClaim.digest_eq {r left : Record} (h : SameClaim r left) (channelId : ClaimId)
    (binding : Binding) : left.digest channelId binding = r.digest channelId binding := by
  rw [digest, digest, h.signedMessage_eq]

theorem exists_digest {r : Record} {binding : Binding} (h : binding.Fits r.generation)
    (channelId : ClaimId) : ∃ digest, r.digest channelId binding = .ok digest := by
  rw [digest, signedMessage_eq_ok_iff.mpr ⟨h, rfl⟩]
  exact ⟨_, rfl⟩

/-! ## Signing and verifying one record -/

variable {r : Record} {key : SigningKey} {channelId : ClaimId} {binding : Binding} {d : Bytes}
  {g : Ecdsa}

/-- Hashing and signing read the record, what is left to do is to attach the block. -/
theorem run_sign (hdigest : r.digest channelId binding = .ok d)
    (hsign : Ecdsa.sign? key d = some g) :
    (sign key channelId binding).run r = (attach (g.block channelId)).run r := by
  simp [sign, hdigest, hsign, MonadExcept.ofExcept, Ecdsa.block]

/-- Signing puts the block of a signature in place of any other. -/
theorem run_sign_eq_ok (hstanding : r.standing ≠ .legacy)
    (hdigest : r.digest channelId binding = .ok d) (hsign : Ecdsa.sign? key d = some g) :
    (sign key channelId binding).run r =
      .ok () { r with signature := some (g.block channelId), standing := .signed } := by
  rw [run_sign hdigest hsign, run_attach, if_neg hstanding,
    (g.block_fitsHeader channelId).checkFits]

/-- A record that is signed has been given the block of a signature of its digest, and nothing else
has changed. -/
theorem exists_of_run_sign {signed : Record}
    (h : (sign key channelId binding).run r = .ok () signed) :
    ∃ g : Ecdsa, signed = { r with signature := some (g.block channelId), standing := .signed } := by
  cases hdigest : r.digest channelId binding with
  | error e =>
    simp [sign, hdigest, MonadExcept.ofExcept] at h
    cases h
  | ok d =>
    cases hsign : Ecdsa.sign? key d with
    | none => simp [sign, hdigest, hsign, MonadExcept.ofExcept] at h
    | some g =>
      rw [run_sign hdigest hsign, run_attach] at h
      split at h
      · cases h
      -- a block that was just made fits, so the check is no way to fail
      · rw [(g.block_fitsHeader channelId).checkFits] at h
        cases h
        exact ⟨g, rfl⟩

/-- A verdict rests on what the block is read as and taken to in low form. The digest is made
whatever the block is read as. -/
theorem verify_eq {point : PublicKey} {bytes : Bytes}
    (hsignature : r.signature = some ⟨.secp256k1, bytes, channelId⟩)
    (hbytes : Ecdsa.ofBytes? bytes = some g) :
    r.verify point binding = (do
      let d ← r.digest channelId binding
      if Ecdsa.verify point d g.lowS then return () else throw .signatureMismatch) := by
  rw [verify, hsignature]
  simp only [hbytes, ne_eq, not_true_eq_false, if_false]

/-- The block of a signature is taken apart into the signature again, which is in low form
already. -/
theorem verify_block {point : PublicKey} (hsignature : r.signature = some (g.block channelId))
    (hdigest : r.digest channelId binding = .ok d)
    (hverify : Ecdsa.verify point d g.lowS = true) : r.verify point binding = .ok () := by
  rw [verify_eq hsignature g.lowS.ofBytes?_toBytes, hdigest, Outcome.ok_bind, Ecdsa.lowS_lowS,
    if_pos hverify]
  rfl

/-! ## Channels -/

/-- Setting the key of a channel leaves its wire form in the channel. -/
theorem setPublicKey_eq_ok {channel keyed : Record} {point : PublicKey}
    (h : (setPublicKey point).run channel = .ok () keyed) :
    ∃ c details, c.publicKey = point.toDer ∧
      keyed.content = .current ⟨some (.channel c), details⟩ := by
  obtain ⟨generation, standing, variant, content, signature⟩ := channel
  cases content with
  | legacyStream | legacyCertificate => cases h
  | current claim =>
    obtain ⟨kind, details⟩ := claim
    cases kind with
    | none => cases h
    | some kind =>
      cases kind with
      | channel c =>
        cases h
        exact ⟨{ c with publicKey := point.toDer }, details, rfl, rfl⟩
      | stream | collection | repost => cases h

theorem verifyAgainst_eq {channel : Record} {point : PublicKey} {c : Channel} {details : Details}
    (hkey : c.publicKey = point.toDer)
    (hcontent : channel.content = .current ⟨some (.channel c), details⟩) (r : Record)
    (binding : Binding) : r.verifyAgainst channel binding = r.verify point binding := by
  have hchannel : channel.channel = .ok (.ofCurrent c) := by rw [Record.channel, hcontent]
  have hdecoded : (ChannelView.ofCurrent c).decodedKey = .ok point := by
    have hkind : (ChannelView.ofCurrent c).keyKind = some .secp256k1 := rfl
    rw [ChannelView.decodedKey, if_pos hkind]
    exact (congrArg PublicKey.ofDer hkey).trans point.ofDer_toDer
  rw [verifyAgainst, hchannel, Outcome.ok_bind, hdecoded, Outcome.ok_bind]

/-! ## Sending -/

/-- A key that was set is read back, so it keeps no channel from being sent. -/
theorem payload_of_setPublicKey {channel : Record} {point : PublicKey} {c : Channel}
    {details : Details} (hkey : c.publicKey = point.toDer)
    (hcontent : channel.content = .current ⟨some (.channel c), details⟩) :
    channel.payload = .ok channel.content.encode := by
  cases hpayload : channel.payload with
  | ok p => rw [(payload_eq_ok hpayload).1]
  -- what could be refused is the key, and it is one that was written out
  | error e =>
    obtain ⟨other, _, hother, -, herror⟩ := payload_eq_error_iff.mp hpayload
    cases hcontent.symm.trans hother
    rw [hkey, point.ofDer_toDer] at herror
    cases herror

end Record

/-- A record that can be signed and written is signed, sent and verified: against the public key of
the signer, and against any channel that was given this key and sent, too. It does not matter
whether the record was signed before. -/
theorem Reachable.sign_readsBack_verify {r : Record} (hr : Reachable r)
    (hstanding : r.standing ≠ .legacy) {bytes : Bytes} (hwritten : r.toBytes = .ok bytes)
    (key : SigningKey) (channelId : ClaimId) {binding : Binding}
    (hbinding : binding.Fits r.generation)
    (hserves : ∀ digest, r.digest channelId binding = .ok digest → key.Serves digest) :
    ∃ block signed,
      (Record.sign key channelId binding).run r = .ok () signed ∧
      signed = { r with signature := some block, standing := .signed } ∧
      block.FitsHeader ∧ block.channelId = channelId ∧
      signed.ReadsBack ∧ signed.verify key.publicKey binding = .ok () ∧
      ∀ channel keyed, Reachable channel →
        (setPublicKey key.publicKey).run channel = .ok () keyed →
        keyed.ReadsBack ∧ signed.verifyAgainst keyed binding = .ok () := by
  obtain ⟨digest, hdigest⟩ := exists_digest hbinding channelId
  obtain ⟨g, hsign, hverify⟩ := hserves digest hdigest
  -- the signed record is named, so that no step below looks into it
  obtain ⟨signed, hsigned⟩ : ∃ signed : Record,
      signed = { r with signature := some (g.block channelId), standing := .signed } := ⟨_, rfl⟩
  have hrun := run_sign_eq_ok hstanding hdigest hsign
  rw [← hsigned] at hrun
  have hsame : SameClaim r signed := by
    rw [hsigned]
    exact ⟨rfl, rfl, rfl⟩
  -- the verifier hashes what the signer hashed
  have hverified : signed.verify key.publicKey binding = .ok () := by
    refine verify_block ?_ ((hsame.digest_eq channelId binding).trans hdigest) hverify
    rw [hsigned]
  refine ⟨g.block channelId, signed, hrun, hsigned, g.block_fitsHeader channelId, rfl, ?_,
    hverified, fun channel keyed hchannel hkeyed => ?_⟩
  · -- what is covered does not change, so the payload is written as before
    rw [toBytes_eq] at hwritten
    obtain ⟨p, hpayload, -⟩ := Outcome.map_eq_ok.mp hwritten
    have hsent : signed.payload = .ok p := by
      rw [Record.payload, hsame.content]
      exact hpayload
    exact (hr.wellFormed_of_run (.sign key channelId binding) hrun).readsBack hsent
  · -- any channel will do, since all that is asked of it is the key that was just set
    obtain ⟨c, details, hkey, hcontent⟩ := setPublicKey_eq_ok hkeyed
    refine ⟨?_, (verifyAgainst_eq hkey hcontent signed binding).trans hverified⟩
    exact (hchannel.wellFormed_of_run (.setPublicKey key.publicKey) hkeyed).readsBack
      (payload_of_setPublicKey hkey hcontent)

/-- The smallest key. -/
def unitKey : SigningKey := ⟨1, by decide, by decide⟩

/-- The digest of a blank stream for an outpoint and a channel of zeros. -/
def blankDigest : Bytes := [
  0x96, 0x65, 0x56, 0xd7, 0x40, 0x42, 0xb8, 0xc2, 0xcc, 0xac, 0x00, 0x49, 0xae, 0xb5, 0x0b, 0x11,
  0xdc, 0x68, 0xfa, 0x7c, 0x40, 0x03, 0x5a, 0x6b, 0x02, 0x64, 0x5c, 0xa3, 0xe8, 0xc8, 0x78, 0x49]

theorem digest_blank_stream :
    (blank .stream).digest zeroBlock.channelId (zeroInput 36) = .ok blankDigest := by
  rw [digest, signedMessage_eq_ok_iff.mpr ⟨.firstInput _, rfl⟩, signable_blank_stream]
  decide +kernel

theorem unitKey_serves : unitKey.Serves blankDigest := by
  decide +kernel

/-- A blank stream is signed with the smallest key, sent, and verified against a channel that has
nothing but this key. -/
theorem sign_readsBack_verify_blank :
    ∃ signed keyed bytes,
      (Record.sign unitKey zeroBlock.channelId (zeroInput 36)).run (blank .stream) = .ok () signed ∧
      (setPublicKey unitKey.publicKey).run (blank .channel) = .ok () keyed ∧
      signed.toBytes = .ok bytes ∧ bytes.length = 87 ∧ ofBytes bytes = .ok signed ∧
      signed.verify unitKey.publicKey (zeroInput 36) = .ok () ∧
      signed.verifyAgainst keyed (zeroInput 36) = .ok () := by
  have hserves : ∀ digest, (blank .stream).digest zeroBlock.channelId (zeroInput 36) = .ok digest →
      unitKey.Serves digest := by
    intro digest hdigest
    rw [digest_blank_stream] at hdigest
    cases hdigest
    exact unitKey_serves
  obtain ⟨block, signed, hrun, rfl, hfits, -, ⟨bytes, hbytes, hread⟩, hverify, hchannels⟩ :=
    (Reachable.blank .stream).sign_readsBack_verify nofun rfl unitKey zeroBlock.channelId
      (.firstInput _) hserves
  have hkeyed : ∃ keyed, (setPublicKey unitKey.publicKey).run (blank .channel) = .ok () keyed :=
    ⟨_, rfl⟩
  obtain ⟨keyed, hkeyed⟩ := hkeyed
  -- the length does not depend on which signature was made
  have hlength : bytes.length = 87 := by
    have hframed : bytes = 0x01 :: (block.toHeader ++ (blank .stream).content.encode) :=
      (Except.ok.inj hbytes).symm
    rw [hframed, encode_blank_stream, List.length_cons, List.length_append,
      Block.length_toHeader hfits]
    rfl
  exact ⟨_, keyed, bytes, hrun, hkeyed, hbytes, hlength, hread (by rw [hlength]; decide), hverify,
    (hchannels _ keyed (.blank .channel) hkeyed).2⟩

/-!
## Signatures and their twins

If a pair of scalars belongs to a key and a digest then so does the pair with the second half
negated: whoever has seen one signature can write down the other. Signing makes the one of the two
whose second half is at most half the order. Stored claims carry either, so verifying takes each
pair to that one first, and its verdict never tells twins apart (`Record.sign_low_verify_twin`).
-/

open Secp256k1

/-- The block of two scalars, each written in 32 bytes. -/
def Block.ofScalars (a b : Nat) (channelId : ClaimId) : Block :=
  ⟨.secp256k1, Bytes.ofNat 32 a ++ Bytes.ofNat 32 b, channelId⟩

theorem Ecdsa.block_eq_ofScalars (g : Ecdsa) (channelId : ClaimId) :
    g.block channelId = .ofScalars g.lowS.r g.lowS.s channelId := rfl

namespace Record

variable {r : Record} {a b : Nat} {channelId : ClaimId}

/-- Scalars in range are read from their block. -/
theorem verify_ofScalars (hsignature : r.signature = some (.ofScalars a b channelId))
    (ha : 0 < a ∧ a < order) (hb : 0 < b ∧ b < order) (key : PublicKey) (binding : Binding) :
    r.verify key binding = (do
      let d ← r.digest channelId binding
      let g : Ecdsa := ⟨a, b, ha.1, ha.2, hb.1, hb.2⟩
      if Ecdsa.verify key d g.lowS then return () else throw .signatureMismatch) :=
  verify_eq hsignature (Ecdsa.ofBytes?_toBytes ⟨a, b, ha.1, ha.2, hb.1, hb.2⟩)

/-- Signing leaves two scalars in range of which the second is at most half the order. Verifying
answers for a pair of scalars in range as it does for the pair with the second one negated, with the
same error where it fails: for every record, key and binding. -/
theorem sign_low_verify_twin :
    (∀ (r signed : Record) (key : SigningKey) (channelId : ClaimId) (binding : Binding),
      (sign key channelId binding).run r = .ok () signed →
      ∃ a b, (0 < a ∧ a < order) ∧ (0 < b ∧ b ≤ order / 2) ∧
        signed.signature = some (.ofScalars a b channelId)) ∧
    (∀ (r : Record) (a b : Nat) (channelId : ClaimId),
      r.signature = some (.ofScalars a b channelId) → 0 < a ∧ a < order → 0 < b ∧ b < order →
      ∀ (key : PublicKey) (binding : Binding),
        verify { r with signature := some (.ofScalars a (order - b) channelId) } key binding =
          r.verify key binding) := by
  constructor
  · intro r signed key channelId binding hrun
    obtain ⟨g, rfl⟩ := exists_of_run_sign hrun
    exact ⟨g.lowS.r, g.lowS.s, ⟨g.lowS.r_pos, g.lowS.r_lt⟩, ⟨g.lowS.s_pos, g.lowS_s_le⟩,
      congrArg some (g.block_eq_ofScalars channelId)⟩
  · intro r a b channelId hsignature ha hb key binding
    have hnegated : 0 < order - b ∧ order - b < order := by omega
    -- a block is no part of what is hashed, so the twins are checked for one digest
    have hsame : SameClaim r
        { r with signature := some (.ofScalars a (order - b) channelId) } := ⟨rfl, rfl, rfl⟩
    -- and both come to the same pair before they are checked
    have hlow : (⟨a, order - b, ha.1, ha.2, hnegated.1, hnegated.2⟩ : Ecdsa).lowS =
        (⟨a, b, ha.1, ha.2, hb.1, hb.2⟩ : Ecdsa).lowS :=
      Ecdsa.lowS_twin ⟨a, b, ha.1, ha.2, hb.1, hb.2⟩
    rw [verify_ofScalars hsignature ha hb, verify_ofScalars rfl ha hnegated, hsame.digest_eq]
    simp only [hlow]

/-- A blank stream that is signed with the smallest key verifies with either twin. -/
theorem sign_low_verify_twin_blank :
    ∃ signed a b,
      (sign unitKey zeroBlock.channelId (zeroInput 36)).run (blank .stream) = .ok () signed ∧
      signed.signature = some (.ofScalars a b zeroBlock.channelId) ∧ b ≤ order / 2 ∧
      signed.verify unitKey.publicKey (zeroInput 36) = .ok () ∧
      verify { signed with signature := some (.ofScalars a (order - b) zeroBlock.channelId) }
        unitKey.publicKey (zeroInput 36) = .ok () := by
  obtain ⟨hsigns, htwins⟩ := sign_low_verify_twin
  obtain ⟨g, hsign, hverify⟩ := unitKey_serves
  obtain ⟨signed, hsigned⟩ : ∃ signed : Record, signed = { blank .stream with
    signature := some (g.block zeroBlock.channelId), standing := .signed } := ⟨_, rfl⟩
  have hrun : (sign unitKey zeroBlock.channelId (zeroInput 36)).run (blank .stream) =
      .ok () signed := by
    rw [hsigned]
    exact run_sign_eq_ok nofun digest_blank_stream hsign
  have hverified : signed.verify unitKey.publicKey (zeroInput 36) = .ok () := by
    rw [hsigned]
    exact verify_block rfl digest_blank_stream hverify
  obtain ⟨a, b, ha, hb, hsignature⟩ := hsigns _ _ _ _ _ hrun
  have hlt : b < order := Nat.lt_of_le_of_lt hb.2 (by decide)
  refine ⟨signed, a, b, hrun, hsignature, hb.2, hverified, ?_⟩
  exact (htwins signed a b _ hsignature ha ⟨hb.1, hlt⟩ _ _).trans hverified

end Record

end ChainClaim
