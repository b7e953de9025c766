import ChainClaim.Proofs.Basic
import ChainClaim.Proofs.Envelope.Grammar
import ChainClaim.Proofs.Schema.Messages
import ChainClaim.Signature

/-!
# Signature blocks and their forms

A block is read back from each of its forms, and a form that is read is the one that is written. A
header has room for one kind of key and for signatures of one length, so only some blocks come back
from theirs; these are the ones that fit into a second-generation claim.
-/

namespace ChainClaim

theorem KeyKind.code_of_ofCode? {code : Int32} {kind : KeyKind}
    (h : ofCode? code = some kind) : kind.code = code := by
  unfold ofCode? at h
  have hfound := List.find?_some h
  simpa using hfound

theorem ClaimId.bytes_of_ofBytes? {bytes : Bytes} {id : ClaimId} (h : ofBytes? bytes = some id) :
    id.bytes = bytes := by
  unfold ofBytes? at h
  split at h <;> cases h
  rfl

theorem ClaimId.claimHash_of_ofClaimHash? {hash : Bytes} {id : ClaimId}
    (h : ofClaimHash? hash = some id) : id.claimHash = hash := by
  rw [claimHash, bytes_of_ofBytes? h, List.reverse_reverse]

namespace Block

/-- A block that a header has room for. -/
structure FitsHeader (block : Block) : Prop where
  keyKind : block.keyKind = .secp256k1
  length : block.signature.length = 64

/-! ## The first-generation form -/

theorem ofFlat_toFlat {block : Block} (hlen : block.toFlat.length < 2 ^ 64) :
    ofFlat block.toFlat = .ok block := by
  have hlawful : Legacy.Signature.format.Lawful 0 := Legacy.Signature.format_lawful
  have hdecode := hlawful.decode_encode (by decide) hlen
  have hkind : KeyKind.ofCode? block.toMessage.signatureType = some block.keyKind :=
    KeyKind.ofCode?_code block.keyKind
  have hchannel : ClaimId.ofBytes? block.toMessage.certificateId = some block.channelId :=
    ClaimId.ofBytes?_bytes block.channelId
  rw [ofFlat, toFlat, hdecode]
  -- kind and channel are found, and what is left compares the message with itself
  simp only [hkind, hchannel]
  rw [if_neg (not_not_intro rfl), if_neg (show ¬block.toMessage.version ≠ messageVersion from
    not_not_intro rfl)]
  rfl

theorem toFlat_of_ofFlat {raw : Bytes} {block : Block} (h : ofFlat raw = .ok block) :
    block.toFlat = raw := by
  unfold ofFlat at h
  split at h
  · cases h
  next message hmessage =>
  split at h
  · cases h
  next hcanonical =>
  split at h
  · cases h
  next hversion =>
  split at h
  · cases h
  next kind hkind =>
  split at h
  · cases h
  next id hid =>
  cases h
  -- the checks leave no freedom: version, kind and channel of the message are those of the block
  have hback : toMessage ⟨kind, message.signature, id⟩ = message := by
    obtain ⟨version, signatureType, signature, certificateId⟩ := message
    rw [toMessage, KeyKind.code_of_ofCode? hkind, ClaimId.bytes_of_ofBytes? hid,
      ← Decidable.not_not.mp hversion]
  rw [toFlat, hback]
  exact Decidable.not_not.mp hcanonical

/-! ## The second-generation form -/

theorem length_toHeader {block : Block} (h : block.FitsHeader) : block.toHeader.length = 84 := by
  rw [toHeader, List.length_append, ClaimId.length_claimHash, h.length]

theorem ofHeader_toHeader {block : Block} (h : block.FitsHeader) :
    ofHeader block.toHeader = .ok block := by
  have hhash := block.channelId.length_claimHash
  have hlength : ¬block.toHeader.length ≠ Envelope.channelHashLength + Envelope.signatureLength :=
    not_not_intro (length_toHeader h)
  have htake : block.toHeader.take Envelope.channelHashLength = block.channelId.claimHash :=
    List.take_left' hhash
  have hdrop : block.toHeader.drop Envelope.channelHashLength = block.signature :=
    List.drop_left' hhash
  rw [ofHeader, if_neg hlength, htake, hdrop,
    ClaimId.ofClaimHash?_claimHash, ← h.keyKind]

theorem toHeader_of_ofHeader {raw : Bytes} {block : Block} (h : ofHeader raw = .ok block) :
    block.toHeader = raw ∧ block.FitsHeader := by
  unfold ofHeader at h
  split at h
  · cases h
  next hlength =>
  split at h
  · cases h
  next id hid =>
  cases h
  -- the total is checked, and with it the length of what follows the channel
  have hlen : raw.length = 20 + 64 := Decidable.not_not.mp hlength
  refine ⟨?_, rfl, ?_⟩
  · rw [toHeader, ClaimId.claimHash_of_ofClaimHash? hid, List.take_append_drop]
  · show (raw.drop 20).length = 64
    rw [List.length_drop, hlen]

/-- Any 84 bytes are the header of some block. -/
theorem exists_toHeader_eq {header : Bytes} (h : header.length = 84) :
    ∃ block : Block, block.FitsHeader ∧ block.toHeader = header := by
  have hhash : (header.take 20).reverse.length = 20 := by
    rw [List.length_reverse, List.length_take_of_le (by omega)]
  -- identifiers are stored in reading order, and a claim hash is the reverse of it
  refine ⟨⟨.secp256k1, header.drop 20, ⟨(header.take 20).reverse, hhash⟩⟩, ⟨rfl, ?_⟩, ?_⟩
  · show (header.drop 20).length = 64
    rw [List.length_drop, h]
  · show (header.take 20).reverse.reverse ++ header.drop 20 = header
    rw [List.reverse_reverse, List.take_append_drop]

/-! ## Fitting into a claim -/

theorem FitsHeader.signature_ne_nil {block : Block} (h : block.FitsHeader) :
    block.signature ≠ [] := by
  intro hempty
  have hlength := h.length
  rw [hempty] at hlength
  cases hlength

/-- A block fits into a second-generation claim exactly if a header has room for it. -/
theorem checkFits_v2_eq_ok_iff {block : Block} :
    block.checkFits .v2 = .ok () ↔ block.FitsHeader := by
  unfold checkFits
  constructor
  · intro h
    split at h
    · cases h
    split at h
    next hgeneration => cases hgeneration
    split at h
    · cases h
    next hkind =>
    split at h
    · cases h
    next hlength =>
    exact ⟨Decidable.not_not.mp hkind, Decidable.not_not.mp hlength⟩
  · rintro ⟨hkind, hlength⟩
    -- the first check is passed as well: 64 bytes are some
    have hnonempty : ¬block.signature.isEmpty := by
      simpa using FitsHeader.signature_ne_nil ⟨hkind, hlength⟩
    rw [if_neg hnonempty, if_neg (by decide), if_neg (not_not_intro hkind)]
    exact if_neg (not_not_intro hlength)

/-- A block without a signature in it fits nowhere. -/
theorem checkFits_of_eq_nil {block : Block} (h : block.signature = []) (generation : Generation) :
    block.checkFits generation = .error (.badBlock .empty) := by
  rw [checkFits, h]
  rfl

/-- A first-generation claim has room for everything else. -/
theorem checkFits_v1_of_ne_nil {block : Block} (h : block.signature ≠ []) :
    block.checkFits .v1 = .ok () := by
  rw [checkFits, if_neg (by simpa using h), if_pos rfl]

end Block

/-! ## Framing a block into a claim -/

namespace Envelope

theorem wrap_stream (payload : Bytes) (signature : Option Block) :
    wrap .v1 .stream payload signature = flatBytes 1 3 payload ++
      match signature with
      | none => []
      | some block => writeField 5 (.delimited block.toFlat) := by
  cases signature with
  | none | some => simp [wrap, flatBytes, flatFields, signatureField]

theorem wrap_certificate (payload : Bytes) :
    wrap .v1 .channel payload none = flatBytes 2 4 payload := by
  simp [wrap, flatBytes, flatFields]

theorem wrap_unsigned (v : Variant) (payload : Bytes) :
    wrap .v2 v payload none = unsignedMarker :: payload := rfl

theorem wrap_signed (v : Variant) (payload : Bytes) (block : Block) :
    wrap .v2 v payload (some block) = signedMarker :: (block.toHeader ++ payload) := rfl

end Envelope

end ChainClaim
