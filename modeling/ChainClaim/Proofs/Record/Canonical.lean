import ChainClaim.Proofs.Record.Content
import Mathlib

/-!
# Canonical messages

A payload is accepted only in the form that it is written in. For a lawful format this costs no
message: each is read back from its own form, and there is no other one that is read as it
(`readCanonical_eq_ok_iff`). All message types of both generations are of this kind
(`MessageType.format_lossless`), whatever they say of a field that is not set.
-/

namespace ChainClaim

variable {α : Type}

/-- A message is read from the bytes that it is written as, and from no others. -/
theorem Record.readCanonical_eq_ok_iff {f : Format α} {depth : Nat} (hf : f.Lawful depth)
    (hdepth : depth ≤ Format.maxNesting) (part : Part) {bytes : Bytes} (hlen : bytes.length < 2 ^ 64)
    {a : α} : readCanonical part f bytes = .ok a ↔ bytes = f.encode a := by
  constructor
  · exact fun h => (readCanonical_sound h).symm
  · rintro rfl
    exact readCanonical_encode part hf hdepth hlen

/-! ## Message types -/

/-- A format in which no message is lost: its size is reckoned right, it is read back from its bytes,
and these are the only ones that are accepted as it. Lengths are 64-bit numbers, in a message as in
memory. -/
structure Format.Lossless (f : Format α) : Prop where
  size_eq : ∀ message, f.size message = (f.encode message).length
  decode_encode : ∀ message, (f.encode message).length < 2 ^ 64 →
    f.decode (f.encode message) = some message
  accepts_iff : ∀ part bytes message, bytes.length < 2 ^ 64 →
    (Record.readCanonical part f bytes = .ok message ↔ bytes = f.encode message)

theorem Format.Lawful.lossless {f : Format α} {depth : Nat} (hf : f.Lawful depth)
    (hdepth : depth ≤ maxNesting) : f.Lossless where
  size_eq := hf.size_eq
  decode_encode _ hlen := hf.decode_encode hdepth hlen
  accepts_iff part _ _ hlen := Record.readCanonical_eq_ok_iff hf hdepth part hlen

/-- The message types of both generations. -/
inductive MessageType where
  | claim
  | stream
  | channel
  | claimReference
  | claimList
  | source
  | fee
  | language
  | location
  | image
  | video
  | audio
  | software
  | legacyStream
  | legacyMetadata
  | legacySource
  | legacyFee
  | legacyCertificate
  | legacySignature
deriving DecidableEq

namespace MessageType

def Value : MessageType → Type
  | claim => Claim
  | stream => Stream
  | channel => Channel
  | claimReference => ClaimReference
  | claimList => ClaimList
  | source => Source
  | fee => Fee
  | language => Language
  | location => Location
  | image => Image
  | video => Video
  | audio => Audio
  | software => Software
  | legacyStream => Legacy.Stream
  | legacyMetadata => Legacy.Metadata
  | legacySource => Legacy.Source
  | legacyFee => Legacy.Fee
  | legacyCertificate => Legacy.Certificate
  | legacySignature => Legacy.Signature

def format : (type : MessageType) → Format type.Value
  | claim => Claim.format
  | stream => Stream.format
  | channel => Channel.format
  | claimReference => ClaimReference.format
  | claimList => ClaimList.format
  | source => Source.format
  | fee => Fee.format
  | language => Language.format
  | location => Location.format
  | image => Image.format
  | video => Video.format
  | audio => Audio.format
  | software => Software.format
  | legacyStream => Legacy.Stream.format
  | legacyMetadata => Legacy.Metadata.format
  | legacySource => Legacy.Source.format
  | legacyFee => Legacy.Fee.format
  | legacyCertificate => Legacy.Certificate.format
  | legacySignature => Legacy.Signature.format

/-- No message nests deeper than a claim does. -/
theorem format_lawful (type : MessageType) : type.format.Lawful 3 := by
  cases type with
  | claim => exact Claim.format_lawful
  | stream => exact Stream.format_lawful
  | channel => exact Channel.format_lawful
  | claimReference => exact ClaimReference.format_lawful
  | claimList => exact ClaimList.format_lawful
  | source => exact Source.format_lawful
  | fee => exact Fee.format_lawful
  | language => exact Language.format_lawful
  | location => exact Location.format_lawful
  | image => exact Image.format_lawful
  | video => exact Video.format_lawful
  | audio => exact Audio.format_lawful
  | software => exact Software.format_lawful
  | legacyStream => exact Legacy.Stream.format_lawful
  | legacyMetadata => exact Legacy.Metadata.format_lawful
  | legacySource => exact Legacy.Source.format_lawful
  | legacyFee => exact Legacy.Fee.format_lawful
  | legacyCertificate => exact Legacy.Certificate.format_lawful
  | legacySignature => exact Legacy.Signature.format_lawful

/-- Every message of every type is read back from its bytes, its size is the length of these, and
they are the only bytes that are accepted as the message. -/
theorem format_lossless (type : MessageType) : type.format.Lossless :=
  type.format_lawful.lossless (by decide)

/-- Metadata with a language that is a negative number, and a thumbnail that is present but empty. -/
def sparseMetadata : Legacy.Metadata where
  language := -1
  thumbnail := some ""

/-- A negative number takes all ten bytes of a varint, and the empty thumbnail a field. -/
theorem format_lossless_sparseMetadata :
    Record.readCanonical .stream Legacy.Metadata.format [
      0x08, 0x00, 0x10, 0xff, 0xff, 0xff, 0xff, 0xff, 0xff, 0xff, 0xff, 0xff, 0x01, 0x1a, 0x00,
      0x22, 0x00, 0x2a, 0x00, 0x32, 0x00, 0x38, 0x00, 0x4a, 0x00] = .ok sparseMetadata := by
  -- the required fields are all there, the optional ones only if they are set
  have hencode : Legacy.Metadata.format.encode sparseMetadata = [
      0x08, 0x00, 0x10, 0xff, 0xff, 0xff, 0xff, 0xff, 0xff, 0xff, 0xff, 0xff, 0x01, 0x1a, 0x00,
      0x22, 0x00, 0x2a, 0x00, 0x32, 0x00, 0x38, 0x00, 0x4a, 0x00] := by cbv
  exact ((format_lossless .legacyMetadata).accepts_iff .stream _ sparseMetadata (by decide)).mpr
    hencode.symm

end MessageType

end ChainClaim
