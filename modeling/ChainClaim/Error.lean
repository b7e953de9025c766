import ChainClaim.Encodings
import ChainClaim.Kinds

/-!
# What can go wrong with a claim

Every failure of the library is a value that names its cause; the wording is given in one place,
`Error.message`. Offsets count bytes from the start of the claim. Only a truncated claim can be
mended by more input (`Error.isRetryable`).
-/

namespace ChainClaim

/-- Ways in which bytes are framed as no writer would frame them. -/
inductive Malformation where
  | varintOverflow
  | varintNotMinimal
  | varintTooLong
  | fieldNumber
  | wireType
  | marker
  | variantNotDelimited
  | variantRepeated
  | flatVersion
  | headerOrder
  | headerNotVarint
  | headerMissing
  | bodyNotDelimited
  | payloadMismatch
  | payloadMissing
  | afterSignature
  | afterPayload
  | certificateSigned
  | variantNotFlat
deriving DecidableEq, Repr

def Malformation.message : Malformation → String
  | .varintOverflow => "varint overflows 64 bits"
  | .varintNotMinimal => "non-minimal varint"
  | .varintTooLong => "varint longer than 10 bytes"
  | .fieldNumber => "invalid field number"
  | .wireType => "unsupported wire type"
  | .marker => "unrecognized envelope marker"
  | .variantNotDelimited => "variant field is not length-delimited"
  | .variantRepeated => "more than one variant field"
  | .flatVersion => "unsupported flat envelope version"
  | .headerOrder => "envelope fields out of order"
  | .headerNotVarint => "envelope header field is not a varint"
  | .headerMissing => "missing envelope header field"
  | .bodyNotDelimited => "envelope body field is not length-delimited"
  | .payloadMismatch => "payload field does not match claim type"
  | .payloadMissing => "missing payload field"
  | .afterSignature => "unexpected field after signature"
  | .afterPayload => "unexpected field after payload"
  | .certificateSigned => "legacy certificates cannot carry a signature"
  | .variantNotFlat => "variant cannot appear in a flat envelope"

/-- Why bytes are no usable channel key. -/
inductive KeyFault where
  | wrongLength (length : Nat)
  | wrongHeader
  | offCurve
  /-- The channel names another kind of key. -/
  | channelKind
  /-- The certificate names another kind of key and cannot be migrated. -/
  | certificateKind
deriving DecidableEq, Repr

/-- The length of a channel key in its wire form. -/
def keyLength : Nat := 88

def KeyFault.message : KeyFault → String
  | .wrongLength length =>
    "expected " ++ toString keyLength ++ " bytes, got " ++ toString length
  | .wrongHeader => "not a secp256k1 SubjectPublicKeyInfo"
  | .offCurve => "point is not on the curve"
  | .channelKind => "channel key is not secp256k1"
  | .certificateKind => "only secp256k1 certificates can be upgraded"

inductive Part where
  | claim
  | stream
  | certificate
  | signature
deriving DecidableEq, Repr

def Part.name : Part → String
  | .claim => "claim"
  | .stream => "stream"
  | .certificate => "certificate"
  | .signature => "signature"

/-- Why a part is refused by its schema. -/
inductive PayloadFault where
  | undecodable
  | nonCanonical
  | blockVersion
  | blockKeyKind
  | blockChannel
deriving DecidableEq, Repr

def PayloadFault.message : PayloadFault → String
  | .undecodable => "payload does not decode"
  | .nonCanonical => "payload is not canonically encoded"
  | .blockVersion => "unsupported signature message version"
  | .blockKeyKind => "unknown signature type"
  | .blockChannel => "certificate id is not 20 bytes"

inductive EditTarget where
  | title
  | description
  | tags
  | languages
  | locations
  | thumbnail
  | payload
  | variant (v : Variant)
  | signature
deriving DecidableEq, Repr

def EditTarget.name : EditTarget → String
  | .title => "title"
  | .description => "description"
  | .tags => "tags"
  | .languages => "languages"
  | .locations => "locations"
  | .thumbnail => "thumbnail"
  | .payload => "payload"
  | .variant v => v.name
  | .signature => "signature"

/-- Why a signature block cannot be read, framed, made or checked. -/
inductive BlockFault where
  | headerLength
  | empty
  | keyKind
  | length
  | alreadySigned
  | binding
  | signingFailed
  | notSigned
  | unverifiable
  | notPair
deriving DecidableEq, Repr

def BlockFault.message : BlockFault → String
  | .headerLength => "signature header has the wrong length"
  | .empty => "signature is empty"
  | .keyKind => "second-generation claims only carry secp256k1 signatures"
  | .length => "second-generation signatures are 64 bytes"
  | .alreadySigned => "claim is already signed"
  | .binding => "binding does not match the claim generation"
  | .signingFailed => "signing failed"
  | .notSigned => "claim is not signed"
  | .unverifiable => "only secp256k1 signatures can be verified"
  | .notPair => "signature is not a valid r || s pair"

/-- Why bytes or a text are no address of a network. -/
inductive AddressFault where
  | wrongLength (length : Nat)
  | foreignLead (lead : UInt8) (network : Network)
  | checksum
  | notBase58 (cause : Base58.Error)
deriving DecidableEq, Repr

/-- The length of a raw address: lead byte, hash, checksum. -/
def addressLength : Nat := 25

def AddressFault.message : AddressFault → String
  | .wrongLength length =>
    "expected " ++ toString addressLength ++ " bytes, got " ++ toString length
  | .foreignLead lead network =>
    "prefix 0x" ++ Hex.encode [lead] ++ " does not belong to " ++ network.name
  | .checksum => "checksum mismatch"
  | .notBase58 cause => cause.message

/-- Every way in which an operation on a claim fails. -/
inductive Error where
  /-- Framing that no writer produces, at a byte. -/
  | malformed (offset : Nat) (what : Malformation)
  /-- The claim ends at a byte, and at least so many more are needed. -/
  | truncated (offset needed : Nat)
  /-- A claim type that is not known, zero if there is none. -/
  | unknownVariant (tag : Nat)
  | badKey (fault : KeyFault)
  | schema (part : Part) (fault : PayloadFault)
  /-- The operation is for another variant than the record's. -/
  | variantMismatch (expected actual : Variant)
  /-- First-generation content is not edited. -/
  | readOnly (target : EditTarget)
  | badBlock (fault : BlockFault)
  | signatureMismatch
  | badHex (fault : Hex.Error)
  | badAddress (fault : AddressFault)
deriving DecidableEq, Repr

namespace Error

def message : Error → String
  | .malformed offset what =>
    "malformed envelope at byte " ++ toString offset ++ ": " ++ what.message
  | .truncated offset needed =>
    "truncated input at byte " ++ toString offset ++ ": " ++ toString needed ++
      " more byte(s) required"
  | .unknownVariant tag => "unknown claim variant tag " ++ toString tag
  | .badKey fault => "invalid public key encoding: " ++ fault.message
  | .schema part fault => "schema rejected " ++ part.name ++ ": " ++ fault.message
  | .variantMismatch expected actual =>
    "variant mismatch: operation needs a " ++ expected.name ++ " claim, record is a " ++
      actual.name ++ " claim"
  | .readOnly target => "legacy claims are read-only: cannot modify " ++ target.name
  | .badBlock fault => "invalid signature block: " ++ fault.message
  | .signatureMismatch => "signature does not verify against the channel key"
  | .badHex fault => "invalid hex: " ++ fault.message
  | .badAddress fault => "invalid address: " ++ fault.message

/-- The errors beneath an error, outermost first, where it has a cause of its own wording. -/
def causes : Error → List String
  | .schema _ fault => [fault.message]
  | .badHex fault => [fault.message]
  | _ => []

/-- Whether more input can turn the failure into a success. -/
def isRetryable : Error → Bool
  | .truncated _ _ => true
  | _ => false

end Error

end ChainClaim
