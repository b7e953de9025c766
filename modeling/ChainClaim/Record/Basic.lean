import ChainClaim.Message.Claim
import ChainClaim.Message.Legacy
import ChainClaim.Signature
import ChainClaim.Text

/-!
# Records

A record is a claim of either generation in memory: what its envelope said of it, its content, and
a signature if it has one. Generation, standing and variant are kept beside the content that they
are told from; that they agree with it is an invariant of all operations on records, and not of the
type.
-/

namespace ChainClaim

/-- The content of a claim of either generation. -/
inductive Content where
  | current (claim : Claim)
  | legacyStream (stream : Legacy.Stream)
  | legacyCertificate (certificate : Legacy.Certificate)
deriving BEq

def Content.encode : Content → Bytes
  | .current claim => Claim.format.encode claim
  | .legacyStream stream => Legacy.Stream.format.encode stream
  | .legacyCertificate certificate => Legacy.Certificate.format.encode certificate

structure Record where
  generation : Generation
  standing : Standing
  variant : Variant
  content : Content
  signature : Option Block
deriving BEq

namespace Record

def isSigned (r : Record) : Bool := r.signature.isSome

/-- The claim message of a second-generation record. -/
def claim? (r : Record) : Option Claim :=
  match r.content with
  | .current claim => some claim
  | _ => none

/-! ### Making records -/

/-- The unsigned record of a claim message, which has to have content. -/
def ofClaim (claim : Claim) : Except Error Record :=
  match claim.kind with
  | none => .error (.unknownVariant 0)
  | some kind => .ok {
      generation := .v2
      standing := .unsigned
      variant := kind.variant
      content := .current claim
      signature := none }

def blankKind : Variant → Kind
  | .stream => .stream {}
  | .channel => .channel {}
  | .collection => .collection {}
  | .repost => .repost {}

/-- An unsigned record with nothing but its variant. -/
def blank (variant : Variant) : Record where
  generation := .v2
  standing := .unsigned
  variant := (blankKind variant).variant
  content := .current { kind := some (blankKind variant) }
  signature := none

end Record

end ChainClaim

/-!
## Records and bytes

`ofBytes` reads a claim and `toBytes` writes one. Payloads and first-generation signature blocks
are accepted only in the form that they are written in, so a record that is read and not changed
is written as the bytes it was read from.
-/

namespace ChainClaim.Record

/-- A message of a format, read from the very bytes that it is written as. -/
def readCanonical {α : Type} (part : Part) (format : Format α) (bytes : Bytes) :
    Except Error α :=
  match format.decode bytes with
  | none => .error (.schema part .undecodable)
  | some message =>
    -- Padded numbers, unknown fields and fields out of order are read, and told by the difference.
    if format.size message ≠ bytes.length ∨ format.encode message ≠ bytes then
      .error (.schema part .nonCanonical)
    else .ok message

/-- The key of a second-generation channel has to be a point of the curve, if there is one. -/
def checkKey (claim : Claim) : Except Error Unit :=
  match claim.kind with
  | some (.channel c) =>
    if c.publicKey.isEmpty then .ok () else (PublicKey.ofDer c.publicKey).map fun _ => ()
  | _ => .ok ()

def readCurrent (payload : Bytes) : Except Error Content := do
  let claim ← readCanonical .claim Claim.format payload
  checkKey claim
  return .current claim

/-- Reads a first-generation certificate. Keys of other kinds than secp256k1 are kept as they
are. -/
def readCertificate (payload : Bytes) : Except Error Content := do
  let certificate ← readCanonical .certificate Legacy.Certificate.format payload
  if KeyKind.ofCode? certificate.keyType = some .secp256k1 then
    let _ ← PublicKey.ofDer certificate.publicKey
  return .legacyCertificate certificate

def readContent (envelope : Envelope) : Except Error Content :=
  match envelope.generation, envelope.variant with
  | .v2, _ => readCurrent envelope.payload
  | .v1, .stream =>
    (readCanonical .stream Legacy.Stream.format envelope.payload).map .legacyStream
  | .v1, .channel => readCertificate envelope.payload
  | .v1, _ => .error (.malformed 0 .variantNotFlat)

def readSignature (envelope : Envelope) : Except Error (Option Block) :=
  match envelope.signature with
  | none => .ok none
  | some raw => (Block.read envelope.generation raw).map some

/-- Reads a claim: envelope, payload, signature. -/
def ofBytes (bytes : Bytes) : Except Error Record := do
  let envelope ← Envelope.read bytes
  -- Faults of the payload come before those of the signature, wherever they stand.
  let content ← readContent envelope
  let signature ← readSignature envelope
  return {
    generation := envelope.generation
    standing := envelope.standing
    variant := envelope.variant
    content
    signature }

/-- Reads a claim from its hexadecimal form, which may stand between blanks. -/
def ofHex (text : String) : Except Error Record :=
  match Hex.decode (Text.trimBlank text) with
  | .error fault => .error (.badHex fault)
  | .ok bytes => ofBytes bytes

/-- The payload of a record, unless it is one that would not be read. -/
def payload (r : Record) : Except Error Bytes :=
  match r.content with
  | .current claim => (checkKey claim).map fun _ => r.content.encode
  | _ => .ok r.content.encode

def toBytes (r : Record) : Except Error Bytes := do
  let payload ← r.payload
  return Envelope.wrap r.generation r.variant payload r.signature

def toUnsignedBytes (r : Record) : Except Error Bytes := do
  let payload ← r.payload
  return Envelope.wrap r.generation r.variant payload none

def toHex (r : Record) : Except Error String :=
  r.toBytes.map Hex.encode

/-- The bytes that a signature of a record covers: for the first generation the whole unsigned
claim, for the second the payload. -/
def signable (r : Record) : Bytes :=
  match r.generation with
  | .v1 => Envelope.wrap .v1 r.variant r.content.encode none
  | .v2 => r.content.encode

end ChainClaim.Record
