import ChainClaim.Envelope
import ChainClaim.Identifiers
import ChainClaim.Message.Legacy

/-!
# Signature blocks

A signature over a claim with the kind of its key and the channel that made it. In a
first-generation claim it is a message of its own; in a second-generation claim it is the header,
which has room for one kind of key only.
-/

namespace ChainClaim

structure Block where
  keyKind : KeyKind
  /-- The two halves of the signature, one after the other. -/
  signature : Bytes
  channelId : ClaimId
deriving DecidableEq

namespace Block

def messageVersion : Int32 := 1

def toMessage (block : Block) : Legacy.Signature where
  version := messageVersion
  signatureType := block.keyKind.code
  signature := block.signature
  certificateId := block.channelId.bytes

def toFlat (block : Block) : Bytes :=
  Legacy.Signature.format.encode block.toMessage

/-- Reads the first-generation form. It has to be the form that is written. -/
def ofFlat (raw : Bytes) : Except Error Block :=
  match Legacy.Signature.format.decode raw with
  | none => .error (.schema .signature .undecodable)
  | some message =>
    -- Whatever it says, a block in another form is refused for its form.
    if Legacy.Signature.format.encode message ≠ raw then
      .error (.schema .signature .nonCanonical)
    else if message.version ≠ messageVersion then .error (.schema .signature .blockVersion)
    else
      match KeyKind.ofCode? message.signatureType with
      | none => .error (.schema .signature .blockKeyKind)
      | some keyKind =>
        match ClaimId.ofBytes? message.certificateId with
        | none => .error (.schema .signature .blockChannel)
        | some channelId => .ok ⟨keyKind, message.signature, channelId⟩

/-- The second-generation form: channel hash and signature. -/
def toHeader (block : Block) : Bytes :=
  block.channelId.claimHash ++ block.signature

def ofHeader (raw : Bytes) : Except Error Block :=
  if raw.length ≠ Envelope.channelHashLength + Envelope.signatureLength then
    .error (.badBlock .headerLength)
  else
    match ClaimId.ofClaimHash? (raw.take Envelope.channelHashLength) with
    | none => .error (.badBlock .headerLength)
    | some channelId => .ok ⟨.secp256k1, raw.drop Envelope.channelHashLength, channelId⟩

def read : Generation → Bytes → Except Error Block
  | .v1 => ofFlat
  | .v2 => ofHeader

/-- Whether a block can be framed into a claim of a generation. -/
def checkFits (block : Block) (generation : Generation) : Except Error Unit :=
  -- This comes first for both generations.
  if block.signature.isEmpty then .error (.badBlock .empty)
  else if generation = .v1 then .ok ()
  else if block.keyKind ≠ .secp256k1 then .error (.badBlock .keyKind)
  else if block.signature.length ≠ Envelope.signatureLength then .error (.badBlock .length)
  else .ok ()

end Block

namespace Envelope

/-- The bytes of a claim: a payload in the envelope of its generation, with a signature or
without. Flat envelopes know streams and certificates only. -/
def wrap (generation : Generation) (variant : Variant) (payload : Bytes)
    (signature : Option Block) : Bytes :=
  match generation with
  | .v1 =>
    let (type, field) : Nat × Nat := if variant = .channel then (2, 4) else (1, 3)
    let trailer : Bytes :=
      match signature with
      | none => []
      | some block => writeField signatureField (.delimited block.toFlat)
    writeField 1 (.varint 1) ++ writeField 2 (.varint type) ++
      writeField field (.delimited payload) ++ trailer
  | .v2 =>
    match signature with
    | none => unsignedMarker :: payload
    | some block => signedMarker :: (block.toHeader ++ payload)

end Envelope

end ChainClaim

/-!
## Splicing signatures

On the bytes of a claim: a signature is cut out, a new one is framed in, and the bytes that it
covers are told. The payload is copied and not read, so what was signed stays as it was, whatever
its schema says of it.
-/

namespace ChainClaim.Splice

/-- The claim without its signature. A claim without one comes back as it is. -/
def strip (buffer : Bytes) : Except Error Bytes := do
  let envelope ← Envelope.read buffer
  match envelope.span with
  | none => return buffer
  | some span =>
    match envelope.generation with
    | .v1 => return span.cut buffer
    -- The marker stands before the cut, and has to say that there is no signature any more.
    | .v2 => return Envelope.unsignedMarker :: (span.cut buffer).tail

/-- Frames `block` into an unsigned claim. -/
def attach (buffer : Bytes) (block : Block) : Except Error Bytes := do
  let envelope ← Envelope.read buffer
  match envelope.standing with
  | .signed => throw (.badBlock .alreadySigned)
  | .legacy => throw (.readOnly .signature)
  | .unsigned =>
    block.checkFits envelope.generation
    return Envelope.wrap envelope.generation envelope.variant envelope.payload (some block)

/-- The bytes that a signature covers: for the first generation the whole unsigned claim, for the
second the payload. -/
def signable (buffer : Bytes) : Except Error Bytes := do
  let envelope ← Envelope.read buffer
  match envelope.generation with
  | .v1 =>
    match envelope.span with
    | none => return buffer
    | some span => return buffer.take span.start
  | .v2 => return envelope.payload

end ChainClaim.Splice
