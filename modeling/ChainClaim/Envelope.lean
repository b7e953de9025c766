import ChainClaim.Wire.Frame

/-!
# Envelopes

Before any content is read, the framing of a claim tells its generation, its variant, whether it
is signed, and where payload and signature stand:

* a flat envelope begins with the key of a varint field 1 and holds, in this order, version, claim
  type, a stream or a certificate, and for streams possibly a signature;
* a prefixed envelope is a marker, for signed claims a header of channel hash and signature, and
  a payload. The payload is a message with one variant field; the numbers 5 to 7 are kept for
  variants to come.
-/

namespace ChainClaim

/-- A stretch of a buffer: from `start` up to but not including `stop`. -/
structure Span where
  start : Nat
  stop : Nat
deriving DecidableEq, Repr

namespace Span

def slice (span : Span) (buffer : Bytes) : Bytes :=
  (buffer.take span.stop).drop span.start

/-- The bytes around a stretch. -/
def cut (span : Span) (buffer : Bytes) : Bytes :=
  buffer.take span.start ++ buffer.drop span.stop

end Span

/-- What the framing of a claim tells. -/
structure Envelope where
  generation : Generation
  standing : Standing
  variant : Variant
  payload : Bytes
  /-- The signature block as it stands in the claim. -/
  signature : Option Bytes
  /-- Where the signature block stands, its framing included. -/
  span : Option Span
deriving DecidableEq, Repr

namespace Envelope

/-- The first byte of a prefixed envelope without a signature. -/
def unsignedMarker : UInt8 := 0x00

/-- The first byte of a prefixed envelope with a signature. -/
def signedMarker : UInt8 := 0x01

/-- The first byte of a flat envelope: the key of its version field. -/
def flatMarker : UInt8 := 0x08

def channelHashLength : Nat := 20

def signatureLength : Nat := 64

/-- The length of marker, channel hash and signature. -/
def headerLength : Nat := 1 + channelHashLength + signatureLength

/-! ### Prefixed envelopes -/

/-- What the frames of a payload say of its variant: the variant they hold, and the first number
among those kept for later variants. -/
structure Signs where
  variant : Option Variant := none
  reserved : Option Nat := none

def Signs.observe (signs : Signs) (frame : Frame) : Except Error Signs :=
  match Variant.ofFieldNumber? frame.number with
  | some variant =>
    if frame.value.wireType ≠ .delimited then
      .error (.malformed frame.start .variantNotDelimited)
    else if signs.variant.isSome then .error (.malformed frame.start .variantRepeated)
    else .ok { signs with variant := some variant }
  | none =>
    if 5 ≤ frame.number ∧ frame.number < 8 ∧ signs.reserved.isNone then
      .ok { signs with reserved := some frame.number }
    else .ok signs

/-- The variant of a payload. A reserved number outweighs a variant. -/
def variantOf (frames : List Frame) : Except Error Variant := do
  let signs ← frames.foldlM Signs.observe {}
  match signs.reserved, signs.variant with
  | some tag, _ => throw (.unknownVariant tag)
  | none, none => throw (.unknownVariant 0)
  | none, some variant => return variant

/-- Reads a prefixed envelope whose payload begins at `start`. It is signed if its header has a
stretch for a signature. -/
def readPrefixed (buffer : Bytes) (start : Nat) (span : Option Span) : Except Error Envelope := do
  let frames ← Frame.readFrom buffer start
  let variant ← variantOf frames
  return {
    generation := .v2
    standing := if span.isSome then .signed else .unsigned
    variant
    payload := buffer.drop start
    signature := span.map (·.slice buffer)
    span }

/-! ### Flat envelopes -/

/-- The varint of header field `number`, which is expected to be the next frame. The buffer ends
at `stop`. -/
def headerVarint (number stop : Nat) : Option Frame → Except Error Nat
  | none => .error (.malformed stop .headerMissing)
  | some frame =>
    if frame.number = number then
      match frame.value.varint? with
      | some n => .ok n
      | none => .error (.malformed frame.start .headerNotVarint)
    else .error (.malformed frame.start .headerOrder)

/-- The body of field `number`, which is expected to be the next frame. -/
def bodyBytes (number stop : Nat) : Option Frame → Except Error Bytes
  | none => .error (.malformed stop .payloadMissing)
  | some frame =>
    if frame.number = number then
      match frame.value.delimited? with
      | some bytes => .ok bytes
      | none => .error (.malformed frame.start .bodyNotDelimited)
    else .error (.malformed frame.start .payloadMismatch)

/-- What a claim type stands for: a variant and the number of its payload field. -/
def claimType : Nat → Except Error (Variant × Nat)
  | 1 => .ok (.stream, 3)
  | 2 => .ok (.channel, 4)
  | tag => .error (.unknownVariant tag)

def signatureField : Nat := 5

/-- What follows the payload: nothing, or a signature after a stream, and no more. Gives the
standing of the claim, the signature and where it stands. -/
def flatSignature (variant : Variant) (stop : Nat) :
    List Frame → Except Error (Standing × Option Bytes × Option Span)
  | [] => .ok (if variant = .channel then .legacy else .unsigned, none, none)
  -- Too many frames are a fault before the number of the first of them is.
  | _ :: extra :: _ => .error (.malformed extra.start .afterSignature)
  | [frame] =>
    if frame.number ≠ signatureField then .error (.malformed frame.start .afterPayload)
    else if variant = .channel then .error (.malformed frame.start .certificateSigned)
    else do
      let block ← bodyBytes signatureField stop (some frame)
      return (.signed, some block, some ⟨frame.start, frame.stop⟩)

def readFlat (buffer : Bytes) : Except Error Envelope := do
  let stop := buffer.length
  -- Every frame is read before one is looked at: a break in the framing is the first fault.
  let frames ← Frame.readFrom buffer 0
  let version ← headerVarint 1 stop frames[0]?
  if version ≠ 1 then throw (.malformed 0 .flatVersion)
  let tag ← headerVarint 2 stop frames[1]?
  let (variant, field) ← claimType tag
  let payload ← bodyBytes field stop frames[2]?
  let (standing, signature, span) ← flatSignature variant stop (frames.drop 3)
  return { generation := .v1, standing, variant, payload, signature, span }

/-! ### Either layout -/

def read (buffer : Bytes) : Except Error Envelope :=
  match buffer with
  | [] => .error (.truncated 0 1)
  | marker :: _ =>
    if marker = unsignedMarker then readPrefixed buffer 1 none
    else if marker = signedMarker then
      if buffer.length < headerLength then
        .error (.truncated buffer.length (headerLength - buffer.length))
      else
        readPrefixed buffer headerLength (some ⟨1, headerLength⟩)
    else if marker = flatMarker then readFlat buffer
    else .error (.malformed 0 .marker)

end Envelope

end ChainClaim
