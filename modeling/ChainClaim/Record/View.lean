import ChainClaim.Identifiers
import ChainClaim.Numbers
import ChainClaim.Record.Basic

/-!
# Reading records

What readers see of a record, the same for both generations. Views of the variants are given to
records of that variant only; a record of another one names both.
-/

namespace ChainClaim

def matureTag : String := "mature"

/-! ### Fees of the first generation -/

/-- How many of the smallest unit of a currency one whole unit is. A currency that is not known
counts in whole units. -/
def Currency.unitsPerWhole : Option Currency → Nat
  | some .usd => 100
  | some .lbc | some .btc => 100000000
  | _ => 1

def doublePrecision : Nat := 53

/-- The amount of a first-generation fee in the smallest unit of its currency: the product with
the scale in double precision, rounded to whole units, and cut off at the largest amount. What is
not a positive finite number counts as zero. -/
def Legacy.Fee.baseUnits (fee : Legacy.Fee) : UInt64 :=
  let x := fee.amount
  if x.isFinite && !x.isNegative then
    let scale := Currency.unitsPerWhole (Currency.ofCode? fee.currency)
    let product := Dyadic.toPrecision doublePrecision ((x.significand <<< x.shift) * scale)
    UInt64.ofNat (min (UInt64.size - 1) (Dyadic.roundHalfUp product 149))
  else 0

/-! ### Views -/

/-- A fee of either generation, in the smallest unit of its currency. -/
structure FeeView where
  currency : Currency
  baseAmount : UInt64
  rawAddress : Bytes
deriving DecidableEq

namespace FeeView

def ofCurrent (fee : Fee) : FeeView where
  currency := (Currency.ofCode? fee.currency).getD .unknown
  baseAmount := fee.amount
  rawAddress := fee.address

def ofLegacy (fee : Legacy.Fee) : FeeView where
  currency := (Currency.ofCode? fee.currency).getD .unknown
  baseAmount := fee.baseUnits
  rawAddress := fee.address

/-- The address that is paid, as it is shown on a network. -/
def address (fee : FeeView) (network : Network) : Except Error String :=
  network.addressText fee.rawAddress

end FeeView

structure StreamView where
  author : String
  license : String
  licenseUrl : Option String
  mediaType : String
  sdHash : Bytes
  releaseTime : Option Int64
  fee : Option FeeView
deriving DecidableEq

namespace StreamView

def ofCurrent (s : Stream) : StreamView where
  author := s.author
  license := s.license
  licenseUrl := if s.licenseUrl.isEmpty then none else some s.licenseUrl
  mediaType := (s.source.map (·.mediaType)).getD ""
  sdHash := (s.source.map (·.sdHash)).getD []
  releaseTime := if s.releaseTime = 0 then none else some s.releaseTime
  fee := s.fee.map .ofCurrent

def ofLegacy (s : Legacy.Stream) : StreamView where
  author := s.metadata.author
  license := s.metadata.license
  licenseUrl := s.metadata.licenseUrl
  mediaType := s.source.contentType
  sdHash := s.source.source
  releaseTime := none
  fee := s.metadata.fee.map .ofLegacy

end StreamView

structure ChannelView where
  /-- The key as it is stored. -/
  publicKey : Bytes
  keyKind : Option KeyKind
  websiteUrl : String
  email : String
  coverUrl : Option String
deriving DecidableEq

namespace ChannelView

def ofCurrent (c : Channel) : ChannelView where
  publicKey := c.publicKey
  keyKind := some .secp256k1
  websiteUrl := c.websiteUrl
  email := c.email
  coverUrl := c.cover.map (·.url)

def ofLegacy (c : Legacy.Certificate) : ChannelView where
  publicKey := c.publicKey
  keyKind := KeyKind.ofCode? c.keyType
  websiteUrl := ""
  email := ""
  coverUrl := none

/-- The stored key as a point, which only keys of secp256k1 are. -/
def decodedKey (c : ChannelView) : Except Error PublicKey :=
  if c.keyKind = some .secp256k1 then PublicKey.ofDer c.publicKey
  else .error (.badKey .channelKind)

end ChannelView

namespace Record

/-! ### What every claim has -/

def title (r : Record) : String :=
  match r.content with
  | .current claim => claim.details.title
  | .legacyStream s => s.metadata.title
  | .legacyCertificate _ => ""

def description (r : Record) : String :=
  match r.content with
  | .current claim => claim.details.description
  | .legacyStream s => s.metadata.description
  | .legacyCertificate _ => ""

def tags (r : Record) : List String :=
  match r.content with
  | .current claim => claim.details.tags
  | _ => []

/-- The languages of a claim. A first-generation stream has at most one, by the same number. -/
def languages (r : Record) : List Language :=
  match r.content with
  | .current claim => claim.details.languages
  | .legacyStream s =>
    if s.metadata.language = 0 then [] else [Language.ofCode s.metadata.language]
  | .legacyCertificate _ => []

def locations (r : Record) : List Location :=
  match r.content with
  | .current claim => claim.details.locations
  | _ => []

def thumbnail (r : Record) : Option String :=
  match r.content with
  | .current claim => claim.details.thumbnail.map (·.url)
  | .legacyStream s => s.metadata.thumbnail
  | .legacyCertificate _ => none

def isMature (r : Record) : Bool :=
  match r.content with
  | .current claim => claim.details.tags.contains matureTag
  | .legacyStream s => s.metadata.nsfw
  | .legacyCertificate _ => false

/-! ### What a variant has -/

def mismatch (r : Record) (expected : Variant) : Error :=
  .variantMismatch expected r.variant

def stream (r : Record) : Except Error StreamView :=
  match r.content with
  -- The content decides; the variant that the record keeps is only named in the error.
  | .current ⟨some (.stream s), _⟩ => .ok (.ofCurrent s)
  | .legacyStream s => .ok (.ofLegacy s)
  | _ => .error (r.mismatch .stream)

def channel (r : Record) : Except Error ChannelView :=
  match r.content with
  | .current ⟨some (.channel c), _⟩ => .ok (.ofCurrent c)
  | .legacyCertificate c => .ok (.ofLegacy c)
  | _ => .error (r.mismatch .channel)

def collection (r : Record) : Except Error ClaimList :=
  match r.content with
  | .current ⟨some (.collection l), _⟩ => .ok l
  | _ => .error (r.mismatch .collection)

def repost (r : Record) : Except Error ClaimReference :=
  match r.content with
  | .current ⟨some (.repost reference), _⟩ => .ok reference
  | _ => .error (r.mismatch .repost)

end Record

end ChainClaim
