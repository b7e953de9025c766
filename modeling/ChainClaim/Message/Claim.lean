import ChainClaim.Schema

/-!
# Second-generation claims

The claim message: one of four kinds of content, and what every claim may have besides. Fields at
the zero of their type are not written, so equal claims have equal bytes.
-/

/-!
## Languages and places

The labels by which any claim can be found: languages by their number in the schema's table, and
places with coordinates in units of 1e-7 degrees.
-/

namespace ChainClaim

/-- A language, optionally with its script and region. -/
structure Language where
  language : Int32 := 0
  script : Int32 := 0
  region : Int32 := 0
deriving DecidableEq

structure Location where
  country : Int32 := 0
  state : String := ""
  city : String := ""
  code : String := ""
  latitude : Int32 := 0
  longitude : Int32 := 0
deriving DecidableEq

/-- A language without script and region. -/
def Language.ofCode (language : Int32) : Language := { language }

def Language.format : Format Language :=
  let parts :=
    (Format.implicit 1 .int32).and <|
    (Format.implicit 2 .int32).and <|
    Format.implicit 3 .int32
  parts.via
    (fun (language, script, region) => { language, script, region })
    (fun l => (l.language, l.script, l.region))

def Location.format : Format Location :=
  let parts :=
    (Format.implicit 1 .int32).and <|
    (Format.implicit 2 .string).and <|
    (Format.implicit 3 .string).and <|
    (Format.implicit 4 .string).and <|
    (Format.implicit 5 .sint32).and <|
    Format.implicit 6 .sint32
  parts.via
    (fun (country, state, city, code, latitude, longitude) =>
      { country, state, city, code, latitude, longitude })
    (fun l => (l.country, l.state, l.city, l.code, l.latitude, l.longitude))

/-!
## Content and its media

Where the bytes of some content are found, and what a stream says of the medium it is in.
-/

/-- Where content, or an image, is found. -/
structure Source where
  hash : Bytes := []
  name : String := ""
  size : UInt64 := 0
  mediaType : String := ""
  url : String := ""
  sdHash : Bytes := []
  btInfohash : Bytes := []
deriving DecidableEq

structure Image where
  width : UInt32 := 0
  height : UInt32 := 0
deriving DecidableEq

structure Audio where
  duration : UInt32 := 0
deriving DecidableEq

structure Video where
  width : UInt32 := 0
  height : UInt32 := 0
  duration : UInt32 := 0
  audio : Option Audio := none
deriving DecidableEq

structure Software where
  os : String := ""
deriving DecidableEq

inductive Media where
  | image (image : Image)
  | video (video : Video)
  | audio (audio : Audio)
  | software (software : Software)
deriving DecidableEq

/-- A source of which only the place in the web is known, as for thumbnails and covers. -/
def Source.ofUrl (url : String) : Source := { url }

def Source.format : Format Source :=
  let parts :=
    (Format.implicit 1 .bytes).and <|
    (Format.implicit 2 .string).and <|
    (Format.implicit 3 .uint64).and <|
    (Format.implicit 4 .string).and <|
    (Format.implicit 5 .string).and <|
    (Format.implicit 6 .bytes).and <|
    Format.implicit 7 .bytes
  parts.via
    (fun (hash, name, size, mediaType, url, sdHash, btInfohash) =>
      { hash, name, size, mediaType, url, sdHash, btInfohash })
    (fun s => (s.hash, s.name, s.size, s.mediaType, s.url, s.sdHash, s.btInfohash))

def Image.format : Format Image :=
  ((Format.implicit 1 .uint32).and (Format.implicit 2 .uint32)).via
    (fun (width, height) => { width, height })
    (fun i => (i.width, i.height))

def Audio.format : Format Audio :=
  (Format.implicit 1 .uint32).via (fun duration => { duration }) (·.duration)

def Video.format : Format Video :=
  let parts :=
    (Format.implicit 1 .uint32).and <|
    (Format.implicit 2 .uint32).and <|
    (Format.implicit 3 .uint32).and <|
    Format.optional 15 (.message Audio.format)
  parts.via
    (fun (width, height, duration, audio) => { width, height, duration, audio })
    (fun v => (v.width, v.height, v.duration, v.audio))

def Software.format : Format Software :=
  (Format.implicit 1 .string).via (fun os => { os }) (·.os)

def Media.format : Format (Option Media) :=
  .choice [
    .of 10 (.message Image.format) .image fun | .image i => some i | _ => none,
    .of 11 (.message Video.format) .video fun | .video v => some v | _ => none,
    .of 12 (.message Audio.format) .audio fun | .audio a => some a | _ => none,
    .of 13 (.message Software.format) .software fun | .software s => some s | _ => none]

/-! ## The claim message -/

inductive Currency where
  | unknown
  | lbc
  | btc
  | usd
deriving DecidableEq, Repr

namespace Currency

def code : Currency → Int32
  | .unknown => 0
  | .lbc => 1
  | .btc => 2
  | .usd => 3

def ofCode? (code : Int32) : Option Currency :=
  [unknown, lbc, btc, usd].find? (·.code = code)

def name : Currency → String
  | .unknown => "UnknownCurrency"
  | .lbc => "Lbc"
  | .btc => "Btc"
  | .usd => "Usd"

end Currency

/-- What the members of a claim list have in common. -/
inductive ListType where
  | collection
  | derivation
deriving DecidableEq, Repr

namespace ListType

def code : ListType → Int32
  | .collection => 0
  | .derivation => 2

def ofCode? (code : Int32) : Option ListType :=
  [collection, derivation].find? (·.code = code)

def name : ListType → String
  | .collection => "Collection"
  | .derivation => "Derivation"

end ListType

/-- What a stream costs, in the smallest unit of the currency. -/
structure Fee where
  currency : Int32 := 0
  address : Bytes := []
  amount : UInt64 := 0
deriving DecidableEq

structure Stream where
  source : Option Source := none
  author : String := ""
  license : String := ""
  licenseUrl : String := ""
  /-- Seconds since 1970, zero if not said. -/
  releaseTime : Int64 := 0
  fee : Option Fee := none
  media : Option Media := none
deriving DecidableEq

/-- A claim by its hash on chain. -/
structure ClaimReference where
  claimHash : Bytes := []
deriving DecidableEq

structure ClaimList where
  listType : Int32 := 0
  claimReferences : List ClaimReference := []
deriving DecidableEq

/-- An identity that publishes and signs. -/
structure Channel where
  publicKey : Bytes := []
  email : String := ""
  websiteUrl : String := ""
  cover : Option Source := none
  featured : Option ClaimList := none
deriving DecidableEq

inductive Kind where
  | stream (stream : Stream)
  | channel (channel : Channel)
  | collection (list : ClaimList)
  | repost (reference : ClaimReference)
deriving DecidableEq

/-- What a claim of any kind may say of itself. -/
structure Details where
  title : String := ""
  description : String := ""
  thumbnail : Option Source := none
  tags : List String := []
  languages : List Language := []
  locations : List Location := []
deriving DecidableEq

/-- The claim message. A message without content is read but stands for no claim. -/
structure Claim where
  kind : Option Kind := none
  details : Details := {}
deriving DecidableEq

def Kind.variant : Kind → Variant
  | .stream _ => .stream
  | .channel _ => .channel
  | .collection _ => .collection
  | .repost _ => .repost

def Fee.format : Format Fee :=
  let parts :=
    (Format.implicit 1 .int32).and <|
    (Format.implicit 2 .bytes).and <|
    Format.implicit 3 .uint64
  parts.via
    (fun (currency, address, amount) => { currency, address, amount })
    (fun f => (f.currency, f.address, f.amount))

def Stream.format : Format Stream :=
  let parts :=
    (Format.optional 1 (.message Source.format)).and <|
    (Format.implicit 2 .string).and <|
    (Format.implicit 3 .string).and <|
    (Format.implicit 4 .string).and <|
    (Format.implicit 5 .int64).and <|
    (Format.optional 6 (.message Fee.format)).and <|
    Media.format
  parts.via
    (fun (source, author, license, licenseUrl, releaseTime, fee, media) =>
      { source, author, license, licenseUrl, releaseTime, fee, media })
    (fun s => (s.source, s.author, s.license, s.licenseUrl, s.releaseTime, s.fee, s.media))

def ClaimReference.format : Format ClaimReference :=
  (Format.implicit 1 .bytes).via (fun claimHash => { claimHash }) (·.claimHash)

def ClaimList.format : Format ClaimList :=
  ((Format.implicit 1 .int32).and
    (Format.repeated 2 (.message ClaimReference.format))).via
    (fun (listType, claimReferences) => { listType, claimReferences })
    (fun l => (l.listType, l.claimReferences))

def Channel.format : Format Channel :=
  let parts :=
    (Format.implicit 1 .bytes).and <|
    (Format.implicit 2 .string).and <|
    (Format.implicit 3 .string).and <|
    (Format.optional 4 (.message Source.format)).and <|
    Format.optional 5 (.message ClaimList.format)
  parts.via
    (fun (publicKey, email, websiteUrl, cover, featured) =>
      { publicKey, email, websiteUrl, cover, featured })
    (fun c => (c.publicKey, c.email, c.websiteUrl, c.cover, c.featured))

/-- The choice of content, under the field numbers of the variants. -/
def Kind.format : Format (Option Kind) :=
  .choice [
    .of 1 (.message Stream.format) .stream fun | .stream s => some s | _ => none,
    .of 2 (.message Channel.format) .channel fun | .channel c => some c | _ => none,
    .of 3 (.message ClaimList.format) .collection fun | .collection l => some l | _ => none,
    .of 4 (.message ClaimReference.format) .repost fun | .repost r => some r | _ => none]

def Details.format : Format Details :=
  let parts :=
    (Format.implicit 8 .string).and <|
    (Format.implicit 9 .string).and <|
    (Format.optional 10 (.message Source.format)).and <|
    (Format.repeated 11 (.scalar .string)).and <|
    (Format.repeated 12 (.message Language.format)).and <|
    Format.repeated 13 (.message Location.format)
  parts.via
    (fun (title, description, thumbnail, tags, languages, locations) =>
      { title, description, thumbnail, tags, languages, locations })
    (fun d => (d.title, d.description, d.thumbnail, d.tags, d.languages, d.locations))

def Claim.format : Format Claim :=
  (Kind.format.and Details.format).via
    (fun (kind, details) => { kind, details })
    (fun c => (c.kind, c.details))

end ChainClaim
