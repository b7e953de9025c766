import ChainClaim.Schema

/-!
# First-generation claims

Streams, certificates and signatures of the first generation. A required field is written even at
the zero of its type, and whether an optional field is present is part of the value, so claims that
stand on chain are written as they were.
-/

namespace ChainClaim.Legacy

/-- A fee in whole units. -/
structure Fee where
  version : Int32 := 0
  currency : Int32 := 0
  address : Bytes := []
  amount : Binary32 := ⟨0⟩
deriving BEq

structure Metadata where
  version : Int32 := 0
  language : Int32 := 0
  title : String := ""
  description : String := ""
  author : String := ""
  license : String := ""
  nsfw : Bool := false
  fee : Option Fee := none
  thumbnail : Option String := none
  preview : Option String := none
  licenseUrl : Option String := none
deriving BEq

structure Source where
  version : Int32 := 0
  sourceType : Int32 := 0
  source : Bytes := []
  contentType : String := ""
deriving BEq

structure Stream where
  version : Int32 := 0
  metadata : Metadata := {}
  source : Source := {}
deriving BEq

/-- A channel of the first generation: a public key and its kind. -/
structure Certificate where
  version : Int32 := 0
  keyType : Int32 := 0
  publicKey : Bytes := []
deriving BEq

/-- The signature of a stream, with the claim id of the signing channel. -/
structure Signature where
  version : Int32 := 0
  signatureType : Int32 := 0
  signature : Bytes := []
  certificateId : Bytes := []
deriving BEq

def Fee.format : Format Fee :=
  let parts :=
    (Format.required 1 (.scalar .int32)).and <|
    (Format.required 2 (.scalar .int32)).and <|
    (Format.required 3 (.scalar .bytes)).and <|
    Format.required 4 (.scalar .float)
  parts.via
    (fun (version, currency, address, amount) => { version, currency, address, amount })
    (fun f => (f.version, f.currency, f.address, f.amount))

def Metadata.format : Format Metadata :=
  let parts :=
    (Format.required 1 (.scalar .int32)).and <|
    (Format.required 2 (.scalar .int32)).and <|
    (Format.required 3 (.scalar .string)).and <|
    (Format.required 4 (.scalar .string)).and <|
    (Format.required 5 (.scalar .string)).and <|
    (Format.required 6 (.scalar .string)).and <|
    (Format.required 7 (.scalar .bool)).and <|
    (Format.optional 8 (.message Fee.format)).and <|
    (Format.optional 9 (.scalar .string)).and <|
    (Format.optional 10 (.scalar .string)).and <|
    Format.optional 11 (.scalar .string)
  parts.via
    (fun (version, language, title, description, author, license, nsfw, fee, thumbnail, preview,
        licenseUrl) =>
      { version, language, title, description, author, license, nsfw, fee, thumbnail, preview,
        licenseUrl })
    (fun m => (m.version, m.language, m.title, m.description, m.author, m.license, m.nsfw, m.fee,
      m.thumbnail, m.preview, m.licenseUrl))

def Source.format : Format Source :=
  let parts :=
    (Format.required 1 (.scalar .int32)).and <|
    (Format.required 2 (.scalar .int32)).and <|
    (Format.required 3 (.scalar .bytes)).and <|
    Format.required 4 (.scalar .string)
  parts.via
    (fun (version, sourceType, source, contentType) =>
      { version, sourceType, source, contentType })
    (fun s => (s.version, s.sourceType, s.source, s.contentType))

def Stream.format : Format Stream :=
  let parts :=
    (Format.required 1 (.scalar .int32)).and <|
    (Format.required 2 (.message Metadata.format)).and <|
    Format.required 3 (.message Source.format)
  parts.via
    (fun (version, metadata, source) => { version, metadata, source })
    (fun s => (s.version, s.metadata, s.source))

/-- The key stands in the fourth field; the third is not used. -/
def Certificate.format : Format Certificate :=
  let parts :=
    (Format.required 1 (.scalar .int32)).and <|
    (Format.required 2 (.scalar .int32)).and <|
    Format.required 4 (.scalar .bytes)
  parts.via
    (fun (version, keyType, publicKey) => { version, keyType, publicKey })
    (fun c => (c.version, c.keyType, c.publicKey))

def Signature.format : Format Signature :=
  let parts :=
    (Format.required 1 (.scalar .int32)).and <|
    (Format.required 2 (.scalar .int32)).and <|
    (Format.required 3 (.scalar .bytes)).and <|
    Format.required 4 (.scalar .bytes)
  parts.via
    (fun (version, signatureType, signature, certificateId) =>
      { version, signatureType, signature, certificateId })
    (fun s => (s.version, s.signatureType, s.signature, s.certificateId))

end ChainClaim.Legacy
