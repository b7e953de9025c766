import ChainClaim.Record.View

/-!
# Migration

A first-generation record as an unsigned second-generation one that can be edited. The old
signature does not cover the new bytes and is dropped.
-/

namespace ChainClaim

/-- The type of first-generation sources that are named by a stream descriptor hash. -/
def sdHashSource : Int32 := 1

namespace Legacy.Stream

/-- The stream without what every claim has. -/
def migratedStream (s : Legacy.Stream) : ChainClaim.Stream where
  source := some {
    sdHash := if s.source.sourceType = sdHashSource then s.source.source else []
    mediaType := s.source.contentType }
  author := s.metadata.author
  license := s.metadata.license
  licenseUrl := s.metadata.licenseUrl.getD ""
  fee := s.metadata.fee.map fun fee =>
    { currency := fee.currency, address := fee.address, amount := fee.baseUnits }

/-- What every claim has. Content that is not for all audiences gets the tag that says so. -/
def migratedDetails (s : Legacy.Stream) : Details where
  title := s.metadata.title
  description := s.metadata.description
  thumbnail := s.metadata.thumbnail.map Source.ofUrl
  tags := if s.metadata.nsfw then [matureTag] else []
  languages :=
    if s.metadata.language = 0 then [] else [Language.ofCode s.metadata.language]

end Legacy.Stream

/-- The second-generation copy of a record. One that is of the second generation already is its
own copy, with its signature. -/
def Record.migrate (r : Record) : Except Error Record :=
  match r.content with
  | .current _ => .ok r
  | .legacyStream s =>
    Record.ofClaim { kind := some (.stream s.migratedStream), details := s.migratedDetails }
  | .legacyCertificate c =>
    -- The second generation has no field for the kind of a key, so only one kind can move over.
    if KeyKind.ofCode? c.keyType = some .secp256k1 then
      match PublicKey.ofDer c.publicKey with
      | .error e => .error e
      | .ok _ => Record.ofClaim { kind := some (.channel { publicKey := c.publicKey }) }
    else .error (.badKey .certificateKind)

end ChainClaim
