import ChainClaim.Proofs.Record.WellFormed
import Mathlib

/-!
# Records and their bytes

Reading keeps none of the bytes of a claim, and writing makes all of them anew: envelope, lengths,
payload and signature. Still a record that is read is written as the bytes it was read from, and a
well-formed record is read back from the bytes it is written as (`ofBytes_framed`).

Both directions go through the envelope: `env.Describes r` says that an envelope tells of a record
what the record holds, and the bytes of the record are the one form that derives such an envelope.
-/

namespace ChainClaim

open Envelope (Derives)

/-! ## What an envelope tells of a record

Generation, standing and variant are copied from the envelope; payload and signature are read, and
are told of a record if they are its content and its signature in their written form. -/

/-- An envelope that tells of a record what the record holds. -/
structure Envelope.Describes (env : Envelope) (r : Record) : Prop where
  generation : env.generation = r.generation
  standing : env.standing = r.standing
  variant : env.variant = r.variant
  payload : env.payload = r.content.encode
  signature : Record.readSignature env = .ok r.signature

namespace Record

theorem readSignature_eq_ok {env : Envelope} {raw : Bytes} {signature : Option Block}
    (h : env.signature = some raw) (hread : readSignature env = .ok signature) :
    ∃ block, Block.read env.generation raw = .ok block ∧ signature = some block := by
  rw [readSignature, h] at hread
  obtain ⟨block, hblock, hsome⟩ := Outcome.map_eq_ok.mp hread
  exact ⟨block, hblock, hsome.symm⟩

/-! ## From bytes to a record -/

/-- What is read of a claim makes a well-formed record whose payload is that of the envelope. One
case for each production. -/
theorem wellFormed_of_derives {b : Bytes} {env : Envelope} {content : Content}
    {signature : Option Block} (hderives : Derives b env)
    (hcontent : readContent env = .ok content) (hsignature : readSignature env = .ok signature) :
    WellFormed ⟨env.generation, env.standing, env.variant, content, signature⟩ ∧
      content.encode = env.payload := by
  cases hderives with
  | unsigned v fields hfields =>
    obtain ⟨claim, rfl, hencode, -⟩ := readCurrent_sound hcontent
    -- the variant is told by the framing, and the content of that message is of this variant
    obtain ⟨kind, hkind, rfl⟩ := Claim.kind_of_isPayload hfields hencode
    cases hsignature
    exact ⟨.current claim kind none hkind nofun, hencode⟩
  | signed v header fields _ hfields =>
    obtain ⟨claim, rfl, hencode, -⟩ := readCurrent_sound hcontent
    obtain ⟨kind, hkind, rfl⟩ := Claim.kind_of_isPayload hfields hencode
    obtain ⟨block, hblock, rfl⟩ := readSignature_eq_ok rfl hsignature
    -- of a header only the length is told by the framing; that it fits comes from the block
    have hfits := (Block.toHeader_of_ofHeader hblock).2
    exact ⟨.current claim kind (some block) hkind fun _ h => Option.some.inj h ▸ hfits, hencode⟩
  | flatStream body _ =>
    obtain ⟨stream, hstream, rfl⟩ := Outcome.map_eq_ok.mp hcontent
    cases hsignature
    exact ⟨.stream stream none, readCanonical_sound hstream⟩
  | flatSigned body raw _ _ =>
    obtain ⟨stream, hstream, rfl⟩ := Outcome.map_eq_ok.mp hcontent
    obtain ⟨block, -, rfl⟩ := readSignature_eq_ok rfl hsignature
    exact ⟨.stream stream (some block), readCanonical_sound hstream⟩
  | flatCertificate body _ =>
    obtain ⟨certificate, rfl, hencode, hvalid⟩ := readCertificate_sound hcontent
    cases hsignature
    exact ⟨.certificate certificate hvalid, hencode⟩

/-- Claims are read by their envelopes: a record is read exactly from the bytes of an envelope that
describes it and whose payload is read as its content. -/
theorem ofBytes_eq_ok_iff {b : Bytes} {r : Record} :
    ofBytes b = .ok r ↔
      ∃ env, Derives b env ∧ env.Describes r ∧ readContent env = .ok r.content := by
  constructor
  · intro h
    -- the three steps of the reader: envelope, content, signature
    obtain ⟨env, henv, h⟩ := Outcome.bind_eq_ok.mp h
    obtain ⟨content, hcontent, h⟩ := Outcome.bind_eq_ok.mp h
    obtain ⟨signature, hsignature, h⟩ := Outcome.bind_eq_ok.mp h
    cases h
    have hderives := Envelope.read_sound henv
    have hpayload := (wellFormed_of_derives hderives hcontent hsignature).2
    exact ⟨env, hderives, ⟨rfl, rfl, rfl, hpayload.symm, hsignature⟩, hcontent⟩
  · rintro ⟨env, henv, ⟨hgeneration, hstanding, hvariant, -, hsignature⟩, hcontent⟩
    rw [ofBytes, Envelope.read_of_derives henv, Outcome.ok_bind, hcontent, Outcome.ok_bind,
      hsignature, Outcome.ok_bind, hgeneration, hstanding, hvariant]
    rfl

theorem ofBytes_wellFormed {b : Bytes} {r : Record} (h : ofBytes b = .ok r) : r.WellFormed := by
  obtain ⟨env, hderives, hdescribes, hcontent⟩ := ofBytes_eq_ok_iff.mp h
  have hr := (wellFormed_of_derives hderives hcontent hdescribes.signature).1
  rw [hdescribes.generation, hdescribes.standing, hdescribes.variant] at hr
  exact hr

/-! ## From a record to bytes -/

/-- The bytes of a record, whatever its key is. -/
def framed (r : Record) : Bytes :=
  Envelope.wrap r.generation r.variant r.content.encode r.signature

/-- A record of a second-generation channel whose key is not empty and fails to be one, with the
error that says why. -/
def RefusesKey (r : Record) (e : Error) : Prop :=
  ∃ channel details, r.content = .current ⟨some (.channel channel), details⟩ ∧
    channel.publicKey ≠ [] ∧ PublicKey.ofDer channel.publicKey = .error e

theorem checkKey_eq_error_iff {claim : Claim} {e : Error} :
    checkKey claim = .error e ↔ ∃ channel, claim.kind = some (.channel channel) ∧
      channel.publicKey ≠ [] ∧ PublicKey.ofDer channel.publicKey = .error e := by
  unfold checkKey
  split
  next channel hkind =>
    cases hempty : channel.publicKey.isEmpty with
    | true =>
      -- a channel without a key passes, and no key is refused there
      refine ⟨nofun, ?_⟩
      rintro ⟨other, hother, hne, -⟩
      rw [hkind] at hother
      cases hother
      exact absurd (List.isEmpty_iff.mp hempty) hne
    | false =>
      have hne : channel.publicKey ≠ [] := fun h => by rw [h] at hempty; cases hempty
      simp only [Bool.false_eq_true, if_false]
      rw [Outcome.map_eq_error]
      constructor
      · exact fun hkey => ⟨channel, hkind, hne, hkey⟩
      · rintro ⟨other, hother, -, hkey⟩
        rw [hkind] at hother
        cases hother
        exact hkey
  next hother =>
    refine ⟨nofun, ?_⟩
    rintro ⟨channel, hkind, -⟩
    exact absurd hkind (hother channel)

/-- Writing a payload fails exactly for a key that would not be read. -/
theorem payload_eq_error_iff {r : Record} {e : Error} :
    r.payload = .error e ↔ r.RefusesKey e := by
  obtain ⟨generation, standing, variant, content, signature⟩ := r
  cases content with
  | current claim =>
    show (checkKey claim).map _ = .error e ↔ _
    rw [Outcome.map_eq_error, checkKey_eq_error_iff]
    constructor
    · rintro ⟨channel, hkind, hkey⟩
      exact ⟨channel, claim.details, by rw [← hkind], hkey⟩
    · rintro ⟨channel, details, hcontent, hkey⟩
      cases hcontent
      exact ⟨channel, rfl, hkey⟩
  | legacyStream | legacyCertificate =>
    -- the key of a certificate was checked when it was read, and is not checked again
    refine ⟨nofun, ?_⟩
    rintro ⟨channel, details, hcontent, -⟩
    cases hcontent

theorem payload_eq_ok {r : Record} {p : Bytes} (h : r.payload = .ok p) :
    p = r.content.encode ∧ ∀ claim, r.content = .current claim → checkKey claim = .ok () := by
  unfold payload at h
  split at h
  next claim hclaim =>
    obtain ⟨⟨⟩, hkey, rfl⟩ := Outcome.map_eq_ok.mp h
    refine ⟨rfl, fun other hother => ?_⟩
    cases hclaim.symm.trans hother
    exact hkey
  next hother =>
    cases h
    exact ⟨rfl, fun claim hclaim => absurd hclaim (hother claim)⟩

theorem toBytes_eq (r : Record) : r.toBytes = r.payload.map fun _ => r.framed := by
  unfold toBytes
  cases h : r.payload with
  | error e => rfl
  | ok p =>
    obtain ⟨rfl, -⟩ := payload_eq_ok h
    rfl

theorem toBytes_eq_error_iff {r : Record} {e : Error} :
    r.toBytes = .error e ↔ r.RefusesKey e := by
  rw [toBytes_eq, Outcome.map_eq_error, payload_eq_error_iff]

/-! ## The two round trips -/

/-- The bytes that derive an envelope are those of the record that it describes. One case for each
production. -/
theorem framed_of_derives {b : Bytes} {env : Envelope} {r : Record} (hderives : Derives b env)
    (hdescribes : env.Describes r) : r.framed = b := by
  obtain ⟨generation, standing, variant, content, signature⟩ := r
  obtain ⟨hgeneration, -, hvariant, hpayload, hsignature⟩ := hdescribes
  cases hderives with
  | unsigned v fields _ =>
    cases hgeneration
    cases hsignature
    show Envelope.unsignedMarker :: content.encode = _
    rw [← hpayload]
    rfl
  | signed v header fields _ _ =>
    cases hgeneration
    obtain ⟨block, hblock, rfl⟩ := readSignature_eq_ok rfl hsignature
    -- the block is written as the header that it was read from
    show Envelope.signedMarker :: (block.toHeader ++ content.encode) = _
    rw [(Block.toHeader_of_ofHeader hblock).1, ← hpayload]
    rfl
  | flatStream body _ =>
    cases hgeneration
    cases hvariant
    cases hsignature
    rw [framed, Envelope.wrap_stream, ← hpayload]
    exact List.append_nil _
  | flatSigned body raw _ _ =>
    cases hgeneration
    cases hvariant
    obtain ⟨block, hblock, rfl⟩ := readSignature_eq_ok rfl hsignature
    rw [framed, Envelope.wrap_stream, ← hpayload, ← Block.toFlat_of_ofFlat hblock]
  | flatCertificate body _ =>
    cases hgeneration
    cases hvariant
    cases hsignature
    rw [framed, Envelope.wrap_certificate, ← hpayload]

theorem length_encode_le_framed (r : Record) : r.content.encode.length ≤ r.framed.length := by
  obtain ⟨generation, standing, variant, content, signature⟩ := r
  cases generation with
  | v1 =>
    -- the payload is the value of the third field, whatever follows it
    simp only [framed, Envelope.wrap, List.length_append, writeField, FieldValue.write]
    omega
  | v2 =>
    cases signature with
    | none => exact Nat.le_succ _
    | some block =>
      rw [framed, Envelope.wrap_signed, List.length_cons, List.length_append]
      omega

/-- A well-formed record has an envelope that describes it and is derived by its bytes. -/
theorem WellFormed.exists_describes {r : Record} (hr : r.WellFormed)
    (hlen : r.framed.length < 2 ^ 64) : ∃ env, Derives r.framed env ∧ env.Describes r := by
  have hencode : r.content.encode.length < 2 ^ 64 :=
    Nat.lt_of_le_of_lt (length_encode_le_framed r) hlen
  cases hr with
  | current claim kind signature hkind hsignature =>
    have hfields := Claim.isPayload hkind hencode
    cases signature with
    | none => exact ⟨_, .unsigned kind.variant _ hfields, rfl, rfl, rfl, rfl, rfl⟩
    | some block =>
      have hfits := hsignature block rfl
      have hread : (Block.ofHeader block.toHeader).map some = .ok (some block) := by
        rw [Block.ofHeader_toHeader hfits]
        rfl
      exact ⟨_, .signed kind.variant _ _ (Block.length_toHeader hfits) hfields, rfl, rfl, rfl, rfl,
        hread⟩
  | stream s signature =>
    rw [framed, Envelope.wrap_stream] at hlen ⊢
    cases signature with
    | none =>
      rw [List.append_nil]
      exact ⟨_, .flatStream _ hencode, rfl, rfl, rfl, rfl, rfl⟩
    | some block =>
      -- the block is a part of the claim, so its length can be written, too
      have hblock : (FieldValue.delimited block.toFlat).Fits := FieldValue.fits_of_writeField hlen
      have hread : (Block.ofFlat block.toFlat).map some = .ok (some block) := by
        rw [Block.ofFlat_toFlat hblock]
        rfl
      exact ⟨_, .flatSigned _ _ hencode hblock, rfl, rfl, rfl, rfl, hread⟩
  | certificate c hkey =>
    rw [framed, Envelope.wrap_certificate]
    exact ⟨_, .flatCertificate _ hencode, rfl, rfl, rfl, rfl, rfl⟩

/-- The content of a record is read back from its payload, unless its key is refused. -/
theorem readContent_of_describes {r : Record} (hr : r.WellFormed) {p : Bytes}
    (hpayload : r.payload = .ok p) (hlen : r.content.encode.length < 2 ^ 64) {env : Envelope}
    (hdescribes : env.Describes r) : readContent env = .ok r.content := by
  obtain ⟨-, hkeys⟩ := payload_eq_ok hpayload
  obtain ⟨hgeneration, -, hvariant, henv, -⟩ := hdescribes
  cases hr with
  | current claim kind signature _ _ =>
    -- here, and in no other case, something is asked of the key
    rw [readContent, hgeneration, henv]
    exact readCurrent_encode (hkeys claim rfl) hlen
  | stream s signature =>
    have hlawful : Legacy.Stream.format.Lawful 2 := Legacy.Stream.format_lawful
    rw [readContent, hgeneration, hvariant, henv]
    show (readCanonical .stream Legacy.Stream.format (Legacy.Stream.format.encode s)).map _ = _
    rw [readCanonical_encode .stream hlawful (by decide) hlen]
    rfl
  | certificate c hkey =>
    rw [readContent, hgeneration, hvariant, henv]
    exact readCertificate_encode hkey hlen

/-- A well-formed record is read back from its bytes, unless its key is refused. -/
theorem ofBytes_framed {r : Record} (hr : r.WellFormed) {p : Bytes} (hpayload : r.payload = .ok p)
    (hlen : r.framed.length < 2 ^ 64) : ofBytes r.framed = .ok r := by
  obtain ⟨env, hderives, hdescribes⟩ := hr.exists_describes hlen
  have hcontent := readContent_of_describes hr hpayload
    (Nat.lt_of_le_of_lt (length_encode_le_framed r) hlen) hdescribes
  -- framing is read by the grammar, content by its format
  exact ofBytes_eq_ok_iff.mpr ⟨env, hderives, hdescribes, hcontent⟩

/-- Bytes that a well-formed record is framed as are read as this record, unless its key is
refused. -/
theorem ofBytes_of_framed_eq {r : Record} (hr : r.WellFormed) {p b : Bytes}
    (hpayload : r.payload = .ok p) (hframed : r.framed = b) (hlen : b.length < 2 ^ 64) :
    ofBytes b = .ok r := by
  rw [← hframed] at hlen ⊢
  exact ofBytes_framed hr hpayload hlen

/-- A record that is written, and that is what is read from the bytes it is written as. Lengths are
64-bit numbers, in a claim as in memory. -/
def ReadsBack (r : Record) : Prop :=
  ∃ b, r.toBytes = .ok b ∧ (b.length < 2 ^ 64 → ofBytes b = .ok r)

theorem WellFormed.readsBack {r : Record} (hr : r.WellFormed) {p : Bytes}
    (hpayload : r.payload = .ok p) : r.ReadsBack := by
  refine ⟨r.framed, ?_, ofBytes_framed hr hpayload⟩
  rw [toBytes_eq, hpayload]
  rfl

theorem WellFormed.ofBytes_of_toBytes {r : Record} (hr : r.WellFormed) {b : Bytes}
    (h : r.toBytes = .ok b) (hlen : b.length < 2 ^ 64) : ofBytes b = .ok r := by
  rw [toBytes_eq] at h
  obtain ⟨p, hpayload, rfl⟩ := Outcome.map_eq_ok.mp h
  exact ofBytes_framed hr hpayload hlen

/-- The unsigned record of a claim that was never written. -/
def fresh (kind : Kind) (details : Details) : Record where
  generation := .v2
  standing := .unsigned
  variant := kind.variant
  content := .current { kind := some kind, details }
  signature := none

theorem fresh_wellFormed (kind : Kind) (details : Details) : (fresh kind details).WellFormed :=
  .current _ kind none rfl nofun

theorem fresh_readsBack {kind : Kind} {details : Details}
    (hkey : checkKey { kind := some kind, details } = .ok ()) : (fresh kind details).ReadsBack := by
  have hpayload : (fresh kind details).payload = .ok (fresh kind details).content.encode := by
    show (checkKey { kind := some kind, details }).map _ = _
    rw [hkey]
    rfl
  exact (fresh_wellFormed kind details).readsBack hpayload

theorem checkKey_channel {channel : Channel} {key : PublicKey}
    (h : PublicKey.ofDer channel.publicKey = .ok key) (details : Details) :
    checkKey { kind := some (.channel channel), details } = .ok () := by
  unfold checkKey
  show (if channel.publicKey.isEmpty then Except.ok ()
    else (PublicKey.ofDer channel.publicKey).map fun _ => ()) = .ok ()
  rw [h]
  cases channel.publicKey.isEmpty with
  | true | false => rfl

/-- A key that was read is not refused. -/
theorem payload_of_readContent {env : Envelope} {r : Record} (hdescribes : env.Describes r)
    (hr : r.WellFormed) (hcontent : readContent env = .ok r.content) :
    r.payload = .ok r.content.encode := by
  cases hr with
  | current claim kind signature _ _ =>
    rw [readContent, hdescribes.generation] at hcontent
    obtain ⟨other, hother, -, hkey⟩ := readCurrent_sound hcontent
    cases hother
    show (checkKey claim).map _ = _
    rw [hkey]
    rfl
  | stream | certificate => rfl

/-- A record that an envelope describes is written as the bytes that derive the envelope, unless its
key is refused. -/
theorem toBytes_of_describes {b : Bytes} {env : Envelope} {r : Record} {p : Bytes}
    (hderives : Derives b env) (hdescribes : env.Describes r) (hpayload : r.payload = .ok p) :
    r.toBytes = .ok b := by
  rw [toBytes_eq, hpayload, framed_of_derives hderives hdescribes]
  rfl

theorem toBytes_eq_of_ofBytes {b : Bytes} {r : Record} (h : ofBytes b = .ok r) :
    r.toBytes = .ok b := by
  obtain ⟨env, hderives, hdescribes, hcontent⟩ := ofBytes_eq_ok_iff.mp h
  exact toBytes_of_describes hderives hdescribes
    (payload_of_readContent hdescribes (ofBytes_wellFormed h) hcontent)

/-- A record that is read is written as the bytes it was read from, so claims that are read as one
record are one claim. Records are the same here if all their bits are, those of numbers included. -/
theorem toBytes_of_ofBytes {b : Bytes} {r : Record} (h : ofBytes b = .ok r) :
    r.toBytes = .ok b ∧ ∀ other, ofBytes other = .ok r → other = b := by
  have hwritten := toBytes_eq_of_ofBytes h
  refine ⟨hwritten, fun other hother => ?_⟩
  -- a record is written in one way, and each of the two claims is that way
  exact Except.ok.inj ((toBytes_eq_of_ofBytes hother).symm.trans hwritten)

/-- A first-generation stream with a price and a source, signed. -/
def signedLegacyStream : Record where
  generation := .v1
  standing := .signed
  variant := .stream
  content := .legacyStream {
    metadata := {
      language := 1
      title := "Life"
      nsfw := true
      fee := some { currency := 1, address := [0x55, 0x01], amount := ⟨0x3f800000⟩ }
      licenseUrl := some "" }
    source := { sourceType := 1, source := [0xab, 0xcd], contentType := "image/gif" } }
  signature := some {
    keyKind := .secp256k1
    signature := List.replicate 64 0x5a
    channelId := ⟨List.replicate 20 0x11, by decide⟩ }

def signedLegacyBytes : Bytes := [
  0x08, 0x01, 0x10, 0x01, 0x1a, 0x3c, 0x08, 0x00, 0x12, 0x23, 0x08, 0x00, 0x10, 0x01, 0x1a, 0x04,
  0x4c, 0x69, 0x66, 0x65, 0x22, 0x00, 0x2a, 0x00, 0x32, 0x00, 0x38, 0x01, 0x42, 0x0d, 0x08, 0x00,
  0x10, 0x01, 0x1a, 0x02, 0x55, 0x01, 0x25, 0x00, 0x00, 0x80, 0x3f, 0x5a, 0x00, 0x1a, 0x13, 0x08,
  0x00, 0x10, 0x01, 0x1a, 0x02, 0xab, 0xcd, 0x22, 0x09, 0x69, 0x6d, 0x61, 0x67, 0x65, 0x2f, 0x67,
  0x69, 0x66, 0x2a, 0x5c, 0x08, 0x01, 0x10, 0x03, 0x1a, 0x40] ++ List.replicate 64 0x5a ++
  [0x22, 0x14] ++ List.replicate 20 0x11

/-- It is written in the bytes that it is read from, and read from no others. -/
theorem toBytes_of_ofBytes_signedLegacyStream :
    ofBytes signedLegacyBytes = .ok signedLegacyStream ∧
      signedLegacyStream.toBytes = .ok signedLegacyBytes ∧
      ∀ other, ofBytes other = .ok signedLegacyStream → other = signedLegacyBytes := by
  have hframed : signedLegacyStream.framed = signedLegacyBytes := by cbv
  have hlength : signedLegacyBytes.length = 160 := rfl
  have hread : ofBytes signedLegacyBytes = .ok signedLegacyStream := by
    refine ofBytes_of_framed_eq (.stream _ (some _)) rfl hframed ?_
    rw [hlength]
    decide
  exact ⟨hread, toBytes_of_ofBytes hread⟩

/-! ## The shortest claim -/

theorem encode_blank_stream : (blank .stream).content.encode = [0x0a, 0x00] := by
  have hfields : Claim.format.fields { kind := some (.stream {}) } = [(1, .delimited [])] := rfl
  show writeFields (Claim.format.fields { kind := some (.stream {}) }) = [0x0a, 0x00]
  rw [hfields, writeFields_cons, writeField, writeKey, FieldValue.write,
    Varint.write_of_lt (by decide), Varint.write_of_lt (by decide)]
  rfl

/-- The shortest claim of a stream. -/
theorem ofBytes_blank_stream : ofBytes [0x00, 0x0a, 0x00] = .ok (blank .stream) := by
  have hframed : (blank .stream).framed = [0x00, 0x0a, 0x00] :=
    congrArg (Envelope.unsignedMarker :: ·) encode_blank_stream
  exact ofBytes_of_framed_eq (blank_wellFormed .stream) rfl hframed (by decide)

end Record

end ChainClaim
