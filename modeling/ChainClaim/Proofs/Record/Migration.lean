import ChainClaim.Proofs.Record.Reachable
import ChainClaim.Proofs.Record.Runs
import Mathlib

/-!
# Migrated records

The two generations keep one fact in two forms: a flag or a tag, a text or a message around it, the
number of a language or a list of languages, an amount in whole units or one in the smallest unit.
A reader who asks a first-generation record and the record that it is migrated to gets the same
answers all the same (`Reachable.migrate_of_v1`), but for two views of a stream: `StreamView.kept`
leaves them out, and `Reachable.migrate_sdHash_licenseUrl` says when each of them is kept.

Nothing but the kind of a key keeps a record from being migrated: the keys that migration reads are
those that were read with the claim.
-/

namespace ChainClaim

open Record

/-! ## Streams of both generations -/

/-- What is kept of every stream: all but the licence URL and the hash of the source. -/
def StreamView.kept (view : StreamView) : StreamView :=
  { view with licenseUrl := none, sdHash := [] }

namespace Legacy.Stream

theorem fee_ofCurrent_migratedStream (s : Legacy.Stream) :
    (StreamView.ofCurrent s.migratedStream).fee = (StreamView.ofLegacy s).fee := by
  show (s.metadata.fee.map _).map FeeView.ofCurrent = s.metadata.fee.map FeeView.ofLegacy
  rw [Option.map_map]
  rfl

theorem licenseUrl_ofCurrent_migratedStream (s : Legacy.Stream) :
    (StreamView.ofCurrent s.migratedStream).licenseUrl =
      s.metadata.licenseUrl.filter fun url => !url.isEmpty := by
  show (if (s.metadata.licenseUrl.getD "").isEmpty then none
    else some (s.metadata.licenseUrl.getD "")) = _
  cases s.metadata.licenseUrl with
  | none => rfl
  -- an absent text and one without characters are written alike
  | some url =>
    rw [Option.getD_some, Option.filter_some]
    cases url.isEmpty with
    | true | false => rfl

/-- How a migrated stream is seen, in terms of what it was. -/
theorem ofCurrent_migratedStream (s : Legacy.Stream) :
    StreamView.ofCurrent s.migratedStream =
      { StreamView.ofLegacy s with
        licenseUrl := s.metadata.licenseUrl.filter fun url => !url.isEmpty
        sdHash := if s.source.sourceType = sdHashSource then s.source.source else [] } := by
  rw [← licenseUrl_ofCurrent_migratedStream, StreamView.mk.injEq]
  exact ⟨rfl, rfl, rfl, rfl, rfl, rfl, s.fee_ofCurrent_migratedStream⟩

theorem kept_ofCurrent_migratedStream (s : Legacy.Stream) :
    (StreamView.ofCurrent s.migratedStream).kept = (StreamView.ofLegacy s).kept := by
  rw [ofCurrent_migratedStream]
  rfl

end Legacy.Stream

namespace Record

/-! ## What readers see -/

/-- Records that are seen alike: in what every claim has, and as what they are read as, errors
included. -/
structure SeenAlike (r other : Record) : Prop where
  title : other.title = r.title
  description : other.description = r.description
  languages : other.languages = r.languages
  locations : other.locations = r.locations
  thumbnail : other.thumbnail = r.thumbnail
  isMature : other.isMature = r.isMature
  stream : other.stream.map StreamView.kept = r.stream.map StreamView.kept
  channel : other.channel = r.channel

theorem seenAlike_stream {r : Record} {s : Legacy.Stream} (hcontent : r.content = .legacyStream s)
    (hvariant : r.variant = .stream) :
    r.SeenAlike (fresh (.stream s.migratedStream) s.migratedDetails) := by
  obtain ⟨generation, standing, variant, content, signature⟩ := r
  cases hcontent
  cases hvariant
  refine ⟨rfl, rfl, rfl, rfl, ?_, ?_, ?_, rfl⟩
  -- three facts are kept in another form: a text in a message, a flag as a tag, and the stream
  · show (s.metadata.thumbnail.map Source.ofUrl).map (·.url) = s.metadata.thumbnail
    cases s.metadata.thumbnail with
    | none | some => rfl
  · show (if s.metadata.nsfw then [matureTag] else []).contains matureTag = s.metadata.nsfw
    cases s.metadata.nsfw with
    | true | false => rfl
  · exact congrArg Except.ok s.kept_ofCurrent_migratedStream

theorem seenAlike_certificate {r : Record} {c : Legacy.Certificate}
    (hcontent : r.content = .legacyCertificate c) (hvariant : r.variant = .channel)
    (hkind : KeyKind.ofCode? c.keyType = some .secp256k1) :
    r.SeenAlike (fresh (.channel { publicKey := c.publicKey }) {}) := by
  obtain ⟨generation, standing, variant, content, signature⟩ := r
  cases hcontent
  cases hvariant
  refine ⟨rfl, rfl, rfl, rfl, rfl, rfl, rfl, ?_⟩
  show Except.ok (ChannelView.ofCurrent { publicKey := c.publicKey }) =
    Except.ok (ChannelView.ofLegacy c)
  rw [ChannelView.ofLegacy, hkind]
  rfl

/-! ## What is made of a record -/

/-- A certificate whose key is of a kind that the second generation does not have. -/
def HasForeignKey (r : Record) : Prop :=
  ∃ c, r.content = .legacyCertificate c ∧ KeyKind.ofCode? c.keyType ≠ some .secp256k1

/-- A record that another one is migrated to: it is sent and read like any other, can be signed
anew, and is seen as the old one was. -/
structure MigratesTo (r migrated : Record) : Prop where
  generation : migrated.generation = .v2
  standing : migrated.standing = .unsigned
  signature : migrated.signature = none
  variant : migrated.variant = r.variant
  readsBack : migrated.ReadsBack
  migrate_eq : migrated.migrate = .ok migrated
  seenAlike : r.SeenAlike migrated

theorem migratesTo_fresh {r : Record} {kind : Kind} {details : Details}
    (hvariant : kind.variant = r.variant) (hkey : checkKey { kind := some kind, details } = .ok ())
    (hseen : r.SeenAlike (fresh kind details)) : r.MigratesTo (fresh kind details) where
  generation := rfl
  standing := rfl
  signature := rfl
  variant := hvariant
  readsBack := fresh_readsBack hkey
  migrate_eq := rfl
  seenAlike := hseen

theorem stream_of_legacyStream {r : Record} {s : Legacy.Stream}
    (hcontent : r.content = .legacyStream s) : r.stream = .ok (.ofLegacy s) := by
  simp [stream, hcontent]

theorem migrate_legacyStream {r : Record} {s : Legacy.Stream}
    (hcontent : r.content = .legacyStream s) :
    r.migrate = .ok (fresh (.stream s.migratedStream) s.migratedDetails) := by
  simp [migrate, hcontent, ofClaim, fresh]

theorem migrate_certificate {r : Record} {c : Legacy.Certificate}
    (hcontent : r.content = .legacyCertificate c)
    (hkind : KeyKind.ofCode? c.keyType = some .secp256k1) {key : PublicKey}
    (hkey : PublicKey.ofDer c.publicKey = .ok key) :
    r.migrate = .ok (fresh (.channel { publicKey := c.publicKey }) {}) := by
  simp only [migrate, hcontent, hkind, hkey, if_true]
  rfl

theorem migrate_of_hasForeignKey {r : Record} (h : r.HasForeignKey) :
    r.migrate = .error (.badKey .certificateKind) := by
  obtain ⟨c, hcontent, hkind⟩ := h
  simp only [migrate, hcontent, if_neg hkind]

/-- Without a foreign key there is a record that a first-generation record is migrated to. -/
theorem WellFormed.exists_migratesTo {r : Record} (hr : r.WellFormed)
    (hgeneration : r.generation = .v1) (hforeign : ¬r.HasForeignKey) :
    ∃ migrated, r.migrate = .ok migrated ∧ r.MigratesTo migrated := by
  cases hr with
  | current => cases hgeneration
  | stream s signature =>
    exact ⟨_, migrate_legacyStream rfl, migratesTo_fresh rfl rfl (seenAlike_stream rfl rfl)⟩
  | certificate c hvalid =>
    -- a key that is not foreign was checked when the claim was read
    have hkind : KeyKind.ofCode? c.keyType = some .secp256k1 :=
      Decidable.not_not.mp fun hkind => hforeign ⟨c, rfl, hkind⟩
    obtain ⟨key, hkey⟩ := hvalid hkind
    exact ⟨_, migrate_certificate rfl hkind hkey,
      migratesTo_fresh rfl (checkKey_channel hkey {}) (seenAlike_certificate rfl rfl hkind)⟩

end Record

/-- A first-generation record is migrated unless its key is of a kind that the second generation
does not have, and what it is migrated to can be sent, edited and signed and is seen as the old
record was. -/
theorem Reachable.migrate_of_v1 {r : Record} (hr : Reachable r) (hgeneration : r.generation = .v1) :
    (∀ e, r.migrate = .error e ↔ e = .badKey .certificateKind ∧ r.HasForeignKey) ∧
      (¬r.HasForeignKey → ∃ migrated, r.migrate = .ok migrated ∧ r.MigratesTo migrated) := by
  have hmigrates := hr.wellFormed.exists_migratesTo hgeneration
  refine ⟨fun e => ⟨fun h => ?_, ?_⟩, hmigrates⟩
  · by_cases hforeign : r.HasForeignKey
    -- a foreign key is the only fault, and it is always the same one
    · have hrefused := Record.migrate_of_hasForeignKey hforeign
      exact ⟨Except.error.inj (h.symm.trans hrefused), hforeign⟩
    · obtain ⟨migrated, hmigrated, -⟩ := hmigrates hforeign
      cases h.symm.trans hmigrated
  · rintro ⟨rfl, hforeign⟩
    exact Record.migrate_of_hasForeignKey hforeign

/-- An unsigned first-generation stream for grown-ups that costs 99 cents and has a thumbnail without
a URL. -/
def pricedStream : Record where
  generation := .v1
  standing := .unsigned
  variant := .stream
  content := .legacyStream {
    metadata := {
      language := 1
      nsfw := true
      fee := some { currency := 3, amount := ⟨0x3f7d70a4⟩ }
      thumbnail := some "" } }
  signature := none

theorem ofBytes_pricedStream : Record.ofBytes pricedStream.framed = .ok pricedStream := by
  have hlength : pricedStream.framed.length = 49 := by cbv
  refine ofBytes_framed (.stream _ none) rfl ?_
  show pricedStream.framed.length < 2 ^ 64
  rw [hlength]
  decide

/-- The stream is migrated with its price, and a channel with a key of another curve is not. -/
theorem migrate_of_v1_pricedStream :
    (∃ migrated, pricedStream.migrate = .ok migrated ∧ pricedStream.MigratesTo migrated ∧
      migrated.thumbnail = some "" ∧ migrated.isMature = true ∧
      migrated.languages = [.ofCode 1] ∧
      migrated.stream.map (·.fee) = .ok (some ⟨.usd, 99, []⟩)) ∧
    otherChannel.migrate = .error (.badKey .certificateKind) := by
  have hpriced : Reachable pricedStream := .ofBytes ofBytes_pricedStream
  have hother : Reachable otherChannel := .ofBytes ofBytes_otherChannel
  have hnoKey : ¬pricedStream.HasForeignKey := by
    rintro ⟨c, hcontent, -⟩
    cases hcontent
  have hforeign : otherChannel.HasForeignKey := ⟨_, rfl, by decide⟩
  obtain ⟨migrated, hmigrated, hmigrates⟩ := (hpriced.migrate_of_v1 rfl).2 hnoKey
  have hseen := hmigrates.seenAlike
  refine ⟨⟨migrated, hmigrated, hmigrates, ?_, ?_, ?_, ?_⟩,
    ((hother.migrate_of_v1 rfl).1 _).mpr ⟨rfl, hforeign⟩⟩
  · exact hseen.thumbnail
  · exact hseen.isMature
  · exact hseen.languages
  · have hunits : Legacy.Fee.baseUnits { currency := 3, amount := ⟨0x3f7d70a4⟩ } = 99 := by
      decide +kernel
    cases hmigrated
    show Except.ok (some (FeeView.ofCurrent { currency := 3, address := [], amount := _ })) = _
    rw [hunits]
    rfl

/-! ## What is not kept

The second generation writes no text that is empty, so a licence URL without characters is none
there. The bytes of a source are seen as its hash whatever type it names, and are taken over for one
type only. So two views of a stream can change when it is migrated, and by this much. -/

/-- The hash of a source is kept exactly if the source is of the type that is taken over or names no
bytes, and a licence URL exactly unless it has no characters. -/
theorem Reachable.migrate_sdHash_licenseUrl {r : Record} (hr : Reachable r)
    (hgeneration : r.generation = .v1) (hvariant : r.variant = .stream) :
    ∃ s view migrated kept, r.content = .legacyStream s ∧ r.stream = .ok view ∧
      r.migrate = .ok migrated ∧ migrated.stream = .ok kept ∧
      kept.sdHash = (if s.source.sourceType = sdHashSource then view.sdHash else []) ∧
      kept.licenseUrl = view.licenseUrl.filter (fun url => !url.isEmpty) ∧
      (kept.sdHash = view.sdHash ↔ s.source.sourceType = sdHashSource ∨ view.sdHash = []) ∧
      (kept.licenseUrl = view.licenseUrl ↔ view.licenseUrl ≠ some "") := by
  cases hr.wellFormed with
  | current => cases hgeneration
  | certificate => cases hvariant
  | stream s signature =>
    refine ⟨s, _, _, _, rfl, rfl, rfl, rfl, ?_⟩
    rw [s.ofCurrent_migratedStream]
    refine ⟨rfl, rfl, ?_, ?_⟩
    · -- of another type nothing is kept, which is right only if nothing was there
      show (if s.source.sourceType = sdHashSource then s.source.source else []) =
        s.source.source ↔ _ ∨ s.source.source = []
      by_cases htype : s.source.sourceType = sdHashSource
      · simp [htype]
      · simp [htype, eq_comm]
    · -- the filter takes out one text
      show s.metadata.licenseUrl.filter (fun url => !url.isEmpty) = s.metadata.licenseUrl ↔
        s.metadata.licenseUrl ≠ some ""
      cases s.metadata.licenseUrl with
      | none => simp
      | some url => simp [Option.filter_some]

/-- An unsigned stream with a source of some type, one byte to name it and a licence URL without
characters. -/
def sourcedStream (sourceType : Int32) : Record where
  generation := .v1
  standing := .unsigned
  variant := .stream
  content := .legacyStream {
    metadata := { licenseUrl := some "" }
    source := { sourceType, source := [0xab] } }
  signature := none

theorem reachable_sourcedStream {sourceType : Int32}
    (hlength : (sourcedStream sourceType).framed.length < 2 ^ 64) :
    Reachable (sourcedStream sourceType) :=
  .ofBytes (ofBytes_framed (.stream _ none) rfl hlength)

/-- A hash is kept, and the licence URL without characters is not. -/
theorem migrate_sdHash_licenseUrl_hash :
    Reachable (sourcedStream 1) ∧
      ∃ migrated, (sourcedStream 1).migrate = .ok migrated ∧
        migrated.stream.map (·.sdHash) = .ok [0xab] ∧
        migrated.stream.map (·.licenseUrl) = .ok none := by
  have hlength : (sourcedStream 1).framed.length = 37 := by cbv
  have hr : Reachable (sourcedStream 1) :=
    reachable_sourcedStream (by rw [hlength]; decide)
  obtain ⟨s, view, migrated, kept, hcontent, hview, hmigrate, hkept, hhash, hlicence, -⟩ :=
    hr.migrate_sdHash_licenseUrl rfl rfl
  cases hcontent
  cases hview
  refine ⟨hr, migrated, hmigrate, ?_, ?_⟩
  · rw [hkept]
    exact congrArg Except.ok hhash
  · rw [hkept]
    exact congrArg Except.ok hlicence

/-- A source of another type is seen as a hash before, and is gone after. -/
theorem migrate_forgets_source :
    Reachable (sourcedStream 2) ∧ (sourcedStream 2).generation = .v1 ∧
      (sourcedStream 2).variant = .stream ∧
      ∃ migrated, (sourcedStream 2).migrate = .ok migrated ∧
        (sourcedStream 2).stream.map (·.sdHash) = .ok [0xab] ∧
        migrated.stream.map (·.sdHash) = .ok [] ∧
        (sourcedStream 2).stream.map (·.licenseUrl) = .ok (some "") ∧
        migrated.stream.map (·.licenseUrl) = .ok none := by
  have hlength : (sourcedStream 2).framed.length = 37 := by cbv
  exact ⟨reachable_sourcedStream (by rw [hlength]; decide), rfl, rfl, _, rfl, rfl, rfl, rfl, rfl⟩

end ChainClaim
