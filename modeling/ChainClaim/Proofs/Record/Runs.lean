import ChainClaim.Proofs.Record.Splicing

/-!
# What operations leave alone

An operation touches what it owns and nothing else, and one that fails touches nothing.
`Effect.Spares` says for each effect what is left alone; it is read off the steps
(`Effect.Step.spares`).

A run can change all that its operations own between them. But first-generation content is owned by
none, so whatever is tried on a first-generation claim, it stays the claim it was
(`Record.run_sameClaim`), and a legacy one does not change at all (`Record.WellFormed.run_legacy`).
All of it stands together in `Operation.run_spares`.
-/

namespace ChainClaim

/-! ## What each effect leaves alone -/

namespace Record

/-- Two records that hold one claim. At most their signatures differ. -/
structure SameClaim (r left : Record) : Prop where
  generation : left.generation = r.generation
  variant : left.variant = r.variant
  content : left.content = r.content

/-- Two records that are signed alike. -/
structure SameSignature (r left : Record) : Prop where
  generation : left.generation = r.generation
  standing : left.standing = r.standing
  signature : left.signature = r.signature

namespace SameClaim

variable {r left last : Record}

protected theorem refl (r : Record) : SameClaim r r := ⟨rfl, rfl, rfl⟩

protected theorem trans (h : SameClaim r left) (hlast : SameClaim left last) : SameClaim r last :=
  ⟨hlast.generation.trans h.generation, hlast.variant.trans h.variant,
    hlast.content.trans h.content⟩

theorem toUnsignedBytes_eq (h : SameClaim r left) : left.toUnsignedBytes = r.toUnsignedBytes := by
  obtain ⟨hgeneration, hvariant, hcontent⟩ := h
  rw [toUnsignedBytes, toUnsignedBytes, payload, payload, hgeneration, hvariant, hcontent]

theorem signable_eq (h : SameClaim r left) : left.signable = r.signable := by
  obtain ⟨hgeneration, hvariant, hcontent⟩ := h
  rw [signable, signable, hgeneration, hvariant, hcontent]

end SameClaim

theorem sameClaim_unsigned (r : Record) : SameClaim r r.unsigned := by
  rw [unsigned_eq]
  exact ⟨rfl, rfl, rfl⟩

end Record

open Record (SameClaim SameSignature)

/-- What an operation of some effect leaves alone where it succeeds. -/
def Effect.Spares : Effect → Record → Record → Prop
  | .change, r, left => SameSignature r left ∧ left.variant = r.variant
  | .replace, r, left => SameSignature r left
  | .sign, r, left | .unsign, r, left =>
    SameClaim r left ∧ left.toUnsignedBytes = r.toUnsignedBytes ∧ left.signable = r.signable

namespace Effect.Step

variable {effect : Effect} {r left : Record}

theorem spares (hstep : effect.Step r left) : effect.Spares r left := by
  cases hstep with
  | change old new hold hvariant => exact ⟨⟨rfl, rfl, rfl⟩, rfl⟩
  | replace old new kind hold hkind => exact ⟨rfl, rfl, rfl⟩
  | sign block hstanding hfits =>
    have hsame : SameClaim r { r with signature := some block, standing := .signed } :=
      ⟨rfl, rfl, rfl⟩
    exact ⟨hsame, hsame.toUnsignedBytes_eq, hsame.signable_eq⟩
  | unsign =>
    have hsame := Record.sameClaim_unsigned r
    exact ⟨hsame, hsame.toUnsignedBytes_eq, hsame.signable_eq⟩

/-- A signature is lost by dropping it only. -/
theorem eq_unsign (hstep : effect.Step r left) (hsigned : r.standing = .signed)
    (hunsigned : left.standing = .unsigned) : effect = .unsign := by
  cases hstep with
  | change | replace =>
    rw [hsigned] at hunsigned
    cases hunsigned
  | sign => cases hunsigned
  | unsign => rfl

/-- First-generation content is changed by no operation. -/
theorem sameClaim (hstep : effect.Step r left) (hcontent : ∀ claim, r.content ≠ .current claim) :
    SameClaim r left := by
  cases hstep with
  -- both begin with a claim message, and there is none
  | change old new hold _ => exact absurd hold (hcontent old)
  | replace old new kind hold _ => exact absurd hold (hcontent old)
  | sign block _ _ => exact ⟨rfl, rfl, rfl⟩
  | unsign => exact Record.sameClaim_unsigned r

/-- No operation changes anything of a legacy record: there is no signature to drop. -/
theorem eq_of_legacy (hstep : effect.Step r left) (hr : r.WellFormed)
    (hlegacy : r.standing = .legacy) : left = r := by
  obtain ⟨certificate, hcontent⟩ := hr.legacy_iff.mp hlegacy
  cases hstep with
  | change old new hold _ => cases hcontent.symm.trans hold
  | replace old new kind hold _ => cases hcontent.symm.trans hold
  | sign block hstanding _ => exact absurd hlegacy hstanding
  | unsign =>
    cases hr with
    | current | stream => cases hcontent
    -- well-formed certificates are unsigned already
    | certificate => rfl

end Effect.Step

/-! ## Operations and runs -/

theorem Operation.eq_removeSignature {operation : Operation} (h : operation.effect = .unsign) :
    operation = .removeSignature := by
  cases operation with
  | removeSignature => rfl
  | _ => cases h

/-- A signed record is left unsigned by dropping the signature, and by nothing else. -/
theorem Operation.standing_after_eq_unsigned_iff {operation : Operation} {r : Record}
    (hsigned : r.standing = .signed) :
    (operation.edit.after r).standing = .unsigned ↔ operation = .removeSignature := by
  constructor
  · intro hunsigned
    rcases operation.makes.after r with hsame | hstep
    -- what fails leaves the record signed
    · rw [hsame, hsigned] at hunsigned
      cases hunsigned
    · exact eq_removeSignature (hstep.eq_unsign hsigned hunsigned)
  · rintro rfl
    obtain ⟨generation, standing, variant, content, signature⟩ := r
    cases hsigned
    rfl

namespace Record

/-- Content of the first generation is no claim message that could be edited. -/
theorem WellFormed.content_ne_current {r : Record} (hr : r.WellFormed) (h : r.generation = .v1)
    (claim : Claim) : r.content ≠ .current claim := by
  cases hr with
  | current => cases h
  | stream | certificate => exact nofun

/-- Whatever is tried on first-generation content, the claim stays the same. Induction on the
operations, failed ones included. -/
theorem run_sameClaim {r : Record} (hcontent : ∀ claim, r.content ≠ .current claim)
    (operations : List Operation) : SameClaim r (r.run operations) := by
  induction operations generalizing r with
  | nil => exact .refl r
  | cons operation operations ih =>
    have hfirst : SameClaim r (operation.edit.after r) := by
      rcases operation.makes.after r with hsame | hstep
      · rw [hsame]
        exact .refl r
      · exact hstep.sameClaim hcontent
    -- the content is the same after the first step, so there is still no claim message to edit
    exact hfirst.trans (ih (hfirst.content ▸ hcontent))

/-- Whatever is tried on a legacy record, nothing of it changes. -/
theorem WellFormed.run_legacy {r : Record} (hr : r.WellFormed) (hlegacy : r.standing = .legacy)
    (operations : List Operation) : r.run operations = r := by
  induction operations with
  | nil => rfl
  | cons operation operations ih =>
    have hfirst : operation.edit.after r = r := by
      rcases operation.makes.after r with hsame | hstep
      · exact hsame
      · exact hstep.eq_of_legacy hr hlegacy
    rw [run_cons, hfirst, ih]

end Record

/-- An operation that fails leaves the record as it was, one that succeeds leaves alone what its
effect does not own, and it is dropping a signature that leaves a signed record unsigned. So a
first-generation claim stays the claim it was read as, whatever is tried on it, and a legacy one is
still written as the bytes it was read from. -/
theorem Operation.run_spares :
    (∀ (operation : Operation) (r left : Record),
      (∀ e, operation.edit.run r = .error e left → left = r) ∧
      (operation.edit.run r = .ok () left → operation.effect.Spares r left)) ∧
    (∀ (operation : Operation) (r : Record), r.standing = .signed →
      ((operation.edit.after r).standing = .unsigned ↔ operation = .removeSignature)) ∧
    ∀ (b : Bytes) (r : Record), Record.ofBytes b = .ok r → r.generation = .v1 →
      ∀ operations : List Operation,
        SameClaim r (r.run operations) ∧
        (∃ stripped, Splice.strip b = .ok stripped ∧
          (r.run operations).toUnsignedBytes = .ok stripped) ∧
        (r.standing = .legacy →
          (r.run operations).standing = .legacy ∧ (r.run operations).toBytes = .ok b) := by
  refine ⟨fun operation r left => ⟨fun e => operation.makes.eq_of_error,
    fun hrun => (operation.makes.step_of_ok hrun).spares⟩, ?_, ?_⟩
  · exact fun operation r => standing_after_eq_unsigned_iff
  · intro b r h hgeneration operations
    have hr := Record.ofBytes_wellFormed h
    have hsame := Record.run_sameClaim (hr.content_ne_current hgeneration) operations
    refine ⟨hsame, ?_, fun hlegacy => ?_⟩
    · -- what is written without a signature is told by the claim alone
      rw [hsame.toUnsignedBytes_eq]
      obtain ⟨stripped, hstrip, hunsigned, -⟩ := Record.strip_of_ofBytes h
      exact ⟨stripped, hstrip, hunsigned⟩
    · -- a legacy record is the one that was read, and is written as what it was read from
      rw [hr.run_legacy hlegacy operations]
      exact ⟨hlegacy, Record.toBytes_eq_of_ofBytes h⟩

/-- A first-generation channel whose key is of a kind that is kept as it is. -/
def otherChannel : Record where
  generation := .v1
  standing := .legacy
  variant := .channel
  content := .legacyCertificate { keyType := 1 }
  signature := none

def otherChannelBytes : Bytes :=
  [0x08, 0x01, 0x10, 0x02, 0x22, 0x06, 0x08, 0x00, 0x10, 0x01, 0x22, 0x00]

theorem ofBytes_otherChannel : Record.ofBytes otherChannelBytes = .ok otherChannel := by
  have hframed : otherChannel.framed = otherChannelBytes := by cbv
  have hkey : Legacy.Certificate.KeyValid { keyType := 1 } := fun h => absurd h (by decide)
  exact Record.ofBytes_of_framed_eq (.certificate { keyType := 1 } hkey) rfl hframed (by decide)

/-- A blank first-generation stream with a short signature. -/
def signedFlat : Record := Record.blankFlat (some Splice.shortBlock)

def signedFlatBytes : Bytes := Record.blankFlatBytes ++ Splice.shortField

theorem ofBytes_signedFlat : Record.ofBytes signedFlatBytes = .ok signedFlat :=
  Record.ofBytes_blankFlat (some Splice.shortBlock) Splice.shortField (by cbv) (by decide)

/-- Edits of content, a signature that is dropped, a block that is refused and one that is not. -/
def attempts : List Operation :=
  [.setTitle "a", .removeSignature, .attach Record.emptyBlock, .editStream id,
    .attach Record.zeroBlock, .replaceContent { kind := some (.stream {}) }]

/-- They change the signature of the stream only, and nothing of the channel. -/
theorem run_spares_attempts :
    Operation.removeSignature.edit.run signedFlat = .ok () (Record.blankFlat none) ∧
      (Record.blankFlat none).signable = signedFlat.signable ∧
      (Operation.removeSignature.edit.after signedFlat).standing = .unsigned ∧
      (signedFlat.run attempts).signature = some Record.zeroBlock ∧
      (signedFlat.run attempts).toUnsignedBytes = .ok Record.blankFlatBytes ∧
      (Operation.setTitle "a").edit.run otherChannel = .error (.readOnly .title) otherChannel ∧
      (otherChannel.run attempts).toBytes = .ok otherChannelBytes := by
  have hbare : Splice.strip signedFlatBytes = .ok Record.blankFlatBytes := by cbv
  obtain ⟨hspares, hstanding, hruns⟩ := Operation.run_spares
  have hdrop : Operation.removeSignature.edit.run signedFlat = .ok () (Record.blankFlat none) := rfl
  obtain ⟨-, -, hsignable⟩ := (hspares .removeSignature signedFlat _).2 hdrop
  obtain ⟨-, ⟨stripped, hstrip, hunsigned⟩, -⟩ := hruns _ _ ofBytes_signedFlat rfl attempts
  obtain ⟨-, -, hlegacy⟩ := hruns _ _ ofBytes_otherChannel rfl attempts
  cases hbare.symm.trans hstrip
  exact ⟨hdrop, hsignable, (hstanding .removeSignature signedFlat rfl).mpr rfl, rfl, hunsigned, rfl,
    (hlegacy rfl).2⟩

end ChainClaim
