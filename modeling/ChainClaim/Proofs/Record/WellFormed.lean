import ChainClaim.Proofs.Record.Content
import ChainClaim.Proofs.Record.Operations
import ChainClaim.Record.Migration

/-!
# Well-formed records

What a record keeps beside its content agrees with it: the generation and the variant are those of
the content, and the standing tells whether there is a signature, which in the second generation
fits into a header. `Record.WellFormed` lists the three shapes of such records. Every step that an
operation makes keeps to them (`Effect.Step.wellFormed`), and so do the calls on a draft.
-/

namespace ChainClaim

/-- The standing of a claim that can be signed. -/
def Standing.ofSignature (signature : Option Block) : Standing :=
  if signature.isSome then .signed else .unsigned

/-- The shapes of records: one for each type of content. -/
inductive Record.WellFormed : Record → Prop where
  | current (claim : Claim) (kind : Kind) (signature : Option Block)
      (hkind : claim.kind = some kind)
      (hsignature : ∀ block, signature = some block → block.FitsHeader) :
      WellFormed
        { generation := .v2, standing := .ofSignature signature, variant := kind.variant
          content := .current claim, signature }
  | stream (stream : Legacy.Stream) (signature : Option Block) :
      WellFormed
        { generation := .v1, standing := .ofSignature signature, variant := .stream
          content := .legacyStream stream, signature }
  | certificate (certificate : Legacy.Certificate) (hkey : certificate.KeyValid) :
      WellFormed
        { generation := .v1, standing := .legacy, variant := .channel
          content := .legacyCertificate certificate, signature := none }

namespace Record

/-- There is a signature exactly if the standing says so. -/
theorem WellFormed.isSome_signature_iff {r : Record} (hr : r.WellFormed) :
    r.signature.isSome ↔ r.standing = .signed := by
  cases hr with
  | current claim kind signature _ _ =>
    cases signature with
    | none => exact ⟨nofun, nofun⟩
    | some block => exact ⟨fun _ => rfl, fun _ => rfl⟩
  | stream s signature =>
    cases signature with
    | none => exact ⟨nofun, nofun⟩
    | some block => exact ⟨fun _ => rfl, fun _ => rfl⟩
  | certificate => exact ⟨nofun, nofun⟩

theorem WellFormed.legacy_iff {r : Record} (hr : r.WellFormed) :
    r.standing = .legacy ↔ ∃ c, r.content = .legacyCertificate c := by
  cases hr with
  | current claim kind signature _ _ =>
    cases signature with
    | none | some => exact ⟨nofun, nofun⟩
  | stream s signature =>
    cases signature with
    | none | some => exact ⟨nofun, nofun⟩
  | certificate c _ => exact ⟨fun _ => ⟨c, rfl⟩, fun _ => rfl⟩

theorem WellFormed.v2_iff {r : Record} (hr : r.WellFormed) :
    r.generation = .v2 ↔ ∃ claim kind, r.content = .current claim ∧ claim.kind = some kind := by
  constructor
  · intro hgeneration
    cases hr with
    | current claim kind signature hkind _ => exact ⟨claim, kind, rfl, hkind⟩
    | stream | certificate => cases hgeneration
  · rintro ⟨claim, kind, hcontent, -⟩
    cases hr with
    | current => rfl
    | stream | certificate => cases hcontent

theorem WellFormed.variant_of_v1 {r : Record} (hr : r.WellFormed) (h : r.generation = .v1) :
    r.variant = .stream ∨ r.variant = .channel := by
  cases hr with
  | current => cases h
  | stream => exact .inl rfl
  | certificate => exact .inr rfl

theorem WellFormed.fitsHeader {r : Record} (hr : r.WellFormed) (h : r.generation = .v2)
    {block : Block} (hsignature : r.signature = some block) : block.FitsHeader := by
  cases hr with
  | current claim kind signature _ hfits => exact hfits block hsignature
  | stream | certificate => cases h

/-- The signature of a record fits into its claim, unless it is a first-generation one that is
empty. -/
theorem WellFormed.checkFits {r : Record} (hr : r.WellFormed) {block : Block}
    (hsignature : r.signature = some block) :
    block.checkFits r.generation = .ok () ∧ block.signature ≠ [] ∨
      r.generation = .v1 ∧ block.signature = [] := by
  cases hr with
  | current claim kind signature _ hfits =>
    -- what fits into a header has 64 bytes and is not empty
    have hblock := hfits block hsignature
    exact .inl ⟨Block.checkFits_v2_eq_ok_iff.mpr hblock, hblock.signature_ne_nil⟩
  | stream s signature =>
    by_cases hempty : block.signature = []
    · exact .inr ⟨rfl, hempty⟩
    · exact .inl ⟨Block.checkFits_v1_of_ne_nil hempty, hempty⟩
  | certificate => cases hsignature

theorem ofClaim_wellFormed {claim : Claim} {r : Record} (h : ofClaim claim = .ok r) :
    r.WellFormed := by
  unfold ofClaim at h
  split at h
  · cases h
  next kind hkind =>
    cases h
    exact .current claim kind none hkind nofun

theorem blank_wellFormed (v : Variant) : (blank v).WellFormed :=
  .current _ (blankKind v) none rfl nofun

theorem migrate_wellFormed {r r' : Record} (hr : r.WellFormed) (h : r.migrate = .ok r') :
    r'.WellFormed := by
  unfold migrate at h
  split at h
  -- a record of the second generation is left as it is
  · cases h
    exact hr
  -- a stream is made into a claim message
  · exact ofClaim_wellFormed h
  -- and so is a certificate, if its key is of the kind that is kept and a point of the curve
  · split at h
    · split at h
      · cases h
      · exact ofClaim_wellFormed h
    · cases h

end Record

/-! ## Operations

What an operation that succeeds leaves of a well-formed record is well-formed: one case for each
effect. An operation that fails leaves the record as it was. -/

namespace Record

theorem unsigned_wellFormed {r : Record} (hr : r.WellFormed) : r.unsigned.WellFormed := by
  cases hr with
  | current claim kind signature hkind _ =>
    cases signature with
    | none | some => exact .current claim kind none hkind nofun
  | stream s signature =>
    cases signature with
    | none | some => exact .stream s none
  | certificate c hkey => exact .certificate c hkey

end Record

theorem Effect.Step.wellFormed {effect : Effect} {r left : Record} (hstep : effect.Step r left)
    (hr : r.WellFormed) : left.WellFormed := by
  cases hstep with
  | change old new hold hvariant =>
    cases hr with
    | current claim kind signature hkind hsignature =>
      cases hold
      -- the record keeps the variant of the old content, which is that of the new content, too
      rw [hkind] at hvariant
      obtain ⟨newKind, hnew, hsame⟩ := Option.map_eq_some_iff.mp hvariant
      rw [← hsame]
      exact .current new newKind signature hnew hsignature
    | stream | certificate => cases hold
  | replace old new kind hold hkind =>
    cases hr with
    | current claim oldKind signature _ hsignature =>
      -- only here the variant of a record changes, together with its content
      exact .current new kind signature hkind hsignature
    | stream | certificate => cases hold
  | sign block hstanding hfits =>
    cases hr with
    | current claim kind signature hkind _ =>
      -- the check of the block is what the second generation asks of signatures
      have hblock := Block.checkFits_v2_eq_ok_iff.mp hfits
      exact .current claim kind (some block) hkind fun _ h => Option.some.inj h ▸ hblock
    | stream s signature => exact .stream s (some block)
    | certificate c hkey => exact absurd rfl hstanding
  | unsign => exact Record.unsigned_wellFormed hr

/-- An edit that leaves well-formed records well-formed, also where it fails. -/
def Edit.Keeps {α : Type} (edit : Edit α) : Prop :=
  ∀ r : Record, r.WellFormed → (edit.after r).WellFormed

theorem Edit.Makes.keeps {α : Type} {edit : Edit α} {effect : Effect} (h : edit.Makes effect) :
    edit.Keeps := by
  intro r hr
  rcases h.after r with hsame | hstep
  · rw [hsame]
    exact hr
  · exact hstep.wellFormed hr

/-- Every operation keeps records well-formed. -/
theorem Operation.keeps (operation : Operation) : operation.edit.Keeps :=
  operation.makes.keeps

/-! ## Drafts -/

namespace Draft

/-- Calls are edits of content. Those that add to a list read it first. -/
theorem Call.edit_makes (call : Call) : call.edit.Makes .change := by
  cases call with
  | title title => exact (Operation.setTitle title).makes
  | description description => exact (Operation.setDescription description).makes
  | tag tag => exact (Operation.addTag tag).makes
  | thumbnail url => exact (Operation.setThumbnail (some url)).makes
  | language value =>
    exact Edit.makes_get_bind fun r => (Operation.setLanguages (r.languages ++ [value])).makes
  | location value =>
    exact Edit.makes_get_bind fun r => (Operation.setLocations (r.locations ++ [value])).makes
  | publicKey key => exact (Operation.setPublicKey key).makes
  | websiteUrl url => exact (Operation.setWebsiteUrl url).makes
  | email email => exact (Operation.setEmail email).makes
  | cover url => exact (Operation.setCover (some url)).makes
  | source value => exact Record.editStream_makes ({ · with source := some value })
  | author text => exact Record.editStream_makes ({ · with author := text })
  | license text => exact Record.editStream_makes ({ · with license := text })
  | releaseTime seconds => exact Record.editStream_makes ({ · with releaseTime := seconds })
  | fee value => exact Record.editStream_makes ({ · with fee := some value })
  | media value => exact Record.editStream_makes ({ · with media := some value })

/-- The record of a draft after an edit, which is not made if one before it failed. -/
theorem record_apply (draft : Draft) (edit : Edit Unit) :
    (draft.apply edit).record = draft.record ∨
      (draft.apply edit).record = edit.after draft.record := by
  rw [apply, Edit.after]
  -- after a fault nothing is tried any more
  cases draft.fault with
  | some fault => exact .inl rfl
  | none =>
    cases edit.run draft.record with
    | ok | error => exact .inr rfl

theorem apply_wellFormed {draft : Draft} {edit : Edit Unit} (hedit : edit.Keeps)
    (h : draft.record.WellFormed) : (draft.apply edit).record.WellFormed := by
  rcases draft.record_apply edit with hsame | hafter
  · rw [hsame]
    exact h
  · rw [hafter]
    exact hedit draft.record h

/-- Calls on a draft keep its record well-formed. Induction on the calls. -/
theorem calls_wellFormed {draft : Draft} (cs : List Call) (h : draft.record.WellFormed) :
    (draft.calls cs).record.WellFormed := by
  induction cs generalizing draft with
  | nil => exact h
  | cons c cs ih => exact ih (apply_wellFormed c.edit_makes.keeps h)

theorem finish_wellFormed {draft : Draft} {r : Record} (h : draft.record.WellFormed)
    (hfinish : draft.finish = .ok r) : r.WellFormed := by
  unfold finish at hfinish
  split at hfinish <;> cases hfinish
  exact h

end Draft

end ChainClaim
