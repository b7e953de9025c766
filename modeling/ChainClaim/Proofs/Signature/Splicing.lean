import ChainClaim.Proofs.Envelope.Reading
import ChainClaim.Proofs.Signature.Blocks
import ChainClaim.Signature
import Mathlib

/-!
# Splicing the bytes of a claim

Cutting a signature out leads from one derivation to another: the claim without its signature
derives the envelope without one (`strip_of_derives`). Framing a block in leads back, to a claim
whose envelope without the signature is the old one (`attach_eq_ok`). An envelope is told of one
claim only (`Envelope.Derives.eq_written`), so cutting out undoes framing in. No payload is read in
any of this, and it holds for payloads that no schema accepts.
-/

namespace ChainClaim

open Envelope (Derives)

theorem Span.length_cut_le (span : Span) (h : span.start ≤ span.stop) (b : Bytes) :
    (span.cut b).length ≤ b.length := by
  simp only [cut, List.length_append, List.length_take, List.length_drop]
  omega

/-! ## What an envelope is told of -/

namespace Envelope

/-- The claim that an envelope is told of. -/
def written (env : Envelope) : Bytes :=
  match env.generation with
  | .v1 =>
    let (type, number) : Nat × Nat := if env.variant = .channel then (2, 4) else (1, 3)
    let trailer : Bytes :=
      match env.signature with
      | none => []
      | some raw => writeField signatureField (.delimited raw)
    flatBytes type number env.payload ++ trailer
  | .v2 =>
    match env.signature with
    | none => unsignedMarker :: env.payload
    | some header => signedMarker :: (header ++ env.payload)

/-- Generation, variant, payload and signature leave no freedom in the bytes of a claim. -/
theorem Derives.eq_written {b : Bytes} {env : Envelope} (h : Derives b env) : b = env.written := by
  cases h with
  | unsigned | signed | flatSigned => rfl
  -- `written` appends a trailer to these as well, an empty one
  | flatStream | flatCertificate => exact (List.append_nil _).symm

/-- What is told of a claim when its signature is cut out. -/
def unsigned (env : Envelope) : Envelope :=
  { env with
    standing := if env.standing = .signed then .unsigned else env.standing
    signature := none
    span := none }

theorem standing_unsigned (env : Envelope) : env.unsigned.standing ≠ .signed := by
  obtain ⟨generation, standing, variant, payload, signature, span⟩ := env
  cases standing with
  | legacy | unsigned | signed => exact nofun

/-- What a signature covers: for the first generation the whole unsigned claim, for the second the
payload. -/
def covered (env : Envelope) : Bytes :=
  match env.generation with
  | .v1 => wrap .v1 env.variant env.payload none
  | .v2 => env.payload

theorem covered_unsigned (env : Envelope) : env.unsigned.covered = env.covered := rfl

end Envelope

namespace Splice

/-! ## Cutting out -/

/-- A claim without its signature is a claim again. One case for each production. -/
theorem strip_of_derives {b : Bytes} {env : Envelope} (h : Derives b env) :
    ∃ stripped, strip b = .ok stripped ∧ Derives stripped env.unsigned := by
  have hcut := h.located.cut_eq
  rw [strip, Envelope.read_of_derives h, Outcome.ok_bind]
  cases h with
  | unsigned v fields hfields => exact ⟨_, rfl, .unsigned v fields hfields⟩
  | signed v header fields _ hfields =>
    refine ⟨_, rfl, ?_⟩
    -- around the header stand the old marker, which is replaced, and the payload
    rw [hcut _ rfl]
    exact .unsigned v fields hfields
  | flatStream body hbody => exact ⟨_, rfl, .flatStream body hbody⟩
  | flatSigned body raw hbody _ =>
    refine ⟨_, rfl, ?_⟩
    -- the field is the last one, and without it the claim is the unsigned production
    rw [hcut _ rfl]
    exact .flatStream body hbody
  | flatCertificate body hbody => exact ⟨_, rfl, .flatCertificate body hbody⟩

/-- Nothing is cut out of a claim without a signature. -/
theorem strip_of_span_eq_none {b : Bytes} {env : Envelope} (h : Derives b env)
    (hspan : env.span = none) : strip b = .ok b := by
  rw [strip, Envelope.read_of_derives h, Outcome.ok_bind, hspan]
  rfl

/-- A claim does not grow when its signature is cut out: a marker that is replaced stands in what is
left of the claim. -/
theorem length_strip_le {b stripped : Bytes} (h : strip b = .ok stripped) :
    stripped.length ≤ b.length := by
  obtain ⟨env, henv, h⟩ := Outcome.bind_eq_ok.mp h
  have hlocated := (Envelope.read_sound henv).located
  cases hspan : env.span with
  | none =>
    rw [hspan] at h
    cases h
    exact Nat.le_refl _
  | some span =>
    have hcut := span.length_cut_le (hlocated.start_le_stop span hspan) b
    rw [hspan] at h
    cases hgeneration : env.generation with
    | v1 =>
      -- what is cut is all that changes
      rw [hgeneration] at h
      cases h
      exact hcut
    | v2 =>
      rw [hgeneration] at h
      cases h
      -- the new marker stands in for the old one, which the span does not cover
      have hremainder : span.cut b = Envelope.signedMarker :: env.payload := by
        rw [hlocated.cut_eq span hspan, Envelope.remainder, hgeneration]
      rw [hremainder] at hcut ⊢
      exact hcut

/-- The bytes that a signature covers. One case for each production. -/
theorem signable_of_derives {b : Bytes} {env : Envelope} (h : Derives b env) :
    signable b = .ok env.covered := by
  rw [signable, Envelope.read_of_derives h, Outcome.ok_bind]
  cases h with
  | unsigned | signed => rfl
  | flatStream body _ =>
    show _ = Except.ok (Envelope.wrap .v1 .stream body none)
    rw [Envelope.wrap_stream, List.append_nil]
    rfl
  | flatSigned body raw _ _ =>
    -- the span of the signature starts where the unsigned claim ends
    show Except.ok (List.take (Envelope.flatBytes 1 3 body).length (_ ++ _)) =
      Except.ok (Envelope.wrap .v1 .stream body none)
    rw [Envelope.wrap_stream, List.append_nil, List.take_left]
  | flatCertificate body _ =>
    show _ = Except.ok (Envelope.wrap .v1 .channel body none)
    rw [Envelope.wrap_certificate]
    rfl

/-! ## Framing in -/

/-- A block is framed into unsigned claims, and what comes out is a signed claim that is the same
but for the signature. -/
theorem attach_eq_ok {p q : Bytes} {block : Block} (h : attach p block = .ok q)
    (hlen : q.length < 2 ^ 64) :
    ∃ env signed, Derives p env ∧ Derives q signed ∧ signed.standing = .signed ∧
      signed.unsigned = env := by
  obtain ⟨env, henv, h⟩ := Outcome.bind_eq_ok.mp h
  have hderives := Envelope.read_sound henv
  cases hderives with
  -- signed claims and certificates are refused before the block is looked at
  | signed | flatSigned | flatCertificate => cases h
  | unsigned v fields hfields =>
    obtain ⟨⟨⟩, hfits, h⟩ := Outcome.bind_eq_ok.mp h
    cases h
    have hheader := Block.length_toHeader (Block.checkFits_v2_eq_ok_iff.mp hfits)
    exact ⟨_, _, .unsigned v fields hfields, .signed v block.toHeader fields hheader hfields, rfl,
      rfl⟩
  | flatStream body hbody =>
    obtain ⟨⟨⟩, hfits, h⟩ := Outcome.bind_eq_ok.mp h
    cases h
    rw [Envelope.wrap_stream] at hlen ⊢
    -- the block is shorter than the claim it ends up in
    have hblock : block.toFlat.length < 2 ^ 64 := FieldValue.fits_of_writeField hlen
    exact ⟨_, _, .flatStream body hbody, .flatSigned body block.toFlat hbody hblock, rfl, rfl⟩

/-- There is no room for a second block. -/
theorem attach_of_signed {b : Bytes} {env : Envelope} (h : Derives b env)
    (hsigned : env.standing = .signed) (block : Block) :
    attach b block = .error (.badBlock .alreadySigned) := by
  rw [attach, Envelope.read_of_derives h, Outcome.ok_bind, hsigned]
  rfl

/-! ## The two in turn -/

/-- Cutting out undoes framing in, and neither changes what a signature covers or what the envelope
tells beside the signature. A second block is never framed in, and a second cut changes nothing.
Lengths are 64-bit numbers, in a claim as in memory. -/
theorem strip_attach :
    (∀ p q block, attach p block = .ok q → q.length < 2 ^ 64 →
      strip q = .ok p ∧
      (∃ covered, signable p = .ok covered ∧ signable q = .ok covered) ∧
      (∃ env signed, Envelope.read p = .ok env ∧ Envelope.read q = .ok signed ∧
        signed.standing = .signed ∧ signed.generation = env.generation ∧
        signed.variant = env.variant ∧ signed.payload = env.payload) ∧
      ∀ other, attach q other = .error (.badBlock .alreadySigned)) ∧
    ∀ b stripped, strip b = .ok stripped →
      strip stripped = .ok stripped ∧
      (∃ covered, signable b = .ok covered ∧ signable stripped = .ok covered) ∧
      ∃ env bare, Envelope.read b = .ok env ∧ Envelope.read stripped = .ok bare ∧
        bare.standing ≠ .signed ∧ bare.generation = env.generation ∧
        bare.variant = env.variant ∧ bare.payload = env.payload := by
  constructor
  · intro p q block h hlen
    obtain ⟨env, signed, hp, hq, hsigned, hunsigned⟩ := attach_eq_ok h hlen
    obtain ⟨stripped, hstrip, hstripped⟩ := strip_of_derives hq
    refine ⟨?_, ⟨env.covered, signable_of_derives hp, ?_⟩,
      ⟨env, signed, Envelope.read_of_derives hp, Envelope.read_of_derives hq, hsigned, ?_⟩,
      attach_of_signed hq hsigned⟩
    · -- both are the claim that the envelope without the signature is told of
      rw [hunsigned] at hstripped
      rw [hstrip, hstripped.eq_written, ← hp.eq_written]
    · rw [signable_of_derives hq, ← hunsigned, Envelope.covered_unsigned]
    · rw [← hunsigned]
      exact ⟨rfl, rfl, rfl⟩
  · intro b stripped h
    obtain ⟨env, henv, -⟩ := Outcome.bind_eq_ok.mp h
    have hb := Envelope.read_sound henv
    -- the production without the signature is what `strip` gives, so `stripped` derives it
    obtain ⟨stripped', hstrip, hstripped⟩ := strip_of_derives hb
    obtain rfl : stripped' = stripped := Except.ok.inj (hstrip.symm.trans h)
    exact ⟨strip_of_span_eq_none hstripped rfl,
      ⟨env.covered, signable_of_derives hb, by
        rw [signable_of_derives hstripped, Envelope.covered_unsigned]⟩,
      ⟨env, env.unsigned, henv, Envelope.read_of_derives hstripped, env.standing_unsigned, rfl, rfl,
        rfl⟩⟩

/-- A block with a signature of one byte, as first-generation claims may have. -/
def shortBlock : Block where
  keyKind := .nist256p
  signature := [0x01]
  channelId := ⟨List.replicate 20 1, by decide⟩

/-- The field that it stands in. -/
def shortField : Bytes :=
  [0x2a, 0x1d, 0x08, 0x01, 0x10, 0x01, 0x1a, 0x01, 0x01, 0x22, 0x14] ++ List.replicate 20 1

/-- It is framed into a stream whose payload is no message, and cut out again. -/
theorem strip_attach_shortBlock :
    attach [0x08, 0x01, 0x10, 0x01, 0x1a, 0x02, 0xff, 0xff] shortBlock =
        .ok ([0x08, 0x01, 0x10, 0x01, 0x1a, 0x02, 0xff, 0xff] ++ shortField) ∧
      strip ([0x08, 0x01, 0x10, 0x01, 0x1a, 0x02, 0xff, 0xff] ++ shortField) =
        .ok [0x08, 0x01, 0x10, 0x01, 0x1a, 0x02, 0xff, 0xff] ∧
      strip [0x08, 0x01, 0x10, 0x01, 0x1a, 0x02, 0xff, 0xff] =
        .ok [0x08, 0x01, 0x10, 0x01, 0x1a, 0x02, 0xff, 0xff] := by
  have hattach : attach [0x08, 0x01, 0x10, 0x01, 0x1a, 0x02, 0xff, 0xff] shortBlock =
      .ok ([0x08, 0x01, 0x10, 0x01, 0x1a, 0x02, 0xff, 0xff] ++ shortField) := by
    cbv
  have hstrip := (strip_attach.1 _ _ _ hattach (by decide)).1
  exact ⟨hattach, hstrip, (strip_attach.2 _ _ hstrip).1⟩

end Splice

end ChainClaim
