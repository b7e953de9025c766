import ChainClaim.Proofs.Envelope.Reading
import ChainClaim.Proofs.Signature.Blocks
import ChainClaim.Record.Basic

/-!
# Content and its payload

Content is read from the payload that it is written as and from no other. The fields of a claim
message are those of a prefixed payload, and the variant that its framing shows is that of its
content, which ties what the envelope tells of a claim to what its payload holds.
-/

namespace ChainClaim

open Record

/-! ## Payloads in their own form -/

theorem Record.readCanonical_sound {α : Type} {part : Part} {f : Format α} {bytes : Bytes} {a : α}
    (h : readCanonical part f bytes = .ok a) : f.encode a = bytes := by
  unfold readCanonical at h
  split at h
  · cases h
  next message hmessage =>
  split at h
  · cases h
  next hcanonical =>
  cases h
  exact Decidable.not_not.mp fun hne => hcanonical (.inr hne)

theorem Record.readCanonical_encode {α : Type} {f : Format α} {depth : Nat} {a : α} (part : Part)
    (hf : f.Lawful depth) (hdepth : depth ≤ Format.maxNesting)
    (hlen : (f.encode a).length < 2 ^ 64) : readCanonical part f (f.encode a) = .ok a := by
  -- two things are checked, and the reckoned size is compared first
  have hcanonical : ¬(f.size a ≠ (f.encode a).length ∨ f.encode a ≠ f.encode a) := by
    rintro (h | h)
    · exact h (hf.size_eq a)
    · exact h rfl
  rw [readCanonical, hf.decode_encode hdepth hlen]
  exact if_neg hcanonical

/-! ## Claim messages as payloads -/

theorem Variant.fieldNumber_inj {v w : Variant} (h : v.fieldNumber = w.fieldNumber) : v = w := by
  have := congrArg ofFieldNumber? h
  rw [ofFieldNumber?_fieldNumber, ofFieldNumber?_fieldNumber] at this
  exact Option.some.inj this

/-- Content stands in the field of its variant. -/
theorem Kind.fields_eq (kind : Kind) :
    ∃ body, Kind.format.fields (some kind) = [(kind.variant.fieldNumber, .delimited body)] := by
  cases kind with
  | stream | channel | collection | repost => exact ⟨_, rfl⟩

/-- What every claim may have stands behind the variants and the numbers that are kept. -/
theorem Details.number_ge {details : Details} {field : Nat × FieldValue}
    (h : field ∈ Details.format.fields details) : 8 ≤ field.1 := by
  have hfaithful : Details.format.Faithful 1 := Details.format_faithful
  have hnumbers : ∀ n ∈ Details.format.numbers, 8 ≤ n := by decide
  exact hnumbers _ (hfaithful.number_mem details field h)

theorem Claim.fields_eq (claim : Claim) :
    Claim.format.fields claim =
      Kind.format.fields claim.kind ++ Details.format.fields claim.details := rfl

theorem Details.filter_isVariantNumber (details : Details) :
    (Details.format.fields details).filter (isVariantNumber ·.1) = [] := by
  rw [List.filter_eq_nil_iff]
  intro field hfield
  have := Details.number_ge hfield
  simp [isVariantNumber]
  omega

/-- The variant field of a claim message, by its content. -/
theorem Claim.filter_isVariantNumber (claim : Claim) :
    (Claim.format.fields claim).filter (isVariantNumber ·.1) =
      Kind.format.fields claim.kind := by
  rw [Claim.fields_eq, List.filter_append, Details.filter_isVariantNumber, List.append_nil,
    List.filter_eq_self]
  intro field hfield
  cases hkind : claim.kind with
  | none => rw [hkind] at hfield; cases hfield
  | some kind =>
    -- the content is one field, so there is one number to look at
    obtain ⟨body, hfields⟩ := kind.fields_eq
    rw [hkind, hfields] at hfield
    obtain rfl := List.mem_singleton.mp hfield
    exact isVariantNumber_fieldNumber kind.variant

/-- A claim message with content is a payload of the variant of its content. -/
theorem Claim.isPayload {claim : Claim} {kind : Kind} (hkind : claim.kind = some kind)
    (hlen : (Claim.format.encode claim).length < 2 ^ 64) :
    IsPayload kind.variant (Claim.format.fields claim) := by
  have hlawful : Claim.format.Lawful 3 := Claim.format_lawful
  refine ⟨hlawful.wellFramed hlen, ?_, ?_⟩
  · obtain ⟨body, hfields⟩ := kind.fields_eq
    exact ⟨body, by rw [Claim.filter_isVariantNumber, hkind, hfields]⟩
  · -- the numbers that are kept for later lie between those of the two parts
    intro field hfield
    rw [Claim.fields_eq, hkind] at hfield
    obtain ⟨body, hfields⟩ := kind.fields_eq
    rcases List.mem_append.mp hfield with hfield | hfield
    · rw [hfields] at hfield
      obtain rfl := List.mem_singleton.mp hfield
      cases kind with
      | stream | channel | collection | repost => rfl
    · have := Details.number_ge hfield
      simp [isReservedNumber]
      omega

/-- A payload that is a claim message has the variant of its content. Fields are told by their
bytes, so the fields of the payload are those of the message. -/
theorem Claim.kind_of_isPayload {claim : Claim} {v : Variant} {fields : List (Nat × FieldValue)}
    (hfields : IsPayload v fields) (hencode : Claim.format.encode claim = writeFields fields) :
    ∃ kind, claim.kind = some kind ∧ kind.variant = v := by
  have hlawful : Claim.format.Lawful 3 := Claim.format_lawful
  have hsame : Claim.format.fields claim = fields :=
    writeFields_inj (hlawful.shaped claim) (fun field h => (hfields.framed field h).shaped) hencode
  obtain ⟨body, hvariant⟩ := hfields.one_variant
  -- the one variant field of the payload is the field of the content
  rw [← hsame, Claim.filter_isVariantNumber] at hvariant
  cases hkind : claim.kind with
  | none => rw [hkind] at hvariant; cases hvariant
  | some kind =>
    obtain ⟨body, hkindFields⟩ := kind.fields_eq
    rw [hkind, hkindFields] at hvariant
    have hnumber := congrArg Prod.fst (List.singleton_inj.mp hvariant)
    exact ⟨kind, rfl, Variant.fieldNumber_inj hnumber⟩

/-! ## Reading content -/

/-- A certificate whose key, if it is of the kind that is checked, is a point of the curve. -/
def Legacy.Certificate.KeyValid (certificate : Legacy.Certificate) : Prop :=
  KeyKind.ofCode? certificate.keyType = some .secp256k1 →
    ∃ key, PublicKey.ofDer certificate.publicKey = .ok key

theorem Record.readCurrent_sound {payload : Bytes} {content : Content}
    (h : readCurrent payload = .ok content) :
    ∃ claim, content = .current claim ∧ Claim.format.encode claim = payload ∧
      checkKey claim = .ok () := by
  obtain ⟨claim, hclaim, h⟩ := Outcome.bind_eq_ok.mp h
  obtain ⟨⟨⟩, hkey, h⟩ := Outcome.bind_eq_ok.mp h
  cases h
  exact ⟨claim, rfl, readCanonical_sound hclaim, hkey⟩

theorem Record.readCurrent_encode {claim : Claim} (hkey : checkKey claim = .ok ())
    (hlen : (Claim.format.encode claim).length < 2 ^ 64) :
    readCurrent (Claim.format.encode claim) = .ok (.current claim) := by
  have hlawful : Claim.format.Lawful 3 := Claim.format_lawful
  rw [readCurrent, readCanonical_encode .claim hlawful (by decide) hlen, Outcome.ok_bind, hkey]
  rfl

theorem Record.readCertificate_sound {payload : Bytes} {content : Content}
    (h : readCertificate payload = .ok content) :
    ∃ certificate, content = .legacyCertificate certificate ∧
      Legacy.Certificate.format.encode certificate = payload ∧ certificate.KeyValid := by
  obtain ⟨certificate, hcertificate, h⟩ := Outcome.bind_eq_ok.mp h
  have hencode := readCanonical_sound hcertificate
  split at h
  · obtain ⟨key, hkey, h⟩ := Outcome.bind_eq_ok.mp h
    cases h
    exact ⟨certificate, rfl, hencode, fun _ => ⟨key, hkey⟩⟩
  next hkind =>
    -- a key of another kind is kept as it is
    cases h
    exact ⟨certificate, rfl, hencode, fun h => absurd h hkind⟩

theorem Record.readCertificate_encode {certificate : Legacy.Certificate}
    (hvalid : certificate.KeyValid)
    (hlen : (Legacy.Certificate.format.encode certificate).length < 2 ^ 64) :
    readCertificate (Legacy.Certificate.format.encode certificate) =
      .ok (.legacyCertificate certificate) := by
  have hlawful : Legacy.Certificate.format.Lawful 0 := Legacy.Certificate.format_lawful
  rw [readCertificate, readCanonical_encode .certificate hlawful (by decide) hlen,
    Outcome.ok_bind]
  by_cases hkind : KeyKind.ofCode? certificate.keyType = some .secp256k1
  · obtain ⟨key, hkey⟩ := hvalid hkind
    rw [if_pos hkind, hkey]
    rfl
  · rw [if_neg hkind]
    rfl

end ChainClaim
