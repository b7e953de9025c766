import ChainClaim.Envelope
import ChainClaim.Proofs.Wire.Framing

/-!
# The grammar of envelopes

`Derives` says what claims look like from outside, as a grammar over fields in their written form
and without a reader: two productions for prefixed envelopes, three for flat ones. The reader
accepts exactly this grammar (`read_sound`, `read_of_derives`), and what it tells of a claim is what
the production says.

The payload of a prefixed envelope is read field by field, with the variant that was found so far
and the first reserved number as the state. Acceptance is settled by the last state alone, so the
walk is described by what it has seen when it ends (`foldlM_observe_sound`,
`foldlM_observe_complete`).
-/

namespace ChainClaim

/-! ## Payloads of prefixed envelopes -/

/-- The numbers of variant fields. -/
def isVariantNumber (number : Nat) : Bool := 1 ≤ number && number ≤ 4

/-- The numbers that are kept for variants to come. -/
def isReservedNumber (number : Nat) : Bool := 5 ≤ number && number ≤ 7

/-- The fields of a prefixed payload: each has a frame, exactly one is a variant field, which holds
a delimited value, and none has a reserved number. -/
structure IsPayload (variant : Variant) (fields : List (Nat × FieldValue)) : Prop where
  framed : ∀ field ∈ fields, WellFramed field
  one_variant : ∃ body,
    fields.filter (isVariantNumber ·.1) = [(variant.fieldNumber, .delimited body)]
  no_reserved : ∀ field ∈ fields, isReservedNumber field.1 = false

/-! ## Productions -/

namespace Envelope

/-- The fields of a flat envelope before its signature. -/
def flatFields (type number : Nat) (body : Bytes) : List (Nat × FieldValue) :=
  [(1, .varint 1), (2, .varint type), (number, .delimited body)]

/-- The bytes of a flat envelope before its signature. -/
def flatBytes (type number : Nat) (body : Bytes) : Bytes :=
  writeFields (flatFields type number body)

/-- `Derives b env`: the bytes `b` are a claim, and `env` is what its framing tells. A length that
is written in a flat envelope is a 64-bit number, as everywhere in a frame. -/
inductive Derives : Bytes → Envelope → Prop where
  | unsigned (variant : Variant) (fields : List (Nat × FieldValue))
      (hfields : IsPayload variant fields) :
      Derives (0x00 :: writeFields fields)
        { generation := .v2, standing := .unsigned, variant, payload := writeFields fields
          signature := none, span := none }
  | signed (variant : Variant) (header : Bytes) (fields : List (Nat × FieldValue))
      (hheader : header.length = 84) (hfields : IsPayload variant fields) :
      Derives (0x01 :: (header ++ writeFields fields))
        { generation := .v2, standing := .signed, variant, payload := writeFields fields
          signature := some header, span := some ⟨1, 85⟩ }
  | flatStream (body : Bytes) (hbody : body.length < 2 ^ 64) :
      Derives (flatBytes 1 3 body)
        { generation := .v1, standing := .unsigned, variant := .stream, payload := body
          signature := none, span := none }
  | flatSigned (body block : Bytes) (hbody : body.length < 2 ^ 64)
      (hblock : block.length < 2 ^ 64) :
      Derives (flatBytes 1 3 body ++ writeField 5 (.delimited block))
        { generation := .v1, standing := .signed, variant := .stream, payload := body
          signature := some block
          span := some ⟨(flatBytes 1 3 body).length,
            (flatBytes 1 3 body ++ writeField 5 (.delimited block)).length⟩ }
  | flatCertificate (body : Bytes) (hbody : body.length < 2 ^ 64) :
      Derives (flatBytes 2 4 body)
        { generation := .v1, standing := .legacy, variant := .channel, payload := body
          signature := none, span := none }

/-- What is left of a signed claim when its signature is cut out, framing included. -/
def remainder (env : Envelope) : Bytes :=
  match env.generation with
  | .v1 => flatBytes 1 3 env.payload
  | .v2 => signedMarker :: env.payload

/-- Where the signature of a claim stands: it is there exactly if the claim is signed, and within
the claim, and around it stands the rest of the production. -/
structure Located (b : Bytes) (env : Envelope) : Prop where
  span_iff_signature : env.span.isSome ↔ env.signature.isSome
  signature_iff_signed : env.signature.isSome ↔ env.standing = .signed
  start_le_stop : ∀ span, env.span = some span → span.start ≤ span.stop
  stop_le_length : ∀ span, env.span = some span → span.stop ≤ b.length
  cut_eq : ∀ span, env.span = some span → span.cut b = env.remainder

end Envelope

/-! ## Variant fields -/

theorem Variant.ofFieldNumber?_eq_some {n : Nat} {v : Variant}
    (h : ofFieldNumber? n = some v) : n = v.fieldNumber := by
  unfold ofFieldNumber? at h
  split at h <;> cases h <;> rfl

theorem isVariantNumber_fieldNumber (v : Variant) : isVariantNumber v.fieldNumber = true := by
  cases v <;> rfl

theorem isVariantNumber_of_ofFieldNumber? {n : Nat} {v : Variant}
    (h : Variant.ofFieldNumber? n = some v) : isVariantNumber n = true := by
  rw [Variant.ofFieldNumber?_eq_some h]
  exact isVariantNumber_fieldNumber v

theorem isVariantNumber_of_ofFieldNumber?_eq_none {n : Nat}
    (h : Variant.ofFieldNumber? n = none) : isVariantNumber n = false := by
  unfold Variant.ofFieldNumber? at h
  split at h
  -- the last case knows the number only by what it is not
  case h_5 h1 h2 h3 h4 =>
    have : ¬(1 ≤ n ∧ n ≤ 4) := fun ⟨hlo, hhi⟩ => by
      have : n = 1 ∨ n = 2 ∨ n = 3 ∨ n = 4 := by omega
      rcases this with rfl | rfl | rfl | rfl <;> contradiction
    simpa [isVariantNumber] using this
  all_goals cases h

theorem FieldValue.wireType_eq_delimited {value : FieldValue} (h : value.wireType = .delimited) :
    ∃ body, value = .delimited body := by
  cases value with
  | delimited body => exact ⟨body, rfl⟩
  | varint | fixed64 | fixed32 => cases h

namespace Envelope

/-- A walk that ends with a variant and without a reserved number has seen no reserved number, and
exactly one variant field if none was found before it. Induction on the frames. -/
theorem foldlM_observe_sound {frames : List Frame} {before after : Signs} {v : Variant}
    (h : frames.foldlM Signs.observe before = .ok after) (hreserved : after.reserved = none)
    (hvariant : after.variant = some v) :
    before.reserved = none ∧ (∀ f ∈ frames, isReservedNumber f.number = false) ∧
      (before.variant = some v ∧ frames.filter (isVariantNumber ·.number) = [] ∨
        before.variant = none ∧ ∃ f body, frames.filter (isVariantNumber ·.number) = [f] ∧
          f.field = (v.fieldNumber, .delimited body)) := by
  induction frames generalizing before with
  | nil =>
    cases h
    exact ⟨hreserved, by simp, .inl ⟨hvariant, rfl⟩⟩
  | cons f frames ih =>
    rw [List.foldlM_cons] at h
    obtain ⟨signs, hobserve, h⟩ := Outcome.bind_eq_ok.mp h
    -- what the rest has seen is known; what is left is what this frame adds to it
    obtain ⟨hres, hnone, hrest⟩ := ih h
    rw [Signs.observe] at hobserve
    split at hobserve
    · next found hfound =>
      -- a variant field: it is the first one, and no other follows
      have hisvariant := isVariantNumber_of_ofFieldNumber? hfound
      have hnumber := Variant.ofFieldNumber?_eq_some hfound
      split at hobserve
      · cases hobserve
      next htype =>
      split at hobserve
      · cases hobserve
      next hfirst =>
      cases hobserve
      obtain ⟨body, hbody⟩ := FieldValue.wireType_eq_delimited (Decidable.not_not.mp htype)
      rcases hrest with ⟨hv, hfilter⟩ | ⟨hv, -⟩
      · obtain rfl : found = v := Option.some.inj hv
        refine ⟨hres, ?_, .inr ⟨by simpa using hfirst, f, body, ?_, ?_⟩⟩
        · refine List.forall_mem_cons.mpr ⟨?_, hnone⟩
          rw [hnumber]
          cases found <;> rfl
        · rw [List.filter_cons_of_pos (by simpa using hisvariant), hfilter]
        · rw [Frame.field, hnumber, hbody]
      · cases hv
    · next hfound =>
      -- any other field: a reserved number would be in the last state, where there is none
      have hisvariant := isVariantNumber_of_ofFieldNumber?_eq_none hfound
      rw [List.filter_cons_of_neg (by simpa using hisvariant)]
      split at hobserve
      · cases hobserve
        cases hres
      next hkept =>
      cases hobserve
      refine ⟨hres, List.forall_mem_cons.mpr ⟨?_, hnone⟩, hrest⟩
      have : ¬(5 ≤ f.number ∧ f.number ≤ 7) := by
        rintro ⟨hlo, hhi⟩
        exact hkept ⟨hlo, by omega, by simp [hres]⟩
      simpa [isReservedNumber] using this

/-- A walk over frames without variant fields and reserved numbers leaves its state as it is.
Induction on the frames. -/
theorem foldlM_observe_of_none {frames : List Frame} {signs : Signs}
    (hreserved : ∀ f ∈ frames, isReservedNumber f.number = false)
    (hvariant : frames.filter (isVariantNumber ·.number) = []) :
    frames.foldlM Signs.observe signs = .ok signs := by
  induction frames with
  | nil => rfl
  | cons f frames ih =>
    rw [List.forall_mem_cons] at hreserved
    rw [List.filter_eq_nil_iff, List.forall_mem_cons] at hvariant
    have hrest := ih hreserved.2 (List.filter_eq_nil_iff.mpr hvariant.2)
    have hother : Variant.ofFieldNumber? f.number = none := by
      cases hfound : Variant.ofFieldNumber? f.number with
      | none => rfl
      | some v => exact absurd (isVariantNumber_of_ofFieldNumber? hfound) hvariant.1
    have hfree : ¬(5 ≤ f.number ∧ f.number < 8 ∧ signs.reserved.isNone) := by
      rintro ⟨hlo, hhi, -⟩
      have := hreserved.1
      simp [isReservedNumber] at this
      omega
    rw [List.foldlM_cons, Signs.observe, hother]
    simp only [if_neg hfree, Outcome.ok_bind]
    exact hrest

/-- A walk over frames with one delimited variant field and without reserved numbers finds it.
Induction on the frames before it. -/
theorem foldlM_observe_complete {frames : List Frame} {f : Frame} {v : Variant} {body : Bytes}
    (hreserved : ∀ f ∈ frames, isReservedNumber f.number = false)
    (hvariant : frames.filter (isVariantNumber ·.number) = [f])
    (hfield : f.field = (v.fieldNumber, .delimited body)) :
    frames.foldlM Signs.observe {} = .ok { variant := some v } := by
  induction frames with
  | nil => cases hvariant
  | cons g frames ih =>
    rw [List.forall_mem_cons] at hreserved
    rw [List.foldlM_cons]
    cases hg : isVariantNumber g.number with
    | true =>
      -- the one variant field: behind it the walk changes nothing any more
      rw [List.filter_cons_of_pos (by simpa using hg)] at hvariant
      obtain ⟨rfl, hnone⟩ := List.cons.inj hvariant
      have hnumber : g.number = v.fieldNumber := congrArg Prod.fst hfield
      have hvalue : g.value = .delimited body := congrArg Prod.snd hfield
      have hobserve : Signs.observe {} g = .ok { variant := some v } := by
        rw [Signs.observe, hnumber, Variant.ofFieldNumber?_fieldNumber, hvalue]
        rfl
      rw [hobserve]
      exact foldlM_observe_of_none hreserved.2 hnone
    | false =>
      rw [List.filter_cons_of_neg (by simpa using hg)] at hvariant
      have hobserve : Signs.observe {} g = .ok {} := by
        -- one frame is a walk, too
        have hone : [g].foldlM Signs.observe {} = .ok {} :=
          foldlM_observe_of_none (by simpa using hreserved.1) (by simpa using hg)
        rw [List.foldlM_cons] at hone
        obtain ⟨signs, hsigns, hone⟩ := Outcome.bind_eq_ok.mp hone
        cases hone
        exact hsigns
      rw [hobserve]
      exact ih hreserved.2 hvariant

end Envelope

end ChainClaim
