import ChainClaim.Proofs.Record.RoundTrip
import ChainClaim.Proofs.Record.Splicing

/-!
# What can become of a record

`Reachable` is every record there can be: one that is read, a blank one, one around a claim message,
a finished draft, a migrated one, and whatever any run of operations makes of these, failed ones
included. All of them are well-formed (`Reachable.wellFormed`), which is why what is written is read
back.
-/

namespace ChainClaim

open Record

/-- The records there can be. -/
inductive Reachable : Record → Prop where
  | ofBytes {b : Bytes} {r : Record} (h : Record.ofBytes b = .ok r) : Reachable r
  | ofHex {text : String} {r : Record} (h : Record.ofHex text = .ok r) : Reachable r
  | blank (v : Variant) : Reachable (Record.blank v)
  | ofClaim {claim : Claim} {r : Record} (h : Record.ofClaim claim = .ok r) : Reachable r
  | draft {v : Variant} {calls : List Draft.Call} {r : Record}
      (h : ((Draft.start v).calls calls).finish = .ok r) : Reachable r
  | repostDraft {claimHash : Bytes} {calls : List Draft.Call} {r : Record}
      (h : ((Draft.repost claimHash).calls calls).finish = .ok r) : Reachable r
  | migrate {r migrated : Record} (hr : Reachable r) (h : r.migrate = .ok migrated) :
      Reachable migrated
  | unsigned {r : Record} (hr : Reachable r) : Reachable r.unsigned
  | operation {r : Record} (operation : Operation) (hr : Reachable r) :
      Reachable (operation.edit.after r)

/-- Whatever is done to a record that can come about, one that can come about is left. Induction on
the operations. -/
theorem Reachable.run {r : Record} (hr : Reachable r) (operations : List Operation) :
    Reachable (r.run operations) := by
  induction operations generalizing r with
  | nil => exact hr
  | cons operation operations ih => exact ih (.operation operation hr)

/-- Induction on how a record came about. -/
theorem Reachable.wellFormed {r : Record} (hr : Reachable r) : r.WellFormed := by
  induction hr with
  | ofBytes h => exact ofBytes_wellFormed h
  | ofHex h =>
    unfold Record.ofHex at h
    split at h
    · cases h
    · exact ofBytes_wellFormed h
  | blank v => exact blank_wellFormed v
  | ofClaim h => exact ofClaim_wellFormed h
  | @draft v calls r h =>
    exact Draft.finish_wellFormed (Draft.calls_wellFormed calls (blank_wellFormed v)) h
  | @repostDraft claimHash calls r h =>
    -- the claim that is reposted is set by an edit as well
    have hstart : (Draft.repost claimHash).record.WellFormed :=
      Draft.apply_wellFormed (editRepost_makes ({ · with claimHash })).keeps
        (blank_wellFormed .repost)
    exact Draft.finish_wellFormed (Draft.calls_wellFormed calls hstart) h
  | migrate _ h ih => exact migrate_wellFormed ih h
  | unsigned _ ih => exact unsigned_wellFormed ih
  | operation operation _ ih => exact operation.keeps _ ih

theorem Reachable.wellFormed_of_run {r left : Record} (hr : Reachable r) (operation : Operation)
    (h : operation.edit.run r = .ok () left) : left.WellFormed := by
  have hafter := (hr.operation operation).wellFormed
  rw [Edit.after, h] at hafter
  exact hafter

theorem PublicKey.ofDer_eq_error {der : Bytes} {e : Error} (h : ofDer der = .error e) :
    ∃ fault, e = .badKey fault := by
  unfold ofDer at h
  split at h
  · cases h
    exact ⟨_, rfl⟩
  split at h
  · cases h
    exact ⟨_, rfl⟩
  split at h
  · cases h
    exact ⟨_, rfl⟩
  · cases h

/-- Only second-generation channels have keys that can be refused. -/
theorem Record.WellFormed.of_refusesKey {r : Record} (hr : r.WellFormed) {e : Error}
    (h : r.RefusesKey e) :
    r.generation = .v2 ∧ r.variant = .channel ∧ ∃ fault, e = .badKey fault := by
  obtain ⟨channel, details, hcontent, -, hkey⟩ := h
  -- a certificate keeps its key as it was read, and is not asked for it again
  cases hr with
  | current claim kind signature hkind _ =>
    cases hcontent
    cases hkind
    exact ⟨rfl, rfl, PublicKey.ofDer_eq_error hkey⟩
  | stream | certificate => cases hcontent

/-- A record that can come about is written unless it is a second-generation channel with a key that
is none, and is read back from the bytes it is written as. Lengths are 64-bit numbers, in a claim as
in memory. -/
theorem Reachable.ofBytes_toBytes {r : Record} (hr : Reachable r) :
    (∀ e, r.toBytes = .error e ↔ r.RefusesKey e) ∧
      (∀ e, r.RefusesKey e →
        r.generation = .v2 ∧ r.variant = .channel ∧ ∃ fault, e = .badKey fault) ∧
      ((∀ e, ¬r.RefusesKey e) →
        ∃ b, r.toBytes = .ok b ∧ (b.length < 2 ^ 64 → Record.ofBytes b = .ok r)) := by
  refine ⟨fun e => toBytes_eq_error_iff, fun e => hr.wellFormed.of_refusesKey, fun hkey => ?_⟩
  cases hpayload : r.payload with
  | error e => exact absurd (payload_eq_error_iff.mp hpayload) (hkey e)
  | ok p => exact hr.wellFormed.readsBack hpayload

/-- A blank stream that is given a title. -/
def titledStream : Record := (Operation.setTitle "a").edit.after (Record.blank .stream)

theorem toBytes_titledStream : titledStream.toBytes = .ok [0x00, 0x0a, 0x00, 0x42, 0x01, 0x61] := by
  have hfields : Claim.format.fields
      { kind := some (.stream {}), details := { title := "a" } } =
        [(1, .delimited []), (8, .delimited [0x61])] := by
    rfl
  show Except.ok (0x00 :: writeFields (Claim.format.fields
    { kind := some (.stream {}), details := { title := "a" } })) = _
  -- varints are written by recursion on their value, so they are unfolded one by one
  rw [hfields, writeFields_cons, writeFields_cons, writeFields_nil, writeField, writeField,
    writeKey, writeKey, FieldValue.write, FieldValue.write, Varint.write_of_lt (by decide),
    Varint.write_of_lt (by decide), Varint.write_of_lt (by decide), Varint.write_of_lt (by decide)]
  rfl

/-- It is written in six bytes and read back from them. -/
theorem ofBytes_toBytes_titledStream :
    Reachable titledStream ∧ (∀ e, ¬titledStream.RefusesKey e) ∧
      Record.ofBytes [0x00, 0x0a, 0x00, 0x42, 0x01, 0x61] = .ok titledStream := by
  have hr : Reachable titledStream := .operation (.setTitle "a") (.blank .stream)
  have hkey : ∀ e, ¬titledStream.RefusesKey e := by
    rintro e ⟨channel, details, hcontent, -⟩
    cases hcontent
  obtain ⟨b, hb, hread⟩ := hr.ofBytes_toBytes.2.2 hkey
  rw [toBytes_titledStream] at hb
  cases hb
  exact ⟨hr, hkey, hread (by decide)⟩

/-!
## What the parts of a record say of each other

A record keeps generation, standing and variant beside the content that they are told from, and a
reader may ask any of them. `Coherent` lists what a reader may conclude from one part about the
others. It holds of every record that can come about (`Reachable.coherent`): each way of making a
record and each operation, failed ones included, keeps to one of three shapes, and the shapes are
coherent.
-/

/-- The variant of some content, if there is one. -/
def Content.variant? : Content → Option Variant
  | .current claim => claim.kind.map Kind.variant
  | .legacyStream _ => some .stream
  | .legacyCertificate _ => some .channel

namespace Record

/-- Reads a record as one of a variant, and forgets what was read. -/
def readAs (r : Record) : Variant → Except Error Unit
  | .stream => r.stream.map fun _ => ()
  | .channel => r.channel.map fun _ => ()
  | .collection => r.collection.map fun _ => ()
  | .repost => r.repost.map fun _ => ()

/-- Content is read as one of its own variant and of no other. -/
theorem readAs_eq {r : Record} {own : Variant} (h : r.content.variant? = some own) (v : Variant) :
    r.readAs v = if v = own then .ok () else .error (.variantMismatch v r.variant) := by
  obtain ⟨generation, standing, variant, content, signature⟩ := r
  cases content with
  | current claim =>
    -- a message without content has no variant, which `h` excludes
    obtain ⟨kind, details⟩ := claim
    obtain ⟨kind, rfl, rfl⟩ := Option.map_eq_some_iff.mp h
    cases kind with
    | stream | channel | collection | repost => cases v <;> rfl
  | legacyStream | legacyCertificate =>
    cases h
    cases v <;> rfl

/-- What the parts of a record say of each other. -/
structure Coherent (r : Record) : Prop where
  signature_iff_signed : r.signature.isSome ↔ r.standing = .signed
  legacy_iff_certificate : r.standing = .legacy ↔ ∃ c, r.content = .legacyCertificate c
  v2_iff_current : r.generation = .v2 ↔
    ∃ claim kind, r.content = .current claim ∧ claim.kind = some kind
  variant_of_v1 : r.generation = .v1 → r.variant = .stream ∨ r.variant = .channel
  variant_eq : r.content.variant? = some r.variant
  signature_of_v2 : r.generation = .v2 → ∀ block, r.signature = some block →
    block.keyKind = .secp256k1 ∧ block.signature.length = 64
  readAs_own : r.readAs r.variant = .ok ()
  readAs_other : ∀ v, v ≠ r.variant → r.readAs v = .error (.variantMismatch v r.variant)

/-- The variant that a record keeps is that of its content. -/
theorem WellFormed.variant?_content {r : Record} (hr : r.WellFormed) :
    r.content.variant? = some r.variant := by
  cases hr with
  | current claim kind signature hkind _ => exact Option.map_eq_some_iff.mpr ⟨kind, hkind, rfl⟩
  | stream | certificate => rfl

end Record

/-- The parts of a record agree, however it came about. -/
theorem Reachable.coherent {r : Record} (hr : Reachable r) : r.Coherent where
  signature_iff_signed := hr.wellFormed.isSome_signature_iff
  legacy_iff_certificate := hr.wellFormed.legacy_iff
  v2_iff_current := hr.wellFormed.v2_iff
  variant_of_v1 := hr.wellFormed.variant_of_v1
  variant_eq := hr.wellFormed.variant?_content
  signature_of_v2 h block hsignature :=
    have hfits := hr.wellFormed.fitsHeader h hsignature
    ⟨hfits.keyKind, hfits.length⟩
  readAs_own := by rw [Record.readAs_eq hr.wellFormed.variant?_content, if_pos rfl]
  readAs_other v hv := by rw [Record.readAs_eq hr.wellFormed.variant?_content, if_neg hv]

/-- A blank stream that is given a title, then an e-mail address in vain, and then a signature. -/
def signedStream : Record :=
  (Record.blank .stream).run [.setTitle "a", .setEmail "b", .attach Record.zeroBlock]

/-- It can come about, so its parts agree. -/
theorem coherent_signedStream :
    Reachable signedStream ∧ signedStream.Coherent ∧ signedStream.standing = .signed ∧
      signedStream.readAs .channel = .error (.variantMismatch .channel .stream) := by
  have hr : Reachable signedStream := (Reachable.blank .stream).run _
  exact ⟨hr, hr.coherent, rfl, hr.coherent.readAs_other .channel nofun⟩

end ChainClaim
