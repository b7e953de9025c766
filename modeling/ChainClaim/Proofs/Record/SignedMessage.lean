import ChainClaim.Proofs.Record.Reachable
import ChainClaim.Proofs.Record.Runs
import ChainClaim.Record.Edit

/-!
# What a signature covers

The message that is signed joins three parts without a mark between them: the binding, the channel
and what the record covers. A channel id has twenty bytes, so the cuts are known once the length of
the binding is (`messageOf_inj`). Content is told by what it covers (`signable_eq_iff`): no edit to
any field of a message leaves the signed message as it was (`Reachable.signedMessage_eq_iff`).

Addresses have one length, outpoints may have any. Where the lengths of two outpoints differ, the
longer one can take in bytes of the other's channel and payload
(`Reachable.signedMessage_parts_eq_iff`).
-/

namespace ChainClaim

open Record Envelope

/-! ## The parts of the message -/

/-- The bindings that records of a generation are signed for. -/
inductive Binding.Fits : Binding → Generation → Prop where
  | claimAddress (address : Bytes) (hlength : address.length = 25) :
      Fits (.claimAddress address) .v1
  | firstInput (outpoint : Bytes) : Fits (.firstInput outpoint) .v2

/-- The bytes that are taken from the transaction. -/
def Binding.bytes : Binding → Bytes
  | .claimAddress address => address
  | .firstInput outpoint => outpoint

theorem Binding.Fits.bytes_inj {a b : Binding} {generation : Generation} (ha : a.Fits generation)
    (hb : b.Fits generation) (h : a.bytes = b.bytes) : a = b := by
  cases ha with
  | claimAddress address _ => cases hb; exact congrArg Binding.claimAddress h
  | firstInput outpoint => cases hb; exact congrArg Binding.firstInput h

theorem ClaimId.bytes_inj {c d : ClaimId} (h : c.bytes = d.bytes) : c = d := by
  have hread := ofBytes?_bytes c
  rw [h, ofBytes?_bytes] at hread
  exact (Option.some.inj hread).symm

theorem ClaimId.claimHash_inj {c d : ClaimId} (h : c.claimHash = d.claimHash) : c = d :=
  bytes_inj (List.reverse_injective h)

/-- The message that is signed, by its parts: binding, channel and what is covered. -/
def messageOf (generation : Generation) (binding : Bytes) (channelId : ClaimId) (covered : Bytes) :
    Bytes :=
  match generation with
  | .v1 => binding ++ covered ++ channelId.bytes
  | .v2 => binding ++ channelId.claimHash ++ covered

/-- A message is made exactly for the bindings of the record's generation. -/
theorem Record.signedMessage_eq_ok_iff {r : Record} {channelId : ClaimId} {binding : Binding}
    {m : Bytes} :
    r.signedMessage channelId binding = .ok m ↔ binding.Fits r.generation ∧
      m = messageOf r.generation binding.bytes channelId r.signable := by
  obtain ⟨generation, standing, variant, content, signature⟩ := r
  constructor
  · intro h
    cases generation with
    | v1 =>
      cases binding with
      | claimAddress address =>
        -- only addresses are measured
        dsimp only [signedMessage] at h
        split at h
        · cases h
        next hlength =>
        cases h
        exact ⟨.claimAddress address (Decidable.not_not.mp hlength), rfl⟩
      | firstInput outpoint => cases h
    | v2 =>
      cases binding with
      | claimAddress address => cases h
      | firstInput outpoint =>
        cases h
        exact ⟨.firstInput outpoint, rfl⟩
  · rintro ⟨hfits, rfl⟩
    cases hfits with
    | claimAddress address hlength => exact if_neg (not_not_intro hlength)
    | firstInput outpoint => rfl

theorem length_messageOf (generation : Generation) (binding : Bytes) (channelId : ClaimId)
    (covered : Bytes) :
    (messageOf generation binding channelId covered).length =
      binding.length + 20 + covered.length := by
  cases generation with
  | v1 =>
    rw [messageOf, List.length_append, List.length_append, channelId.length_eq]
    omega
  | v2 => rw [messageOf, List.length_append, List.length_append, channelId.length_claimHash]

/-- Messages with bindings of one length are told by their parts, since channels have one length,
too. -/
theorem messageOf_inj {generation : Generation} {a b : Bytes} {c d : ClaimId} {p q : Bytes}
    (hlength : a.length = b.length) (h : messageOf generation a c p = messageOf generation b d q) :
    a = b ∧ c = d ∧ p = q := by
  cases generation with
  | v1 =>
    -- the channel stands at the end here, and is cut off from behind
    obtain ⟨hfront, hid⟩ := List.append_inj' h (c.length_eq.trans d.length_eq.symm)
    obtain ⟨hab, hcovered⟩ := List.append_inj hfront hlength
    exact ⟨hab, ClaimId.bytes_inj hid, hcovered⟩
  | v2 =>
    rw [messageOf, messageOf, List.append_assoc, List.append_assoc] at h
    obtain ⟨hab, h⟩ := List.append_inj h hlength
    obtain ⟨hhash, hcovered⟩ := List.append_inj h (c.length_claimHash.trans d.length_claimHash.symm)
    exact ⟨hab, ClaimId.claimHash_inj hhash, hcovered⟩

/-- Of two second-generation messages that are the same, the one with the longer binding covers an
end of what the other one covers. -/
theorem suffix_of_messageOf_eq {a b : Bytes} {c d : ClaimId} {p q : Bytes}
    (hlength : a.length ≤ b.length) (h : messageOf .v2 a c p = messageOf .v2 b d q) : q <:+ p := by
  -- both are ends of the one message, so the shorter one is an end of the longer one
  have hp : p <:+ messageOf .v2 a c p := List.suffix_append _ p
  have hq : q <:+ messageOf .v2 a c p := h ▸ List.suffix_append _ q
  have htotal := congrArg List.length h
  rw [length_messageOf, length_messageOf] at htotal
  exact List.suffix_of_suffix_length_le hq hp (by omega)

/-! ## Content is told by what it covers -/

theorem Envelope.shaped_flatFields {type number : Nat} {body : Bytes} (htype : type < 2 ^ 64) :
    ∀ field ∈ flatFields type number body, field.2.Shaped := by
  intro field hfield
  simp only [flatFields, List.mem_cons, List.not_mem_nil, or_false] at hfield
  rcases hfield with rfl | rfl | rfl
  · show 1 < 2 ^ 64
    decide
  · exact htype
  · trivial

/-- A flat envelope is told by its bytes, however long its body is. -/
theorem Envelope.flatBytes_inj {type other number field : Nat} {body trailer : Bytes}
    (htype : type < 2 ^ 64) (hother : other < 2 ^ 64)
    (h : flatBytes type number body = flatBytes other field trailer) :
    type = other ∧ body = trailer := by
  -- written fields are told apart whatever their lengths, so none is bounded here
  have hfields := writeFields_inj (shaped_flatFields htype) (shaped_flatFields hother) h
  simp only [flatFields, List.cons.injEq, Prod.mk.injEq, FieldValue.varint.injEq,
    FieldValue.delimited.injEq] at hfields
  exact ⟨hfields.2.1.2, hfields.2.2.1.2⟩

theorem Record.signable_stream {standing : Standing} {stream : Legacy.Stream}
    {signature : Option Block} :
    signable ⟨.v1, standing, .stream, .legacyStream stream, signature⟩ =
      flatBytes 1 3 (Legacy.Stream.format.encode stream) :=
  (wrap_stream _ none).trans (List.append_nil _)

theorem Record.signable_certificate {standing : Standing} {certificate : Legacy.Certificate}
    {signature : Option Block} :
    signable ⟨.v1, standing, .channel, .legacyCertificate certificate, signature⟩ =
      flatBytes 2 4 (Legacy.Certificate.format.encode certificate) :=
  wrap_certificate _

/-- Records of one generation cover the same bytes exactly if they have the same content. The
content of the first generation is covered with its envelope, which tells streams from
certificates. -/
theorem Record.WellFormed.signable_eq_iff {r s : Record} (hr : r.WellFormed) (hs : s.WellFormed)
    (hgeneration : r.generation = s.generation) :
    r.signable = s.signable ↔ r.content = s.content := by
  cases hr with
  | current claim kind signature _ _ =>
    cases hs with
    | current other otherKind otherSignature _ _ =>
      -- no envelope is covered here, and the message alone is told by its bytes
      refine ⟨fun h => ?_, fun h => congrArg Content.encode h⟩
      have hlawful : Claim.format.Lawful 3 := Claim.format_lawful
      exact congrArg Content.current (hlawful.encode_inj h)
    | stream | certificate => cases hgeneration
  | stream stream signature =>
    cases hs with
    | current => cases hgeneration
    | stream other otherSignature =>
      rw [signable_stream, signable_stream]
      refine ⟨fun h => ?_, fun h => by rw [Content.legacyStream.inj h]⟩
      obtain ⟨-, hencode⟩ := flatBytes_inj (by decide) (by decide) h
      have hlawful : Legacy.Stream.format.Lawful 2 := Legacy.Stream.format_lawful
      exact congrArg Content.legacyStream (hlawful.encode_inj hencode)
    | certificate other _ =>
      -- one content or not, the claim types before it differ
      rw [signable_stream, signable_certificate]
      refine iff_of_false (fun h => ?_) nofun
      cases (flatBytes_inj (by decide) (by decide) h).1
  | certificate certificate _ =>
    cases hs with
    | current => cases hgeneration
    | stream other otherSignature =>
      rw [signable_certificate, signable_stream]
      refine iff_of_false (fun h => ?_) nofun
      cases (flatBytes_inj (by decide) (by decide) h).1
    | certificate other _ =>
      rw [signable_certificate, signable_certificate]
      refine ⟨fun h => ?_, fun h => by rw [Content.legacyCertificate.inj h]⟩
      obtain ⟨-, hencode⟩ := flatBytes_inj (by decide) (by decide) h
      have hlawful : Legacy.Certificate.format.Lawful 0 := Legacy.Certificate.format_lawful
      exact congrArg Content.legacyCertificate (hlawful.encode_inj hencode)

/-! ## Content -/

/-- Two records of one generation are signed with one message exactly if their content is the same,
whatever signatures they carry: every field of every message in them is covered. -/
theorem Reachable.signedMessage_eq_iff {r s : Record} (hr : Reachable r) (hs : Reachable s)
    (hgeneration : r.generation = s.generation) (channelId : ClaimId) {binding : Binding}
    (hbinding : binding.Fits r.generation) :
    ∃ m n, r.signedMessage channelId binding = .ok m ∧ s.signedMessage channelId binding = .ok n ∧
      (m = n ↔ r.content = s.content) := by
  have hother : binding.Fits s.generation := hgeneration ▸ hbinding
  refine ⟨_, _, signedMessage_eq_ok_iff.mpr ⟨hbinding, rfl⟩,
    signedMessage_eq_ok_iff.mpr ⟨hother, rfl⟩, ?_⟩
  rw [← hr.wellFormed.signable_eq_iff hs.wellFormed hgeneration, ← hgeneration]
  constructor
  · -- one binding for both, so its length is no question
    intro h
    obtain ⟨-, -, hcovered⟩ := messageOf_inj rfl h
    exact hcovered
  · intro h
    rw [h]

/-- An outpoint of zeros. -/
def zeroInput (length : Nat) : Binding := .firstInput (List.replicate length 0)

/-- An address of zeros. -/
def zeroAddress : Binding := .claimAddress (List.replicate 25 0)

/-- A short signature does not change what is signed of a blank stream, a title does. -/
theorem signedMessage_eq_iff_blank :
    (∃ m, (blankFlat none).signedMessage zeroBlock.channelId zeroAddress = .ok m ∧
      signedFlat.signedMessage zeroBlock.channelId zeroAddress = .ok m) ∧
    ∃ m n, (blank .stream).signedMessage zeroBlock.channelId (zeroInput 36) = .ok m ∧
      titledStream.signedMessage zeroBlock.channelId (zeroInput 36) = .ok n ∧ m ≠ n := by
  have hbare : Reachable (blankFlat none) := by
    refine .ofBytes (b := blankFlatBytes) ?_
    have hread := ofBytes_blankFlat none [] rfl (by decide)
    rw [List.append_nil] at hread
    exact hread
  have hsigned : Reachable signedFlat := .ofBytes ofBytes_signedFlat
  have htitled : Reachable titledStream := .operation (.setTitle "a") (.blank .stream)
  constructor
  · obtain ⟨m, n, hm, hn, heq⟩ := hbare.signedMessage_eq_iff hsigned rfl zeroBlock.channelId
      (.claimAddress (List.replicate 25 0) (by decide))
    obtain rfl := heq.mpr rfl
    exact ⟨m, hm, hn⟩
  · obtain ⟨m, n, hm, hn, heq⟩ := Reachable.signedMessage_eq_iff (.blank .stream) htitled rfl
      zeroBlock.channelId (.firstInput _)
    refine ⟨m, n, hm, hn, fun h => ?_⟩
    have hcontent := Content.current.inj (heq.mp h)
    exact absurd (congrArg (·.details.title) hcontent) (by decide)

/-! ## Binding, channel and content -/

/-- Two records of one generation that are signed with one message are signed for one binding and
one channel and cover the same content, exactly if the bindings are of one length. Those of the
first generation are. A longer binding of the second generation takes in bytes of the other's
channel and payload, and what it covers is an end of what the other one covers. -/
theorem Reachable.signedMessage_parts_eq_iff {r s : Record} (hr : Reachable r) (hs : Reachable s)
    (hgeneration : r.generation = s.generation) {c d : ClaimId} {a b : Binding} {m : Bytes}
    (hm : r.signedMessage c a = .ok m) (hn : s.signedMessage d b = .ok m) :
    (a = b ∧ c = d ∧ r.signable = s.signable ∧ r.content = s.content ↔
        a.bytes.length = b.bytes.length) ∧
      (a.bytes.length ≠ b.bytes.length → r.generation = .v2) ∧
      (a.bytes.length < b.bytes.length →
        s.signable <:+ r.signable ∧
          s.signable.length + b.bytes.length = r.signable.length + a.bytes.length) := by
  obtain ⟨ha, rfl⟩ := signedMessage_eq_ok_iff.mp hm
  obtain ⟨hb, hmessage⟩ := signedMessage_eq_ok_iff.mp hn
  rw [← hgeneration] at hb hmessage
  have hcontent := hr.wellFormed.signable_eq_iff hs.wellFormed hgeneration
  -- addresses are of one length, so bindings that are not are outpoints
  have hv1 : a.bytes.length ≠ b.bytes.length → r.generation = .v2 := by
    intro hne
    cases hr1 : r.generation with
    | v2 => rfl
    | v1 =>
      rw [hr1] at ha hb
      cases ha with
      | claimAddress address haddress =>
        cases hb with
        | claimAddress other hother => exact absurd (haddress.trans hother.symm) hne
  refine ⟨⟨?_, fun hlength => ?_⟩, hv1, fun hlength => ?_⟩
  · rintro ⟨rfl, -⟩
    rfl
  · -- the generation tells which kind of binding the bytes are
    obtain ⟨hbytes, hid, hcovered⟩ := messageOf_inj hlength hmessage
    exact ⟨ha.bytes_inj hb hbytes, hid, hcovered, hcontent.mp hcovered⟩
  · rw [hv1 (Nat.ne_of_lt hlength)] at hmessage
    have htotal := congrArg List.length hmessage
    rw [length_messageOf, length_messageOf] at htotal
    exact ⟨suffix_of_messageOf_eq (Nat.le_of_lt hlength) hmessage, by omega⟩

/-- A blank stream with a title that reads like the field of blank content. -/
def echoStream : Record := (Operation.setTitle "\n\x00").edit.after (blank .stream)

/-- The channel whose hash ends with the first four bytes of that stream's payload. -/
def echoChannelId : ClaimId := ⟨[0x02, 0x42, 0x00, 0x0a] ++ List.replicate 16 0, by decide⟩

theorem signable_echoStream : echoStream.signable = [0x0a, 0x00, 0x42, 0x02, 0x0a, 0x00] := by
  cbv

theorem signable_blank_stream : (blank .stream).signable = [0x0a, 0x00] := encode_blank_stream

/-- One message, signed for two bindings, two channels and two streams. -/
theorem signedMessage_echo :
    echoStream.signedMessage zeroBlock.channelId (zeroInput 36) =
        .ok (List.replicate 56 0 ++ [0x0a, 0x00, 0x42, 0x02, 0x0a, 0x00]) ∧
      (blank .stream).signedMessage echoChannelId (zeroInput 40) =
        .ok (List.replicate 56 0 ++ [0x0a, 0x00, 0x42, 0x02, 0x0a, 0x00]) := by
  constructor
  · refine signedMessage_eq_ok_iff.mpr ⟨.firstInput _, ?_⟩
    rw [signable_echoStream]
    rfl
  · refine signedMessage_eq_ok_iff.mpr ⟨.firstInput _, ?_⟩
    rw [signable_blank_stream]
    rfl

/-- The payload of the blank stream is the end of the title that echoes it. -/
theorem signedMessage_parts_echo :
    (blank .stream).signable <:+ echoStream.signable ∧
      (blank .stream).signable.length + 40 = echoStream.signable.length + 36 := by
  have hecho : Reachable echoStream := .operation (.setTitle "\n\x00") (.blank .stream)
  obtain ⟨hm, hn⟩ := signedMessage_echo
  exact (hecho.signedMessage_parts_eq_iff (.blank .stream) rfl hm hn).2.2 (by decide)

/-- A message does not tell what it is signed for: here it is two outpoints, two channels and two
payloads. -/
theorem signedMessage_not_binding :
    Reachable echoStream ∧ Reachable (blank .stream) ∧
      echoStream.generation = .v2 ∧ (blank .stream).generation = .v2 ∧
      ∃ m, echoStream.signedMessage zeroBlock.channelId (zeroInput 36) = .ok m ∧
        (blank .stream).signedMessage echoChannelId (zeroInput 40) = .ok m ∧
        zeroInput 36 ≠ zeroInput 40 ∧ zeroBlock.channelId ≠ echoChannelId ∧
        echoStream.signable ≠ (blank .stream).signable := by
  obtain ⟨hm, hn⟩ := signedMessage_echo
  refine ⟨.operation (.setTitle "\n\x00") (.blank .stream), .blank .stream, rfl, rfl, _, hm, hn,
    by decide, by decide, ?_⟩
  rw [signable_echoStream, signable_blank_stream]
  decide

end ChainClaim
