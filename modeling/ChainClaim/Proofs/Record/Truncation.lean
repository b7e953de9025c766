import ChainClaim.Proofs.Envelope.Truncation
import ChainClaim.Proofs.Record.Runs
import ChainClaim.Proofs.Schema.Prefixes

/-!
# Claims that are cut off

A fault that is not a truncation is final: the reader holds that no further bytes can mend it. It is
wrong about a claim that is cut off behind its header, before a payload begins. That is where the
framing is whole and says nothing of what is to follow, and there alone (`BareHeader`). Everywhere
else a claim that is cut off is a claim itself or found truncated (`WellFormed.cut`).
-/

namespace ChainClaim

open Envelope

/-- A claim that ends behind its header: a marker, with channel and signature if it tells of them,
or the first fields of a flat envelope. -/
inductive BareHeader : Bytes → Prop where
  | unsigned : BareHeader [0x00]
  | signed (header : Bytes) (hheader : header.length = 84) : BareHeader (0x01 :: header)
  | version : BareHeader [0x08, 0x01]
  | stream : BareHeader [0x08, 0x01, 0x10, 0x01]
  | certificate : BareHeader [0x08, 0x01, 0x10, 0x02]

namespace Record

/-- Bytes in which no final fault is found. -/
def Pending (bs : Bytes) : Prop :=
  ∀ e, ofBytes bs = .error e → e.isRetryable = true

theorem Pending.of_ok {bs : Bytes} {r : Record} (h : ofBytes bs = .ok r) : Pending bs := by
  intro e he
  rw [h] at he
  cases he

theorem Pending.of_error {bs : Bytes} {e : Error} (h : ofBytes bs = .error e)
    (he : e.isRetryable = true) : Pending bs := by
  intro other hother
  rw [h] at hother
  cases hother
  exact he

theorem pending_nil : Pending [] := .of_error rfl rfl

theorem ofBytes_eq_error_of_read {bs : Bytes} {e : Error} (h : Envelope.read bs = .error e) :
    ofBytes bs = .error e := by
  rw [ofBytes, h]
  rfl

/-! ## Prefixed claims -/

theorem readPrefixed_eq_error {buffer : Bytes} {start : Nat} {span : Option Span} {e : Error}
    (h : Frame.readFrom buffer start = .error e) : readPrefixed buffer start span = .error e := by
  rw [readPrefixed, h]
  rfl

/-- The payload of a claim that is cut off holds a claim message with the same content, unless it is
empty or truncated. -/
theorem payload_cut {claim : Claim} {kind : Kind} (hkind : claim.kind = some kind)
    (hlen : (Claim.format.encode claim).length < 2 ^ 64) {bs more : Bytes}
    (h : bs ++ more = Claim.format.encode claim) (pos : Nat) :
    bs = [] ∨ (∃ details, Claim.format.encode ⟨some kind, details⟩ = bs) ∨
      ∃ e, Frame.readAll pos bs = .error e ∧ e.isRetryable = true := by
  have hlawful : Claim.format.Lawful 3 := Claim.format_lawful
  rcases Frame.readAll_cut (hlawful.wellFramed hlen) h pos with ⟨fields, hprefix, rfl⟩ | hcut
  · obtain ⟨_, details⟩ := claim
    cases hkind
    obtain ⟨body, hbody⟩ := kind.fields_eq
    -- the content is the first field, what is behind it may end anywhere
    have hfields : ∀ details, Claim.format.fields ⟨some kind, details⟩ =
        (kind.variant.fieldNumber, .delimited body) :: Details.format.fields details := by
      intro details
      rw [Claim.fields_eq, hbody]
      rfl
    rw [hfields, List.prefix_cons_iff] at hprefix
    obtain rfl | ⟨rest, rfl, hrest⟩ := hprefix
    · exact .inl rfl
    · obtain ⟨other, hother⟩ := Details.format_prefixClosed details rest hrest
      refine .inr (.inl ⟨other, ?_⟩)
      rw [Format.encode, hfields, hother]
  · exact .inr (.inr hcut)

/-- A second-generation claim is read with other details, too. -/
theorem pending_of_details {claim : Claim} {kind : Kind} {signature : Option Block}
    (hkind : claim.kind = some kind)
    (hsignature : ∀ block, signature = some block → block.FitsHeader)
    (hkey : checkKey claim = .ok ()) {details : Details} {bs : Bytes}
    (hbs : bs = wrap .v2 kind.variant (Claim.format.encode ⟨some kind, details⟩) signature)
    (hlen : bs.length < 2 ^ 64) : Pending bs := by
  have hr := WellFormed.current ⟨some kind, details⟩ kind signature rfl hsignature
  -- the key of a channel is in its content, and the details do not matter to it
  have hcheck : checkKey ⟨some kind, details⟩ = .ok () := by
    rw [checkKey, hkind] at hkey
    exact hkey
  have hpayload : (checkKey ⟨some kind, details⟩).map
      (fun _ => Claim.format.encode ⟨some kind, details⟩) =
        .ok (Claim.format.encode ⟨some kind, details⟩) := by
    rw [hcheck]
    rfl
  exact .of_ok (ofBytes_of_framed_eq hr hpayload hbs.symm hlen)

theorem cut_unsigned {claim : Claim} {kind : Kind} (hkind : claim.kind = some kind)
    (hkey : checkKey claim = .ok ()) {bs more : Bytes}
    (h : bs ++ more = 0x00 :: Claim.format.encode claim) (hlen : (bs ++ more).length < 2 ^ 64) :
    BareHeader bs ∨ Pending bs := by
  have hwhole := congrArg List.length h
  rw [List.length_append] at hlen hwhole
  rw [List.length_cons] at hwhole
  cases bs with
  | nil => exact .inr pending_nil
  | cons marker bs =>
    rw [List.cons_append] at h
    obtain ⟨rfl, hpayload⟩ := List.cons.inj h
    -- behind the marker there is nothing, a claim with fewer details, or half a field
    rcases payload_cut hkind (by omega) hpayload 1 with rfl | ⟨details, rfl⟩ | ⟨e, hread, he⟩
    · exact .inl .unsigned
    · exact .inr (pending_of_details hkind (by simp) hkey (wrap_unsigned kind.variant _).symm
        (by omega))
    · exact .inr (.of_error (ofBytes_eq_error_of_read (readPrefixed_eq_error hread)) he)

/-- A signed claim that is cut off in its header is truncated. -/
theorem cut_signed {claim : Claim} {kind : Kind} {block : Block} (hkind : claim.kind = some kind)
    (hkey : checkKey claim = .ok ()) (hfits : block.FitsHeader) {bs more : Bytes}
    (h : bs ++ more = 0x01 :: (block.toHeader ++ Claim.format.encode claim))
    (hlen : (bs ++ more).length < 2 ^ 64) : BareHeader bs ∨ Pending bs := by
  have hheader := Block.length_toHeader hfits
  have hwhole := congrArg List.length h
  rw [List.length_append] at hlen hwhole
  rw [List.length_cons, List.length_append, hheader] at hwhole
  cases bs with
  | nil => exact .inr pending_nil
  | cons marker bs =>
    rw [List.cons_append] at h
    obtain ⟨rfl, hrest⟩ := List.cons.inj h
    have hread := read_signed bs
    by_cases hshort : (0x01 :: bs).length < headerLength
    · rw [if_pos hshort] at hread
      exact .inr (.of_error (ofBytes_eq_error_of_read hread) rfl)
    rw [if_neg hshort] at hread
    -- all of the header is there, so what is behind it is a part of the payload
    have hle : block.toHeader.length ≤ bs.length := by
      rw [hheader]
      exact Nat.le_of_succ_le_succ (Nat.not_lt.mp hshort)
    obtain ⟨q, rfl⟩ := List.prefix_of_prefix_length_le (List.prefix_append _ _)
      (hrest ▸ List.prefix_append bs more) hle
    rw [List.append_assoc] at hrest
    have hpayload := List.append_cancel_left hrest
    have hdrop : (0x01 :: (block.toHeader ++ q)).drop headerLength = q := List.drop_left' hheader
    rcases payload_cut hkind (by omega) hpayload headerLength with rfl | ⟨details, rfl⟩ |
      ⟨e, hall, he⟩
    · rw [List.append_nil]
      exact .inl (.signed _ hheader)
    · exact .inr (pending_of_details hkind (fun _ hblock => Option.some.inj hblock ▸ hfits) hkey
        rfl (by omega))
    · rw [readPrefixed_eq_error (by rw [Frame.readFrom, hdrop, hall])] at hread
      exact .inr (.of_error (ofBytes_eq_error_of_read hread) he)

/-! ## Flat claims -/

theorem readFlat_eq_error {buffer : Bytes} {e : Error}
    (h : Frame.readFrom buffer 0 = .error e) : readFlat buffer = .error e := by
  rw [readFlat, h]
  rfl

/-- The header of a flat claim behind its version or its claim type. -/
theorem bareHeader_flat {type : Nat} {v : Variant} {number : Nat}
    (htype : claimType type = .ok (v, number)) :
    BareHeader (writeFields [(1, .varint 1)]) ∧
      BareHeader (writeFields [(1, .varint 1), (2, .varint type)]) := by
  have hversion : writeFields [(1, .varint 1)] = [0x08, 0x01] := by cbv
  have hstream : writeFields [(1, .varint 1), (2, .varint 1)] = [0x08, 0x01, 0x10, 0x01] := by cbv
  have hcertificate : writeFields [(1, .varint 1), (2, .varint 2)] = [0x08, 0x01, 0x10, 0x02] := by
    cbv
  rw [hversion]
  rcases claimType_eq_ok htype with ⟨rfl, -⟩ | ⟨rfl, -⟩
  · rw [hstream]
    exact ⟨.version, .stream⟩
  · rw [hcertificate]
    exact ⟨.version, .certificate⟩

/-- A flat claim that is cut off ends in its header, is truncated, or has all of its body and some
of the fields behind it. -/
theorem cut_flat {type number : Nat} {body : Bytes} {v : Variant}
    {trailer : List (Nat × FieldValue)} (htype : claimType type = .ok (v, number))
    (hbody : body.length < 2 ^ 64) (htrailer : ∀ field ∈ trailer, WellFramed field)
    {bs more : Bytes} (h : bs ++ more = flatBytes type number body ++ writeFields trailer) :
    BareHeader bs ∨ Pending bs ∨
      ∃ fields, fields <+: trailer ∧ bs = flatBytes type number body ++ writeFields fields := by
  obtain ⟨hbare, hbareType⟩ := bareHeader_flat htype
  have hframed := wellFramed_flatFields_append htype hbody htrailer
  have hwhole : bs ++ more = writeFields (flatFields type number body ++ trailer) := by
    rw [h, writeFields_append]
    rfl
  rcases Frame.readAll_cut hframed hwhole 0 with ⟨fields, hprefix, rfl⟩ | ⟨e, hread, he⟩
  · -- the claim may end before each of the three fields up to its body, or behind them
    rw [flatFields, List.cons_append, List.cons_append, List.cons_append, List.nil_append,
      List.prefix_cons_iff] at hprefix
    obtain rfl | ⟨fields, rfl, hprefix⟩ := hprefix
    · exact .inr (.inl pending_nil)
    rw [List.prefix_cons_iff] at hprefix
    obtain rfl | ⟨fields, rfl, hprefix⟩ := hprefix
    · exact .inl hbare
    rw [List.prefix_cons_iff] at hprefix
    obtain rfl | ⟨fields, rfl, hprefix⟩ := hprefix
    · exact .inl hbareType
    · refine .inr (.inr ⟨fields, hprefix, ?_⟩)
      rw [flatBytes, ← writeFields_append]
      rfl
  · -- the first byte is the flat marker, so it is the flat reader that meets the truncation
    cases bs with
    | nil => exact .inr (.inl pending_nil)
    | cons marker bs =>
      rw [flatBytes_eq_cons, List.cons_append, List.cons_append] at h
      obtain ⟨rfl, -⟩ := List.cons.inj h
      have hflat : Envelope.read (flatMarker :: bs) = .error e := readFlat_eq_error hread
      exact .inr (.inl (.of_error (ofBytes_eq_error_of_read hflat) he))

/-- The fields behind the payload of a stream. -/
def trailer : Option Block → List (Nat × FieldValue)
  | none => []
  | some block => [(5, .delimited block.toFlat)]

theorem wrap_stream_eq (payload : Bytes) (signature : Option Block) :
    wrap .v1 .stream payload signature =
      flatBytes 1 3 payload ++ writeFields (trailer signature) := by
  rw [wrap_stream]
  cases signature with
  | none => rfl
  | some block => rw [trailer, writeFields_cons, writeFields_nil, List.append_nil]

theorem wellFramed_trailer {before : Bytes} {signature : Option Block}
    (h : (before ++ writeFields (trailer signature)).length < 2 ^ 64) :
    ∀ field ∈ trailer signature, WellFramed field := by
  intro field hfield
  cases signature with
  | none => cases hfield
  | some block =>
    obtain rfl := List.mem_singleton.mp hfield
    rw [trailer, writeFields_cons, writeFields_nil, List.append_nil] at h
    exact (wellFramed_delimited (by decide) (by decide)).mpr (FieldValue.fits_of_writeField h)

theorem prefix_trailer {signature : Option Block} {fields : List (Nat × FieldValue)}
    (h : fields <+: trailer signature) : ∃ other, fields = trailer other := by
  cases signature with
  | none => exact ⟨none, List.prefix_nil.mp h⟩
  | some block =>
    rcases Format.prefix_singleton_iff.mp h with rfl | rfl
    · exact ⟨none, rfl⟩
    · exact ⟨some block, rfl⟩

/-! ## Any claim -/

/-- A claim that is cut off is a claim or found truncated, unless it ends behind its header. -/
theorem WellFormed.cut {r : Record} (hr : r.WellFormed) {p : Bytes} (hpayload : r.payload = .ok p)
    {bs more : Bytes} (h : bs ++ more = r.framed) (hlen : (bs ++ more).length < 2 ^ 64) :
    BareHeader bs ∨ Pending bs := by
  have hwhole : r.framed.length < 2 ^ 64 := h ▸ hlen
  have hbody := Nat.lt_of_le_of_lt (length_encode_le_framed r) hwhole
  have hbs : bs.length < 2 ^ 64 := by
    rw [List.length_append] at hlen
    omega
  cases hr with
  | current claim kind signature hkind hsignature =>
    -- the whole claim was written, so its key was accepted
    have hkey := (payload_eq_ok hpayload).2 claim rfl
    cases signature with
    | none => exact cut_unsigned hkind hkey h hlen
    | some block => exact cut_signed hkind hkey (hsignature block rfl) h hlen
  | stream s signature =>
    rw [framed, wrap_stream_eq] at h hwhole
    rcases cut_flat (show claimType 1 = .ok (.stream, 3) from rfl) hbody
      (wellFramed_trailer hwhole) h with hbare | hpending | ⟨fields, hprefix, hfields⟩
    · exact .inl hbare
    · exact .inr hpending
    · -- all of the stream is there, with its signature or without
      obtain ⟨other, rfl⟩ := prefix_trailer hprefix
      rw [← wrap_stream_eq] at hfields
      exact .inr (.of_ok (ofBytes_of_framed_eq (.stream s other) rfl hfields.symm hbs))
  | certificate c hkey =>
    rw [framed, wrap_certificate, ← List.append_nil (flatBytes 2 4 _), ← writeFields_nil] at h
    rcases cut_flat (show claimType 2 = .ok (.channel, 4) from rfl) hbody (by simp) h with
      hbare | hpending | ⟨fields, hprefix, hfields⟩
    · exact .inl hbare
    · exact .inr hpending
    · -- nothing stands behind the body of a certificate
      rw [List.prefix_nil.mp hprefix, writeFields_nil, List.append_nil, ← wrap_certificate]
        at hfields
      exact .inr (.of_ok (ofBytes_of_framed_eq (.certificate c hkey) rfl hfields.symm hbs))

/-! ## Bare headers -/

/-- A payload without a frame has no variant. -/
theorem readPrefixed_of_drop_eq_nil {buffer : Bytes} {start : Nat} (span : Option Span)
    (h : buffer.drop start = []) :
    readPrefixed buffer start span = .error (.unknownVariant 0) := by
  rw [readPrefixed, Frame.readFrom, h, Frame.readAll_nil]
  rfl

/-- A bare header is refused for good. -/
theorem ofBytes_of_bareHeader {bs : Bytes} (h : BareHeader bs) :
    ∃ e, ofBytes bs = .error e ∧ e.isRetryable = false := by
  cases h with
  | unsigned =>
    have hread : Envelope.read [0x00] = .error (.unknownVariant 0) :=
      readPrefixed_of_drop_eq_nil none rfl
    exact ⟨_, ofBytes_eq_error_of_read hread, rfl⟩
  | signed header hheader =>
    have hlength : ¬(0x01 :: header).length < headerLength := by
      rw [List.length_cons, hheader]
      decide
    have hread : Envelope.read (0x01 :: header) = .error (.unknownVariant 0) := by
      rw [read_signed, if_neg hlength, readPrefixed_of_drop_eq_nil _ (List.drop_of_length_le ?_)]
      rw [List.length_cons, hheader]
      decide
    exact ⟨_, ofBytes_eq_error_of_read hread, rfl⟩
  | version => exact ⟨.malformed 2 .headerMissing, by cbv, rfl⟩
  | stream => exact ⟨.malformed 4 .payloadMissing, by cbv, rfl⟩
  | certificate => exact ⟨.malformed 4 .payloadMissing, by cbv, rfl⟩

/-- A bare header is the beginning of a claim. -/
theorem exists_claim_of_bareHeader {bs : Bytes} (h : BareHeader bs) :
    ∃ more r, (bs ++ more).length < 2 ^ 64 ∧ ofBytes (bs ++ more) = .ok r := by
  have hflat := ofBytes_blankFlat none [] rfl (by decide)
  cases h with
  | unsigned => exact ⟨[0x0a, 0x00], _, by decide, ofBytes_blank_stream⟩
  | signed header hheader =>
    -- any header is that of a block, and the block is put in front of a blank stream
    obtain ⟨block, hfits, rfl⟩ := Block.exists_toHeader_eq hheader
    have hr := WellFormed.current { kind := some (.stream {}) } (.stream {}) (some block) rfl
      fun _ hblock => Option.some.inj hblock ▸ hfits
    have hlength : ((0x01 :: block.toHeader) ++ [0x0a, 0x00]).length < 2 ^ 64 := by
      rw [List.length_append, List.length_cons, hheader]
      decide
    have hframed : framed ⟨.v2, .ofSignature (some block), .stream,
        .current { kind := some (.stream {}) }, some block⟩ =
          (0x01 :: block.toHeader) ++ [0x0a, 0x00] :=
      congrArg (fun payload => 0x01 :: (block.toHeader ++ payload)) encode_blank_stream
    exact ⟨[0x0a, 0x00], _, hlength, ofBytes_of_framed_eq hr rfl hframed hlength⟩
  | version => exact ⟨blankFlatBytes.drop 2, _, by decide, hflat⟩
  | stream => exact ⟨blankFlatBytes.drop 4, _, by decide, hflat⟩
  | certificate => exact ⟨otherChannelBytes.drop 4, _, by decide, ofBytes_otherChannel⟩

/-- Which bytes are refused for good although they are the beginning of a claim: a claim that ends
behind its header, and no other. Lengths are 64-bit numbers, in a claim as in memory. -/
theorem refused_extends_iff_bareHeader (bs : Bytes) :
    (∃ e, ofBytes bs = .error e ∧ e.isRetryable = false ∧
        ∃ more r, (bs ++ more).length < 2 ^ 64 ∧ ofBytes (bs ++ more) = .ok r) ↔
      BareHeader bs := by
  constructor
  · -- the claim that it begins was written from a record, of which it is a part
    rintro ⟨e, he, hfinal, more, r, hlen, hread⟩
    obtain ⟨env, hderives, hdescribes, hcontent⟩ := ofBytes_eq_ok_iff.mp hread
    have hr := ofBytes_wellFormed hread
    have hpayload := payload_of_readContent hdescribes hr hcontent
    rcases hr.cut hpayload (framed_of_derives hderives hdescribes).symm hlen with hbare | hpending
    · exact hbare
    · rw [hpending e he] at hfinal
      cases hfinal
  · intro h
    obtain ⟨e, he, hfinal⟩ := ofBytes_of_bareHeader h
    exact ⟨e, he, hfinal, exists_claim_of_bareHeader h⟩

/-- The marker of an unsigned claim is refused for good, and is the beginning of a blank stream. -/
theorem ofBytes_marker_refused :
    ofBytes [0x00] = .error (.unknownVariant 0) ∧
      (Error.unknownVariant 0).isRetryable = false ∧
      ofBytes ([0x00] ++ [0x0a, 0x00]) = .ok (blank .stream) :=
  ⟨ofBytes_eq_error_of_read (readPrefixed_of_drop_eq_nil none rfl), rfl, ofBytes_blank_stream⟩

end Record

end ChainClaim
