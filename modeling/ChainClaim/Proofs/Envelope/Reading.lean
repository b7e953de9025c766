import ChainClaim.Proofs.Envelope.Grammar

/-!
# Reading envelopes

The reader and the grammar agree in both directions, one layout at a time, and a claim has one
derivation. The span of a signature lies within the claim; around it stands the rest of the
production.
-/

namespace ChainClaim.Envelope

/-! ## Prefixed envelopes -/

theorem filter_placed (p : Nat → Bool) (pos : Nat) (fields : List (Nat × FieldValue)) :
    ((Frame.placed pos fields).filter (p ·.number)).map Frame.field =
      fields.filter (p ·.1) := by
  rw [show (fun f : Frame => p f.number) = (fun field : Nat × FieldValue => p field.1) ∘ Frame.field
    from rfl, ← List.filter_map, Frame.map_field_placed]

/-- The variant of some fields, wherever they stand, is the one that the grammar gives them. -/
theorem variantOf_placed_eq_ok_iff {pos : Nat} {fields : List (Nat × FieldValue)} {v : Variant}
    (hframed : ∀ field ∈ fields, WellFramed field) :
    variantOf (Frame.placed pos fields) = .ok v ↔ IsPayload v fields := by
  have hnumbers : (∀ f ∈ Frame.placed pos fields, isReservedNumber f.number = false) ↔
      ∀ field ∈ fields, isReservedNumber field.1 = false := by
    have hmap := List.forall_mem_map (f := Frame.field) (l := Frame.placed pos fields)
      (P := fun field => isReservedNumber field.1 = false)
    rw [Frame.map_field_placed] at hmap
    exact hmap.symm
  constructor
  · intro h
    obtain ⟨signs, hfold, h⟩ := Outcome.bind_eq_ok.mp h
    obtain ⟨variant, reserved⟩ := signs
    -- a reserved number outweighs a variant, so there is none, and there is a variant
    cases reserved with
    | some tag => cases h
    | none =>
      cases variant with
      | none => cases h
      | some found =>
        obtain rfl : found = v := Except.ok.inj h
        obtain ⟨-, hreserved, hvariant⟩ := foldlM_observe_sound hfold rfl rfl
        rcases hvariant with ⟨hnone, -⟩ | ⟨-, f, body, hfilter, hfield⟩
        · cases hnone
        · refine ⟨hframed, ⟨body, ?_⟩, hnumbers.mp hreserved⟩
          rw [← filter_placed isVariantNumber pos, hfilter, List.map_singleton, hfield]
  · rintro ⟨-, ⟨body, hvariant⟩, hreserved⟩
    rw [← filter_placed isVariantNumber pos] at hvariant
    obtain ⟨f, hfilter, hfield⟩ := List.map_eq_singleton_iff.mp hvariant
    rw [variantOf, foldlM_observe_complete (hnumbers.mpr hreserved) hfilter hfield]
    rfl

/-- A prefixed envelope is read exactly if what stands behind its header is a payload. -/
theorem readPrefixed_eq_ok_iff {buffer : Bytes} {start : Nat} {span : Option Span}
    {env : Envelope} :
    readPrefixed buffer start span = .ok env ↔
      ∃ v fields, IsPayload v fields ∧ buffer.drop start = writeFields fields ∧
        env = { generation := .v2, standing := if span.isSome then .signed else .unsigned
                variant := v, payload := writeFields fields
                signature := span.map (·.slice buffer), span } := by
  constructor
  · intro h
    obtain ⟨frames, hframes, h⟩ := Outcome.bind_eq_ok.mp h
    obtain ⟨fields, hframed, hdrop, rfl⟩ := Frame.readAll_eq_ok_iff.mp hframes
    obtain ⟨v, hv, h⟩ := Outcome.bind_eq_ok.mp h
    have hpayload := (variantOf_placed_eq_ok_iff hframed).mp hv
    cases h
    exact ⟨v, fields, hpayload, hdrop, by rw [hdrop]⟩
  · rintro ⟨v, fields, hpayload, hdrop, rfl⟩
    have hframes : Frame.readFrom buffer start = .ok (Frame.placed start fields) := by
      rw [Frame.readFrom, hdrop, Frame.readAll_placed hpayload.framed]
    rw [readPrefixed, hframes, Outcome.ok_bind,
      (variantOf_placed_eq_ok_iff hpayload.framed).mpr hpayload, hdrop]
    rfl

/-! ## Flat envelopes -/

theorem headerVarint_eq_ok {number stop n : Nat} {frame : Option Frame}
    (h : headerVarint number stop frame = .ok n) :
    ∃ f, frame = some f ∧ f.field = (number, .varint n) := by
  unfold headerVarint at h
  split at h
  · cases h
  next f =>
  split at h
  · next hnumber =>
    split at h
    · next m hvalue =>
      cases h
      refine ⟨f, rfl, Prod.ext hnumber ?_⟩
      show f.value = .varint n
      -- of the kinds of values this one alone is let through
      cases hf : f.value <;> rw [hf] at hvalue <;> cases hvalue
      rfl
    · cases h
  · cases h

theorem bodyBytes_eq_ok {number stop : Nat} {frame : Option Frame} {body : Bytes}
    (h : bodyBytes number stop frame = .ok body) :
    ∃ f, frame = some f ∧ f.field = (number, .delimited body) := by
  unfold bodyBytes at h
  split at h
  · cases h
  next f =>
  split at h
  · next hnumber =>
    split at h
    · next bytes hvalue =>
      cases h
      refine ⟨f, rfl, Prod.ext hnumber ?_⟩
      show f.value = .delimited body
      cases hf : f.value <;> rw [hf] at hvalue <;> cases hvalue
      rfl
    · cases h
  · cases h

/-- The claim types and what they stand for. -/
theorem claimType_eq_ok {tag number : Nat} {v : Variant} (h : claimType tag = .ok (v, number)) :
    tag = 1 ∧ v = .stream ∧ number = 3 ∨ tag = 2 ∧ v = .channel ∧ number = 4 := by
  unfold claimType at h
  split at h <;> cases h
  · exact .inl ⟨rfl, rfl, rfl⟩
  · exact .inr ⟨rfl, rfl, rfl⟩

/-- What may follow the payload: nothing, or a signature after a stream. -/
theorem flatSignature_eq_ok {v : Variant} {stop : Nat} {frames : List Frame}
    {standing : Standing} {signature : Option Bytes} {span : Option Span}
    (h : flatSignature v stop frames = .ok (standing, signature, span)) :
    frames = [] ∧ standing = (if v = .channel then .legacy else .unsigned) ∧ signature = none ∧
        span = none ∨
      ∃ f block, frames = [f] ∧ v ≠ .channel ∧ f.field = (5, .delimited block) ∧
        standing = .signed ∧ signature = some block ∧ span = some ⟨f.start, f.stop⟩ := by
  unfold flatSignature at h
  split at h
  · cases h
    exact .inl ⟨rfl, rfl, rfl, rfl⟩
  · cases h
  next f =>
  split at h
  · cases h
  split at h
  · cases h
  next hchannel =>
  obtain ⟨block, hblock, h⟩ := Outcome.bind_eq_ok.mp h
  cases h
  obtain ⟨g, hg, hfield⟩ := bodyBytes_eq_ok hblock
  cases hg
  exact .inr ⟨f, block, rfl, hchannel, hfield, rfl, rfl, rfl⟩

theorem wellFramed_delimited {number : Nat} {body : Bytes} (hpos : 0 < number)
    (hle : number ≤ maxFieldNumber) :
    WellFramed (number, .delimited body) ↔ body.length < 2 ^ 64 :=
  ⟨fun h => h.fits, fun h => ⟨hpos, hle, trivial, h⟩⟩

theorem wellFramed_varint {number n : Nat} (hpos : 0 < number) (hle : number ≤ maxFieldNumber)
    (hn : n < 2 ^ 64) : WellFramed (number, .varint n) :=
  ⟨hpos, hle, hn, trivial⟩

theorem wellFramed_flatFields {type number : Nat} {body : Bytes} (htype : type < 2 ^ 64)
    (hpos : 0 < number) (hle : number ≤ maxFieldNumber) (hbody : body.length < 2 ^ 64) :
    ∀ field ∈ flatFields type number body, WellFramed field := by
  intro field hfield
  rcases List.mem_cons.mp hfield with rfl | hfield
  · exact wellFramed_varint (by decide) (by decide) (by decide)
  rcases List.mem_cons.mp hfield with rfl | hfield
  · exact wellFramed_varint (by decide) (by decide) htype
  · obtain rfl := List.mem_singleton.mp hfield
    exact (wellFramed_delimited hpos hle).mpr hbody

/-- Version, claim type and payload are the first three fields, in this order. -/
theorem eq_flatFields_append {fields : List (Nat × FieldValue)} {stop type number : Nat}
    {body : Bytes} (hversion : headerVarint 1 stop (Frame.placed 0 fields)[0]? = .ok 1)
    (htype : headerVarint 2 stop (Frame.placed 0 fields)[1]? = .ok type)
    (hbody : bodyBytes number stop (Frame.placed 0 fields)[2]? = .ok body) :
    fields = flatFields type number body ++ fields.drop 3 := by
  obtain ⟨f, hf, hfield⟩ := headerVarint_eq_ok hversion
  -- each step was asked of the frames, and frames in their place are told by the fields
  have hfirst := Frame.getElem?_of_placed hf
  obtain ⟨g, hg, hgfield⟩ := headerVarint_eq_ok htype
  have hsecond := Frame.getElem?_of_placed hg
  obtain ⟨k, hk, hkfield⟩ := bodyBytes_eq_ok hbody
  have hthird := Frame.getElem?_of_placed hk
  rw [hfield] at hfirst
  rw [hgfield] at hsecond
  rw [hkfield] at hthird
  match fields, hfirst, hsecond, hthird with
  | _ :: _ :: _ :: _, rfl, rfl, rfl => rfl

/-- A flat envelope that is read is derived: by its claim type and by whether a field follows the
payload. -/
theorem readFlat_sound {buffer : Bytes} {env : Envelope} (h : readFlat buffer = .ok env) :
    Derives buffer env := by
  obtain ⟨frames, hframes, h⟩ := Outcome.bind_eq_ok.mp h
  obtain ⟨fields, hframed, rfl, rfl⟩ := Frame.readAll_eq_ok_iff.mp hframes
  obtain ⟨version, hversion, h⟩ := Outcome.bind_eq_ok.mp h
  by_cases hone : version = 1
  case neg => rw [if_pos hone] at h; cases h
  rw [if_neg (not_not_intro hone)] at h
  subst hone
  obtain ⟨type, htag, h⟩ := Outcome.bind_eq_ok.mp h
  obtain ⟨⟨v, number⟩, htype, h⟩ := Outcome.bind_eq_ok.mp h
  obtain ⟨body, hbody, h⟩ := Outcome.bind_eq_ok.mp h
  obtain ⟨⟨standing, signature, span⟩, hsignature, h⟩ := Outcome.bind_eq_ok.mp h
  cases h
  -- three fields are used up; what may follow them is settled by `flatSignature`
  generalize htail : fields.drop 3 = tail
  have hfields := eq_flatFields_append hversion htag hbody
  rw [htail] at hfields
  subst hfields
  have hdrop : (Frame.placed 0 (flatFields type number body ++ tail)).drop 3 =
      Frame.placed (flatBytes type number body).length tail := by
    rw [Frame.placed_append, Nat.zero_add]
    rfl
  rw [hdrop] at hsignature
  have hpayload : WellFramed (number, .delimited body) := hframed _ (by simp [flatFields])
  rcases flatSignature_eq_ok hsignature with
    ⟨hnil, rfl, rfl, rfl⟩ | ⟨f, block, hone, hstream, hfield, rfl, rfl, rfl⟩
  · -- nothing follows the payload
    obtain rfl : tail = [] := by simpa using congrArg (List.map Frame.field) hnil
    rw [List.append_nil]
    rcases claimType_eq_ok htype with ⟨rfl, rfl, rfl⟩ | ⟨rfl, rfl, rfl⟩
    · exact .flatStream body hpayload.fits
    · exact .flatCertificate body hpayload.fits
  · -- one field follows, and it is the signature of a stream
    -- frames in their place have the fields that were written, so the tail is this field
    obtain rfl : tail = [f.field] := by simpa using congrArg (List.map Frame.field) hone
    have hblock : WellFramed f.field := hframed _ (by simp)
    rw [hfield] at hone hblock
    obtain rfl := List.singleton_inj.mp hone
    rw [writeFields_append, hfield]
    rcases claimType_eq_ok htype with ⟨rfl, rfl, rfl⟩ | ⟨-, rfl, -⟩
    · have h := Derives.flatSigned body block hpayload.fits hblock.fits
      rw [List.length_append] at h
      rw [writeFields_cons, writeFields_nil, List.append_nil]
      exact h
    · exact absurd rfl hstream

/-- The fields of a flat envelope of a known claim type have frames if those behind its payload
do. -/
theorem wellFramed_flatFields_append {type number : Nat} {body : Bytes} {v : Variant}
    {tail : List (Nat × FieldValue)} (htype : claimType type = .ok (v, number))
    (hbody : body.length < 2 ^ 64) (htail : ∀ field ∈ tail, WellFramed field) :
    ∀ field ∈ flatFields type number body ++ tail, WellFramed field := by
  have hnumber : type < 2 ^ 64 ∧ 0 < number ∧ number ≤ maxFieldNumber := by
    rcases claimType_eq_ok htype with ⟨rfl, -, rfl⟩ | ⟨rfl, -, rfl⟩ <;> decide
  intro field hfield
  rcases List.mem_append.mp hfield with hfield | hfield
  · exact wellFramed_flatFields hnumber.1 hnumber.2.1 hnumber.2.2 hbody field hfield
  · exact htail field hfield

/-- A flat envelope with some fields behind its payload is read if these are a signature. -/
theorem readFlat_flatBytes {type number : Nat} {body : Bytes} {v : Variant} {standing : Standing}
    {signature : Option Bytes} {span : Option Span} (tail : List (Nat × FieldValue))
    (htype : claimType type = .ok (v, number)) (hbody : body.length < 2 ^ 64)
    (htail : ∀ field ∈ tail, WellFramed field)
    (hsignature : ∀ stop, flatSignature v stop
      (Frame.placed (flatBytes type number body).length tail) = .ok (standing, signature, span)) :
    readFlat (flatBytes type number body ++ writeFields tail) =
      .ok { generation := .v1, standing, variant := v, payload := body, signature, span } := by
  have hframed := wellFramed_flatFields_append htype hbody htail
  -- all fields are read together; then the reader looks at the first three and at the rest
  have hframes : Frame.readFrom (flatBytes type number body ++ writeFields tail) 0 =
      .ok (Frame.placed 0 (flatFields type number body ++ tail)) := by
    rw [flatBytes, ← writeFields_append]
    exact Frame.readAll_placed hframed 0
  have hdrop : (Frame.placed 0 (flatFields type number body ++ tail)).drop 3 =
      Frame.placed (flatBytes type number body).length tail := by
    rw [Frame.placed_append, Nat.zero_add]
    rfl
  have hversion : headerVarint 1 (flatBytes type number body ++ writeFields tail).length
      (Frame.placed 0 (flatFields type number body ++ tail))[0]? = .ok 1 := rfl
  have htag : headerVarint 2 (flatBytes type number body ++ writeFields tail).length
      (Frame.placed 0 (flatFields type number body ++ tail))[1]? = .ok type := rfl
  have hpayload : bodyBytes number (flatBytes type number body ++ writeFields tail).length
      (Frame.placed 0 (flatFields type number body ++ tail))[2]? = .ok body := by
    show (if number = number then Except.ok body else _) = _
    rw [if_pos rfl]
  rw [readFlat, hframes, Outcome.ok_bind, hversion, Outcome.ok_bind, if_neg (not_not_intro rfl)]
  simp only [htag, htype, hpayload, hdrop, hsignature, Outcome.ok_bind]
  rfl

/-- The key of the version is one byte, and no other layout begins with it. -/
theorem flatBytes_eq_cons (type number : Nat) (body : Bytes) :
    flatBytes type number body = flatMarker ::
      (Varint.write 1 ++ writeFields [(2, .varint type), (number, .delimited body)]) := by
  rw [flatBytes, flatFields, writeFields_cons, writeField, writeKey,
    Varint.write_of_lt (show 1 * 8 + (FieldValue.varint 1).wireType.bits < 128 from by decide)]
  rfl

/-- What begins as a flat envelope is read as one. -/
theorem read_flatBytes_append (type number : Nat) (body rest : Bytes) :
    read (flatBytes type number body ++ rest) = readFlat (flatBytes type number body ++ rest) := by
  rw [flatBytes_eq_cons]
  rfl

/-! ## Either layout -/

/-- A buffer with room for a header is the marker, the header and what stands behind it. -/
theorem eq_cons_header_append {marker : UInt8} {buffer : Bytes}
    (hlen : headerLength ≤ (marker :: buffer).length) :
    (Span.slice ⟨1, headerLength⟩ (marker :: buffer)).length = 84 ∧
      marker :: buffer =
        marker :: (Span.slice ⟨1, headerLength⟩ (marker :: buffer) ++
          (marker :: buffer).drop headerLength) := by
  have hslice : Span.slice ⟨1, headerLength⟩ (marker :: buffer) = buffer.take 84 := rfl
  have hrest : (marker :: buffer).drop headerLength = buffer.drop 84 := rfl
  rw [hslice, hrest, List.take_append_drop]
  refine ⟨List.length_take_of_le ?_, rfl⟩
  unfold headerLength channelHashLength signatureLength at hlen
  rw [List.length_cons] at hlen
  omega

/-- What is read is derived. -/
theorem read_sound {b : Bytes} {env : Envelope} (h : read b = .ok env) : Derives b env := by
  cases b with
  | nil => cases h
  | cons marker rest =>
    -- the first byte tells the layout
    rw [read] at h
    split at h
    · next hmarker =>
      obtain ⟨v, fields, hfields, hrest, rfl⟩ := readPrefixed_eq_ok_iff.mp h
      subst hmarker
      obtain rfl : rest = writeFields fields := hrest
      exact .unsigned v fields hfields
    split at h
    · next hmarker =>
      split at h
      · cases h
      next hlong =>
      obtain ⟨v, fields, hfields, hrest, rfl⟩ := readPrefixed_eq_ok_iff.mp h
      subst hmarker
      -- the header is what the span takes out between marker and payload
      obtain ⟨hheader, hsplit⟩ := eq_cons_header_append (Nat.le_of_not_lt hlong)
      rw [hrest] at hsplit
      have hderives : Derives (signedMarker :: (_ ++ writeFields fields)) _ :=
        .signed v _ fields hheader hfields
      rw [← hsplit] at hderives
      exact hderives
    split at h
    · exact readFlat_sound h
    · cases h

/-- What is derived is read. One case for each production. -/
theorem read_of_derives {b : Bytes} {env : Envelope} (h : Derives b env) : read b = .ok env := by
  cases h with
  | unsigned v fields hfields =>
    exact readPrefixed_eq_ok_iff.mpr ⟨v, fields, hfields, rfl, rfl⟩
  | signed v header fields hheader hfields =>
    -- the header is long enough, is taken out whole, and the payload begins behind it
    have hlong : ¬(signedMarker :: (header ++ writeFields fields)).length < headerLength := by
      rw [List.length_cons, List.length_append, hheader]
      unfold headerLength channelHashLength signatureLength
      omega
    have hslice : header =
        Span.slice ⟨1, headerLength⟩ (signedMarker :: (header ++ writeFields fields)) := by
      show header = (header ++ writeFields fields).take 84
      rw [← hheader, List.take_left]
    have hdrop : (signedMarker :: (header ++ writeFields fields)).drop headerLength =
        writeFields fields := by
      show (header ++ writeFields fields).drop 84 = writeFields fields
      rw [← hheader, List.drop_left]
    show (if (signedMarker :: (header ++ writeFields fields)).length < headerLength then _ else
      readPrefixed (signedMarker :: (header ++ writeFields fields)) headerLength
        (some ⟨1, headerLength⟩)) = _
    rw [if_neg hlong, readPrefixed_eq_ok_iff]
    refine ⟨v, fields, hfields, hdrop, ?_⟩
    rw [Option.map_some, ← hslice]
    rfl
  -- a flat envelope with nothing behind its payload is one with no fields there
  | flatStream body hbody =>
    have hread := readFlat_flatBytes [] (show claimType 1 = .ok (.stream, 3) from rfl) hbody
      (by simp) (fun _ => rfl)
    rw [← read_flatBytes_append, writeFields_nil, List.append_nil] at hread
    exact hread
  | flatCertificate body hbody =>
    have hread := readFlat_flatBytes [] (show claimType 2 = .ok (.channel, 4) from rfl) hbody
      (by simp) (fun _ => rfl)
    rw [← read_flatBytes_append, writeFields_nil, List.append_nil] at hread
    exact hread
  | flatSigned body block hbody hblock =>
    -- the signature is one more field, and its frame is the span
    have hframed : ∀ field ∈ [(5, FieldValue.delimited block)], WellFramed field := by
      intro field hfield
      obtain rfl := List.mem_singleton.mp hfield
      exact (wellFramed_delimited (by decide) (by decide)).mpr hblock
    have hread := readFlat_flatBytes _ (show claimType 1 = .ok (.stream, 3) from rfl) hbody
      hframed (fun _ => rfl)
    rw [← read_flatBytes_append, writeFields_cons, writeFields_nil, List.append_nil] at hread
    rw [List.length_append]
    exact hread

/-- A claim has one derivation. -/
theorem Derives.unique {b : Bytes} {env other : Envelope} (h : Derives b env)
    (ho : Derives b other) : other = env :=
  Except.ok.inj ((read_of_derives ho).symm.trans (read_of_derives h))

/-! ## The signature in its place -/

theorem Derives.located {b : Bytes} {env : Envelope} (h : Derives b env) : Located b env := by
  cases h with
  | unsigned | flatStream | flatCertificate =>
    exact ⟨by simp, by simp, nofun, nofun, nofun⟩
  | signed v header fields hheader _ =>
    refine ⟨by simp, by simp, ?_, ?_, ?_⟩
    · rintro _ ⟨⟩
      decide
    · rintro _ ⟨⟩
      rw [List.length_cons, List.length_append, hheader]
      show 85 ≤ 84 + (writeFields fields).length + 1
      omega
    · -- the marker stands before the cut and the payload behind it
      rintro _ ⟨⟩
      show signedMarker :: (header ++ writeFields fields).drop 84 = signedMarker :: writeFields fields
      rw [← hheader, List.drop_left]
  | flatSigned body block _ _ =>
    refine ⟨by simp, by simp, ?_, ?_, ?_⟩
    · rintro _ ⟨⟩
      show (flatBytes 1 3 body).length ≤ (flatBytes 1 3 body ++ _).length
      rw [List.length_append]
      omega
    · rintro _ ⟨⟩
      exact Nat.le_refl _
    · -- the signature is the last field, so nothing stands behind the cut
      rintro _ ⟨⟩
      show (flatBytes 1 3 body ++ _).take (flatBytes 1 3 body).length ++
        (flatBytes 1 3 body ++ _).drop (flatBytes 1 3 body ++ _).length = flatBytes 1 3 body
      rw [List.take_left, List.drop_length, List.append_nil]

/-- The reader accepts exactly the grammar. What it tells is the one derivation of the claim, and
the span of a signature lies within the claim, with the rest of the production around it. -/
theorem read_eq_ok_iff_derives (b : Bytes) (env : Envelope) :
    (read b = .ok env ↔ Derives b env) ∧
      (Derives b env → (∀ other, Derives b other → other = env) ∧ Located b env) :=
  ⟨⟨read_sound, read_of_derives⟩, fun h => ⟨fun _ ho => h.unique ho, h.located⟩⟩

/-- The fields of a channel between a title and a field that no schema knows. -/
def channelFields : List (Nat × FieldValue) :=
  [(8, .delimited [0x61]), (2, .delimited [0x0a, 0x01, 0x62]), (15, .varint 5)]

/-- What the framing of that channel tells when it is signed. -/
def signedChannel : Envelope where
  generation := .v2
  standing := .signed
  variant := .channel
  payload := [0x42, 0x01, 0x61, 0x12, 0x03, 0x0a, 0x01, 0x62, 0x78, 0x05]
  signature := some (List.replicate 84 0x5a)
  span := some ⟨1, 85⟩

def signedChannelBytes : Bytes :=
  0x01 :: (List.replicate 84 0x5a ++ [0x42, 0x01, 0x61, 0x12, 0x03, 0x0a, 0x01, 0x62, 0x78, 0x05])

/-- Its variant is found on the walk over the fields, and its signature behind the marker. -/
theorem read_signedChannel :
    Derives signedChannelBytes signedChannel ∧ read signedChannelBytes = .ok signedChannel ∧
      (∀ other, Derives signedChannelBytes other → other = signedChannel) ∧
      Located signedChannelBytes signedChannel := by
  have hpayload : IsPayload .channel channelFields := by
    refine ⟨?_, ⟨[0x0a, 0x01, 0x62], rfl⟩, by decide⟩
    simp only [channelFields, List.forall_mem_cons]
    refine ⟨?_, ?_, ?_, by simp⟩
    · exact (wellFramed_delimited (by decide) (by decide)).mpr (by decide)
    · exact (wellFramed_delimited (by decide) (by decide)).mpr (by decide)
    · exact wellFramed_varint (by decide) (by decide) (by decide)
  have hbytes : writeFields channelFields =
      [0x42, 0x01, 0x61, 0x12, 0x03, 0x0a, 0x01, 0x62, 0x78, 0x05] := by
    simp only [channelFields, writeFields_cons, writeFields_nil, writeField, writeKey,
      FieldValue.write]
    -- all keys, lengths and numbers are so small that they are one byte
    rw [Varint.write_of_lt (by decide), Varint.write_of_lt (by decide),
      Varint.write_of_lt (by decide), Varint.write_of_lt (by decide),
      Varint.write_of_lt (by decide), Varint.write_of_lt (by decide)]
    rfl
  have hderives : Derives signedChannelBytes signedChannel := by
    have h := Derives.signed .channel (List.replicate 84 0x5a) channelFields rfl hpayload
    rw [hbytes] at h
    exact h
  obtain ⟨hread, hunique⟩ := read_eq_ok_iff_derives signedChannelBytes signedChannel
  exact ⟨hderives, hread.mpr hderives, (hunique hderives).1, (hunique hderives).2⟩

end ChainClaim.Envelope
