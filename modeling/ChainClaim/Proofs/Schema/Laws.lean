import ChainClaim.Proofs.Schema.Parts
import ChainClaim.Schema

/-!
# Laws of formats

A message is read back from the bytes it is written as (`Format.Lawful.decode_encode`), and its
size is reckoned right. The laws are stated for one format among the fields of a message, as
`Format.Faithful`, and each way of putting formats together keeps them, so the laws of a message
type follow from its description: one step for each combinator in it.

A field's numbers are settled once for a whole message, as `Format.Numbered`, which is decidable.
Lengths have to be 64-bit numbers to be written, so reading back is promised for values whose bytes
are that few. The depth of a format bounds the messages that nest in it.
-/

namespace ChainClaim

variable {α β κ : Type}

theorem FieldValue.size_eq {value : FieldValue} (h : value.Shaped) :
    value.size = value.write.length := by
  cases value with
  | varint n => exact Varint.size_eq n
  | fixed64 bytes => exact Eq.symm h
  | fixed32 bytes => exact Eq.symm h
  | delimited bytes => rw [size, write, List.length_append, Varint.size_eq]

theorem Format.keySize_eq (number : Nat) (type : WireType) :
    keySize number = (writeKey number type).length := by
  rw [keySize, writeKey, ← Varint.size_eq, Varint.size_mul_eight_add type.bits_lt]

theorem length_writeField (number : Nat) {value : FieldValue} (h : value.Shaped) :
    (writeField number value).length = Format.keySize number + value.size := by
  rw [writeField, List.length_append, Format.keySize_eq number value.wireType,
    FieldValue.size_eq h]

/-! ## The laws -/

/-- What formats rely on of an element: its size is right, values are told by their written forms,
and a singular field that holds the written form of a value alone is read as it. -/
structure Element.Lawful (e : Element α) (depth : Nat) : Prop where
  shaped : ∀ a, (e.write a).Shaped
  size_eq : ∀ a, e.size a = (e.write a).size
  write_inj : ∀ a b, e.write a = e.write b → a = b
  combine_write : ∀ limit a, depth ≤ limit → (e.write a).write.length < 2 ^ 64 →
    e.combine limit [e.write a] = some a

namespace Format

/-- The laws of a format among the fields of a message: a value is told by its fields, and whatever
else the message holds, the value is read back if the entries with the format's numbers are the
fields of the value. -/
structure Faithful (f : Format α) (depth : Nat) : Prop where
  number_mem : ∀ a, ∀ field ∈ f.fields a, field.1 ∈ f.numbers
  shaped : ∀ a, ∀ field ∈ f.fields a, field.2.Shaped
  size_eq : ∀ a, f.size a = (f.encode a).length
  fields_inj : f.numbers.Nodup → ∀ a b, f.fields a = f.fields b → a = b
  read_fields : ∀ limit entries a, f.numbers.Nodup → depth ≤ limit →
    (f.encode a).length < 2 ^ 64 →
    entries.filter (·.number ∈ f.numbers) = (f.fields a).map Entry.ofField →
    f.read limit entries = some a

/-- The numbers of a message are numbers of fields, each given once. -/
def Numbered (f : Format α) : Prop :=
  f.numbers.Nodup ∧ ∀ n ∈ f.numbers, 0 < n ∧ n ≤ maxFieldNumber

instance (f : Format α) : Decidable f.Numbered :=
  inferInstanceAs (Decidable (_ ∧ _))

/-- The laws of the format of a whole message. -/
structure Lawful (f : Format α) (depth : Nat) : Prop extends Faithful f depth where
  numbered : f.Numbered

variable {f : Format α} {depth : Nat}

theorem Lawful.wellFramed (hf : f.Lawful depth) {a : α} (hlen : (f.encode a).length < 2 ^ 64) :
    ∀ field ∈ f.fields a, WellFramed field := by
  intro field hfield
  obtain ⟨hpos, hle⟩ := hf.numbered.2 field.1 (hf.number_mem a field hfield)
  -- a value is no longer than the message that it stands in, so its length can be written
  have hvalue := length_write_le_of_mem hfield
  exact ⟨hpos, hle, hf.shaped a field hfield,
    FieldValue.fits_of_length_lt (Nat.lt_of_le_of_lt hvalue hlen)⟩

/-- The bytes of a message are cut into the entries of its fields, at any limit. -/
theorem Lawful.readAll_encode (hf : f.Lawful depth) {a : α}
    (hlen : (f.encode a).length < 2 ^ 64) (limit : Nat) :
    Entry.readAll limit (f.encode a) = some ((f.fields a).map Entry.ofField) :=
  Entry.readAll_writeFields (hf.wellFramed hlen) limit

/-- The entries of a message alone are read as the message. -/
theorem Lawful.read_entries (hf : f.Lawful depth) {a : α} {limit : Nat} (hlimit : depth ≤ limit)
    (hlen : (f.encode a).length < 2 ^ 64) :
    f.read limit ((f.fields a).map Entry.ofField) = some a := by
  refine hf.read_fields limit _ a hf.numbered.1 hlimit hlen ?_
  -- every field has a number of the message, so none of the entries is passed over
  rw [Entry.filter_map_ofField, List.filter_eq_self.mpr]
  intro field hfield
  exact decide_eq_true (hf.number_mem a field hfield)

/-- A message is told by its bytes, however long they are. -/
theorem Lawful.encode_inj (hf : f.Lawful depth) {a b : α} (h : f.encode a = f.encode b) : a = b :=
  hf.fields_inj hf.numbered.1 a b (writeFields_inj (hf.shaped a) (hf.shaped b) h)

/-- A message is read back from its bytes. -/
theorem Lawful.decode_encode (hf : f.Lawful depth) {a : α} (hdepth : depth ≤ maxNesting)
    (hlen : (f.encode a).length < 2 ^ 64) : f.decode (f.encode a) = some a := by
  rw [decode, hf.readAll_encode hlen, Option.bind_some]
  exact hf.read_entries hdepth hlen

end Format

/-! ## Elements -/

namespace Element

theorem scalar_lawful {s : Scalar α} (hs : s.Lawful) (depth : Nat) :
    (scalar s).Lawful depth where
  shaped := hs.shaped
  size_eq _ := rfl
  write_inj a b h := by
    -- what is read back is told by its form
    have hread : s.read? (s.write a) = s.read? (s.write b) := congrArg s.read? h
    rw [hs.read_write, hs.read_write] at hread
    exact Option.some.inj hread
  combine_write _ a _ _ := by
    show (([s.write a].mapM s.read?).map fun as => as.getLast?.getD s.zero) = some a
    rw [List.mapM_cons, hs.read_write]
    rfl

/-- A message that nests in another is one deeper. -/
theorem message_lawful {f : Format α} {depth : Nat} (hf : f.Lawful depth) :
    (message f).Lawful (depth + 1) where
  shaped _ := trivial
  size_eq a := by
    show Varint.size (f.size a) + f.size a = Varint.size (f.encode a).length + (f.encode a).length
    rw [hf.size_eq]
  write_inj a b h := hf.encode_inj (FieldValue.delimited.inj h)
  combine_write limit a hlimit hlen := by
    -- one level of nesting is used up here, and there is one
    obtain ⟨limit, rfl⟩ := Nat.exists_eq_succ_of_ne_zero (show limit ≠ 0 by omega)
    have hbody : (FieldValue.delimited (f.encode a)).Fits := FieldValue.fits_of_length_lt hlen
    have hread := hf.read_entries (Nat.le_of_succ_le_succ hlimit) hbody
    -- there is one occurrence, so joining the entries of all of them leaves those of its body
    show ([FieldValue.delimited (f.encode a)].mapM FieldValue.delimited?).bind (fun bodies =>
      (bodies.mapM (Entry.readAll limit)).bind fun entries => f.read limit entries.flatten) = some a
    rw [List.mapM_cons]
    show ([f.encode a].mapM (Entry.readAll limit)).bind (fun entries =>
      f.read limit entries.flatten) = some a
    rw [List.mapM_cons, hf.readAll_encode hbody]
    show f.read limit ((f.fields a).map Entry.ofField ++ []) = some a
    rw [List.append_nil, hread]

end Element

/-! ## Formats of one field -/

namespace Format

variable {number depth : Nat}

theorem valuesAt_eq {entries : List Entry} {fields : List (Nat × FieldValue)}
    (h : entries.filter (·.number ∈ [number]) = fields.map Entry.ofField) :
    Entry.valuesAt number entries = some (fields.map Prod.snd) := by
  simp only [List.mem_singleton] at h
  rw [Entry.valuesAt, h, Entry.mapM_value_map_ofField]

theorem encode_single {f : Format α} {a : α} {value : FieldValue}
    (h : f.fields a = [(number, value)]) : f.encode a = writeField number value := by
  rw [encode, h, writeFields_cons, writeFields_nil, List.append_nil]

/-- The bytes of the only value are among those of the message. -/
theorem length_single {f : Format α} {a : α} {value : FieldValue}
    (h : f.fields a = [(number, value)]) (hlen : (f.encode a).length < 2 ^ 64) :
    value.write.length < 2 ^ 64 := by
  rw [encode_single h] at hlen
  exact Nat.lt_of_le_of_lt (length_write_le_writeField number value) hlen

theorem required_faithful {e : Element α} (he : e.Lawful depth) :
    (required number e).Faithful depth where
  number_mem a field hfield := by
    obtain rfl := List.mem_singleton.mp hfield
    exact List.mem_singleton_self number
  shaped a field hfield := by
    obtain rfl := List.mem_singleton.mp hfield
    exact he.shaped a
  size_eq a := by
    rw [encode_single rfl, length_writeField number (he.shaped a), ← he.size_eq]
    rfl
  fields_inj _ a b h := he.write_inj a b (congrArg Prod.snd (List.singleton_inj.mp h))
  read_fields limit entries a _ hlimit hlen hentries := by
    have hvalue := length_single rfl hlen
    show (Entry.valuesAt number entries).bind (e.combine limit) = some a
    rw [valuesAt_eq hentries]
    exact he.combine_write limit a hlimit hvalue

theorem implicit_faithful {s : Scalar α} (hs : s.Lawful) :
    (implicit number s).Faithful depth := by
  -- a value that is written is a required field, and no other value has the zero's form
  have hfull : (required number (.scalar s)).Faithful depth :=
    required_faithful (Element.scalar_lawful hs depth)
  have hwritten : ∀ a, s.isZero a = false → (implicit number s).fields a =
      (required number (.scalar s)).fields a := by
    intro a hzero
    show (if s.isZero a then [] else [(number, s.write a)]) = [(number, s.write a)]
    rw [hzero]
    rfl
  have hleft : ∀ a, s.isZero a = true → (implicit number s).fields a = [] := by
    intro a hzero
    show (if s.isZero a then [] else [(number, s.write a)]) = []
    rw [hzero]
    rfl
  -- each law is that of a required field, or says of the zero that it has no field
  constructor
  case number_mem =>
    intro a field hfield
    cases hzero : s.isZero a with
    | true => rw [hleft a hzero] at hfield; cases hfield
    | false => rw [hwritten a hzero] at hfield; exact hfull.number_mem a field hfield
  case shaped =>
    intro a field hfield
    cases hzero : s.isZero a with
    | true => rw [hleft a hzero] at hfield; cases hfield
    | false => rw [hwritten a hzero] at hfield; exact hfull.shaped a field hfield
  case size_eq =>
    intro a
    show (if s.isZero a then 0 else keySize number + (s.write a).size) = _
    cases hzero : s.isZero a with
    | true => rw [encode, hleft a hzero]; rfl
    | false => rw [encode, hwritten a hzero]; exact hfull.size_eq a
  case fields_inj =>
    intro hnumbers a b h
    cases ha : s.isZero a with
    | true =>
      cases hb : s.isZero b with
      | true => rw [hs.eq_zero a ha, hs.eq_zero b hb]
      | false => rw [hleft a ha, hwritten b hb] at h; cases h
    | false =>
      cases hb : s.isZero b with
      | true => rw [hwritten a ha, hleft b hb] at h; cases h
      | false =>
        rw [hwritten a ha, hwritten b hb] at h
        exact hfull.fields_inj hnumbers a b h
  case read_fields =>
    intro limit entries a hnumbers hlimit hlen hentries
    cases hzero : s.isZero a with
    | true =>
      -- no entry has the number, and what is read of none is the zero
      rw [hleft a hzero] at hentries
      show (Entry.valuesAt number entries).bind ((Element.scalar s).combine limit) = some a
      rw [valuesAt_eq hentries, hs.eq_zero a hzero]
      rfl
    | false =>
      rw [encode, hwritten a hzero] at hlen
      rw [hwritten a hzero] at hentries
      exact hfull.read_fields limit entries a hnumbers hlimit hlen hentries

theorem optional_faithful {e : Element α} (he : e.Lawful depth) :
    (optional number e).Faithful depth where
  number_mem a field hfield := by
    cases a with
    | none => cases hfield
    | some a => exact (required_faithful he).number_mem a field hfield
  shaped a field hfield := by
    cases a with
    | none => cases hfield
    | some a => exact (required_faithful he).shaped a field hfield
  size_eq a := by
    cases a with
    | none => rfl
    | some a => exact (required_faithful he).size_eq a
  -- presence is told by the field being there at all, whatever its value
  fields_inj hnumbers a b h := by
    cases a with
    | none =>
      cases b with
      | none => rfl
      | some b => cases h
    | some a =>
      cases b with
      | none => cases h
      | some b => rw [(required_faithful he).fields_inj hnumbers a b h]
  read_fields limit entries a _ hlimit hlen hentries := by
    cases a with
    | none =>
      dsimp only [optional]
      rw [valuesAt_eq hentries]
      rfl
    | some a =>
      have hvalue := length_single rfl hlen
      dsimp only [optional]
      rw [valuesAt_eq hentries]
      show (e.combine limit [e.write a]).map some = some (some a)
      rw [he.combine_write limit a hlimit hvalue, Option.map_some]

/-- The members of a list are read one by one. Induction on the list. -/
theorem mapM_combine {e : Element α} (he : e.Lawful depth) {limit : Nat} (hlimit : depth ≤ limit)
    {as : List α} (hlen : ∀ a ∈ as, (e.write a).write.length < 2 ^ 64) :
    (as.map e.write).mapM (fun v => e.combine limit [v]) = some as := by
  induction as with
  | nil => rfl
  | cons a as ih =>
    rw [List.forall_mem_cons] at hlen
    rw [List.map_cons, List.mapM_cons, he.combine_write limit a hlimit hlen.1, ih hlen.2]
    rfl

theorem repeated_faithful {e : Element α} (he : e.Lawful depth) :
    (repeated number e).Faithful depth where
  number_mem as field hfield := by
    obtain ⟨a, -, rfl⟩ := List.mem_map.mp hfield
    exact List.mem_singleton_self number
  shaped as field hfield := by
    obtain ⟨a, -, rfl⟩ := List.mem_map.mp hfield
    exact he.shaped a
  size_eq as := by
    induction as with
    | nil => rfl
    | cons a as ih =>
      show keySize number + e.size a + (repeated number e).size as =
        (writeField number (e.write a) ++ (repeated number e).encode as).length
      rw [List.length_append, length_writeField number (he.shaped a), he.size_eq, ih]
  fields_inj _ as bs h :=
    (List.map_inj_right fun a b hab => he.write_inj a b (congrArg Prod.snd hab)).mp h
  read_fields limit entries as _ hlimit hlen hentries := by
    -- each occurrence is read by itself, as the only one of a singular field
    have hvalues : ∀ a ∈ as, (e.write a).write.length < 2 ^ 64 := by
      intro a ha
      have hmem : (number, e.write a) ∈ (repeated number e).fields as := List.mem_map_of_mem ha
      exact Nat.lt_of_le_of_lt (length_write_le_of_mem hmem) hlen
    show (Entry.valuesAt number entries).bind
      (fun values => values.mapM fun v => e.combine limit [v]) = some as
    rw [valuesAt_eq hentries]
    show ((as.map fun a => (number, e.write a)).map Prod.snd).mapM
      (fun v => e.combine limit [v]) = some as
    rw [List.map_map]
    exact mapM_combine he hlimit hvalues

/-! ## Choices -/

/-- What a choice relies on of its members: each tells its values by what it writes, and every value
is written by one of them, in one field, and read back by it. -/
structure LawfulMembers (members : List (Member κ)) (depth : Nat) : Prop where
  write?_inj : ∀ m ∈ members, ∀ k l value,
    m.write? k = some value → m.write? l = some value → k = l
  chosen : ∀ k, ∃ m ∈ members, ∃ value,
    (choice members).fields (some k) = [(m.number, value)] ∧ value.Shaped ∧
      (choice members).size (some k) = keySize m.number + value.size ∧
      ∀ limit, depth ≤ limit → value.write.length < 2 ^ 64 → m.combine limit [value] = some k

/-- A member that is a message or a scalar, where it is the only one that writes a value. -/
theorem chosen_of {members : List (Member κ)} {number depth : Nat} {e : Element α}
    {inject : α → κ} {project? : κ → Option α} {a : α}
    (hm : Member.of number e inject project? ∈ members) (he : e.Lawful depth)
    (hfields : (choice members).fields (some (inject a)) = [(number, e.write a)])
    (hsize : (choice members).size (some (inject a)) = keySize number + e.size a) :
    ∃ m ∈ members, ∃ value,
      (choice members).fields (some (inject a)) = [(m.number, value)] ∧ value.Shaped ∧
        (choice members).size (some (inject a)) = keySize m.number + value.size ∧
        ∀ limit, depth ≤ limit → value.write.length < 2 ^ 64 →
          m.combine limit [value] = some (inject a) := by
  refine ⟨_, hm, e.write a, hfields, he.shaped a, ?_, ?_⟩
  · rw [hsize, he.size_eq]
    rfl
  · intro limit hlimit hlen
    show (e.combine limit [e.write a]).map inject = some (inject a)
    rw [he.combine_write limit a hlimit hlen, Option.map_some]

/-- A member whose values are told by its element. -/
theorem write?_inj_of {number : Nat} {e : Element α} {inject : α → κ}
    {project? : κ → Option α} (depth : Nat) (he : e.Lawful depth)
    (hproject : ∀ k a, project? k = some a → k = inject a) {k l : κ} {value : FieldValue}
    (hk : (Member.of number e inject project?).write? k = some value)
    (hl : (Member.of number e inject project?).write? l = some value) : k = l := by
  obtain ⟨a, ha, rfl⟩ := Option.map_eq_some_iff.mp hk
  obtain ⟨b, hb, hab⟩ := Option.map_eq_some_iff.mp hl
  rw [hproject k a ha, hproject l b hb, he.write_inj b a hab]

/-- A number finds the member that it was given to. Induction on the members. -/
theorem find?_number {members : List (Member κ)} (hnodup : (members.map (·.number)).Nodup)
    {m : Member κ} (hm : m ∈ members) :
    members.find? (·.number = m.number) = some m := by
  induction members with
  | nil => cases hm
  | cons n members ih =>
    rw [List.map_cons, List.nodup_cons] at hnodup
    rcases List.mem_cons.mp hm with rfl | hm
    · exact List.find?_cons_of_pos (decide_eq_true rfl)
    · have hne : n.number ≠ m.number := fun h =>
        hnodup.1 (List.mem_map.mpr ⟨m, hm, h.symm⟩)
      rw [List.find?_cons_of_neg (by simpa using hne)]
      exact ih hnodup.2 hm

/-- The only field of a choice is written by the member of its number. -/
theorem write?_of_fields_eq {members : List (Member κ)}
    (hnodup : (members.map (·.number)).Nodup) {m : Member κ} (hm : m ∈ members) {k : κ}
    {value : FieldValue} (h : (choice members).fields (some k) = [(m.number, value)]) :
    m.write? k = some value := by
  have hmem : (m.number, value) ∈ (choice members).fields (some k) := by
    rw [h]
    exact List.mem_singleton_self _
  obtain ⟨other, hother, hwrite⟩ := List.mem_filterMap.mp hmem
  obtain ⟨written, hwritten, hpair⟩ := Option.map_eq_some_iff.mp hwrite
  obtain ⟨hnumber, rfl⟩ := Prod.mk.inj hpair
  -- a number is that of one member only
  have hfound := find?_number hnodup hother
  rw [hnumber, find?_number hnodup hm] at hfound
  rw [Option.some.inj hfound]
  exact hwritten

theorem choice_faithful {members : List (Member κ)} (hmembers : LawfulMembers members depth) :
    (choice members).Faithful depth where
  number_mem k field hfield := by
    cases k with
    | none => cases hfield
    | some k =>
      obtain ⟨m, hm, value, hfields, -⟩ := hmembers.chosen k
      rw [hfields] at hfield
      obtain rfl := List.mem_singleton.mp hfield
      exact List.mem_map_of_mem hm
  shaped k field hfield := by
    cases k with
    | none => cases hfield
    | some k =>
      obtain ⟨m, -, value, hfields, hshaped, -⟩ := hmembers.chosen k
      rw [hfields] at hfield
      obtain rfl := List.mem_singleton.mp hfield
      exact hshaped
  size_eq k := by
    cases k with
    | none => rfl
    | some k =>
      obtain ⟨m, -, value, hfields, hshaped, hsize, -⟩ := hmembers.chosen k
      rw [encode_single hfields, length_writeField m.number hshaped, hsize]
  fields_inj hnodup k l h := by
    cases k with
    | none =>
      cases l with
      | none => rfl
      | some l =>
        -- a choice that is made writes a field, and none writes nothing
        obtain ⟨m, -, value, hl, -⟩ := hmembers.chosen l
        cases h.trans hl
    | some k =>
      obtain ⟨m, hm, value, hk, -⟩ := hmembers.chosen k
      cases l with
      | none => cases hk.symm.trans h
      | some l =>
        -- one field, so one number and one member, which tells its values
        have hkwrite := write?_of_fields_eq hnodup hm hk
        have hlwrite := write?_of_fields_eq hnodup hm (h.symm.trans hk)
        rw [hmembers.write?_inj m hm k l value hkwrite hlwrite]
  read_fields limit entries k hnodup hlimit hlen hentries := by
    cases k with
    | none =>
      have hnil : entries.filter (·.number ∈ members.map (·.number)) = [] := hentries
      show ((((entries.filter (·.number ∈ members.map (·.number))).splitBy _).mapM
        (readRun members limit)).map (·.getLast?)) = some none
      rw [hnil]
      rfl
    | some k =>
      obtain ⟨m, hm, value, hfields, -, -, hread⟩ := hmembers.chosen k
      have hvalue := length_single hfields hlen
      -- one field is one entry, and one run of entries, which the member of its number reads
      have hone : entries.filter (·.number ∈ members.map (·.number)) =
          [⟨m.number, some value⟩] :=
        hentries.trans (congrArg (List.map Entry.ofField) hfields)
      have hrun : readRun members limit [⟨m.number, some value⟩] = some k := by
        show (members.find? (·.number = m.number)).bind (fun m => m.combine limit [value]) = some k
        rw [find?_number hnodup hm]
        exact hread limit hlimit hvalue
      show ((((entries.filter (·.number ∈ members.map (·.number))).splitBy _).mapM
        (readRun members limit)).map (·.getLast?)) = some (some k)
      rw [hone]
      show (([[⟨m.number, some value⟩]].mapM (readRun members limit)).map (·.getLast?)) = _
      rw [List.mapM_cons, hrun]
      rfl

/-! ## Formats put together -/

/-- Entries that are some fields are these fields for every part of the numbers, too. -/
theorem filter_of_subset {entries : List Entry} {fields : List (Nat × FieldValue)}
    {numbers part : List Nat}
    (h : entries.filter (·.number ∈ numbers) = fields.map Entry.ofField)
    (hpart : ∀ n ∈ part, n ∈ numbers) :
    entries.filter (·.number ∈ part) = (fields.filter (·.1 ∈ part)).map Entry.ofField := by
  rw [← Entry.filter_map_ofField, ← h, List.filter_filter]
  congr 1
  funext entry
  by_cases hentry : entry.number ∈ part
  · simp [hentry, hpart _ hentry]
  · simp [hentry]

/-- Of the fields of both, those with the numbers of one are the fields of that one. -/
theorem filter_fields_and {f : Format α} {g : Format β} (hf : f.Faithful depth)
    (hg : g.Faithful depth) (hnodup : (f.and g).numbers.Nodup) (a : α × β) :
    ((f.and g).fields a).filter (·.1 ∈ f.numbers) = f.fields a.1 ∧
      ((f.and g).fields a).filter (·.1 ∈ g.numbers) = g.fields a.2 := by
  obtain ⟨-, -, hdisjoint⟩ := List.nodup_append.mp hnodup
  constructor
  · rw [and, List.filter_append,
      List.filter_eq_self.mpr fun field h => decide_eq_true (hf.number_mem a.1 field h),
      List.filter_eq_nil_iff.mpr fun field h hmem => ?_, List.append_nil]
    exact hdisjoint _ (of_decide_eq_true hmem) _ (hg.number_mem a.2 field h) rfl
  · rw [and, List.filter_append,
      List.filter_eq_self.mpr fun field h => decide_eq_true (hg.number_mem a.2 field h),
      List.filter_eq_nil_iff.mpr fun field h hmem => ?_, List.nil_append]
    exact hdisjoint _ (hf.number_mem a.1 field h) _ (of_decide_eq_true hmem) rfl

theorem and_faithful {f : Format α} {g : Format β} (hf : f.Faithful depth)
    (hg : g.Faithful depth) : (f.and g).Faithful depth where
  number_mem a field hfield := by
    rcases List.mem_append.mp hfield with hfield | hfield
    · exact List.mem_append_left _ (hf.number_mem a.1 field hfield)
    · exact List.mem_append_right _ (hg.number_mem a.2 field hfield)
  shaped a field hfield := by
    rcases List.mem_append.mp hfield with hfield | hfield
    · exact hf.shaped a.1 field hfield
    · exact hg.shaped a.2 field hfield
  size_eq a := by
    show f.size a.1 + g.size a.2 = (writeFields (f.fields a.1 ++ g.fields a.2)).length
    rw [writeFields_append, List.length_append, hf.size_eq, hg.size_eq]
    rfl
  fields_inj hnodup a b h := by
    obtain ⟨hfnodup, hgnodup, -⟩ := List.nodup_append.mp hnodup
    obtain ⟨hfa, hga⟩ := filter_fields_and hf hg hnodup a
    obtain ⟨hfb, hgb⟩ := filter_fields_and hf hg hnodup b
    -- equal fields are equal on the numbers of either format
    rw [h] at hfa hga
    exact Prod.ext (hf.fields_inj hfnodup a.1 b.1 (hfa.symm.trans hfb))
      (hg.fields_inj hgnodup a.2 b.2 (hga.symm.trans hgb))
  read_fields limit entries a hnodup hlimit hlen hentries := by
    obtain ⟨hfnodup, hgnodup, -⟩ := List.nodup_append.mp hnodup
    obtain ⟨hffields, hgfields⟩ := filter_fields_and hf hg hnodup a
    have hlengths : (f.encode a.1).length + (g.encode a.2).length < 2 ^ 64 := by
      rw [← List.length_append, encode, encode, ← writeFields_append]
      exact hlen
    -- of the entries of both, each format sees those of its own numbers
    have hfentries : entries.filter (·.number ∈ f.numbers) =
        (f.fields a.1).map Entry.ofField := by
      rw [filter_of_subset hentries fun n hn => List.mem_append_left _ hn, hffields]
    have hgentries : entries.filter (·.number ∈ g.numbers) =
        (g.fields a.2).map Entry.ofField := by
      rw [filter_of_subset hentries fun n hn => List.mem_append_right _ hn, hgfields]
    have hfread := hf.read_fields limit entries a.1 hfnodup hlimit (by omega) hfentries
    have hgread := hg.read_fields limit entries a.2 hgnodup hlimit (by omega) hgentries
    dsimp only [and]
    rw [hfread, hgread]

theorem via_faithful {f : Format α} {make : α → β} {parts : β → α} (hf : f.Faithful depth)
    (hmake : ∀ b, make (parts b) = b) : (f.via make parts).Faithful depth where
  number_mem b := hf.number_mem (parts b)
  shaped b := hf.shaped (parts b)
  size_eq b := hf.size_eq (parts b)
  fields_inj hnodup b c h := by
    rw [← hmake b, ← hmake c, hf.fields_inj hnodup (parts b) (parts c) h]
  read_fields limit entries b hnodup hlimit hlen hentries := by
    have hread := hf.read_fields limit entries (parts b) hnodup hlimit hlen hentries
    show (f.read limit entries).map make = some b
    rw [hread, Option.map_some, hmake]

end Format

end ChainClaim
