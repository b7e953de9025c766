import ChainClaim.Proofs.Wire.Framing

/-!
# Reading a part of a buffer

A buffer may be read before all of it is there. `Onward` says what a verdict on the first part is
worth: a value stays what it is and so does a fault that more input cannot mend, while a truncation
names the end of the part and how many bytes are missing at least. The readers of varints, values
and frames are all of this kind (`Steady`), one step for each of their parts.

A walk over frames is not: it takes the end of the part for the end of the buffer. It finds the
frames that lie in the part as a whole (`Frame.readAll_append`), so some fields are cut at the end
of one of them, or the walk is truncated (`Frame.readAll_cut`). Its faults are of this kind
(`Frame.readAll_onward`): each is a fault of the one frame that it stopped at.
-/

namespace ChainClaim

variable {α β : Type} {pos : Nat}

/-- The verdicts of a reader on a part of a buffer, which ends at offset `stop`, and on the part
with `more` behind it. -/
inductive Onward (stop : Nat) (more : Bytes) : Except Error α → Except Error α → Prop where
  | ok (a : α) : Onward stop more (.ok a) (.ok a)
  | final (e : Error) (hfinal : e.isRetryable = false) : Onward stop more (.error e) (.error e)
  | truncated (needed : Nat) (later : Except Error α) (hneeded : 0 < needed)
      (hlater : more.length < needed →
        later = .error (.truncated (stop + more.length) (needed - more.length))) :
      Onward stop more (.error (.truncated stop needed)) later

namespace Onward

variable {stop : Nat} {more : Bytes}

/-- What is done with a value goes on as it would with the whole. -/
theorem bind {x y : Except Error α} {f g : α → Except Error β} (h : Onward stop more x y)
    (hf : ∀ a, x = .ok a → Onward stop more (f a) (g a)) :
    Onward stop more (x >>= f) (y >>= g) := by
  cases h with
  | ok a => exact hf a rfl
  | final e he => exact .final e he
  | truncated needed _ hneeded hlater =>
    refine .truncated needed _ hneeded fun hmore => ?_
    rw [hlater hmore]
    rfl

theorem map {x y : Except Error α} (h : Onward stop more x y) (f : α → β) :
    Onward stop more (x.map f) (y.map f) := by
  cases h with
  | ok a => exact .ok (f a)
  | final e he => exact .final e he
  | truncated needed _ hneeded hlater =>
    refine .truncated needed _ hneeded fun hmore => ?_
    rw [hlater hmore]
    rfl

theorem eq_of_final {e : Error} {later : Except Error α} (h : Onward stop more (.error e) later)
    (hfinal : e.isRetryable = false) : later = .error e := by
  cases h with
  | final => rfl
  | truncated => cases hfinal

/-- What a truncation says of the buffer and of what may come. -/
theorem of_truncated {offset needed : Nat} {later : Except Error α}
    (h : Onward stop more (.error (.truncated offset needed)) later) :
    offset = stop ∧ 0 < needed ∧ (more.length < needed →
      later = .error (.truncated (offset + more.length) (needed - more.length))) := by
  cases h with
  | final _ hfinal => cases hfinal
  | truncated _ _ hneeded hlater => exact ⟨rfl, hneeded, hlater⟩

end Onward

/-- A reader of what stands at offset `pos`, whose verdict on a part of it holds for the whole. -/
def Steady (pos : Nat) (read : Bytes → Except Error α) : Prop :=
  ∀ bs more, Onward (pos + bs.length) more (read bs) (read (bs ++ more))

namespace Steady

theorem pure (a : α) : Steady pos fun _ => .ok a := fun _ _ => .ok a

theorem fail {e : Error} (h : e.isRetryable = false) :
    Steady pos fun _ => (.error e : Except Error α) := fun _ _ => .final e h

/-- What reads on behind what it has read, `w` bytes further. -/
theorem bind {f : Bytes → Except Error α} {w : α → Nat} {g : α → Bytes → Except Error β}
    (hf : Steady pos f) (hwidth : ∀ bs a, f bs = .ok a → w a ≤ bs.length)
    (hg : ∀ a, Steady (pos + w a) (g a)) :
    Steady pos fun bs => f bs >>= fun a => g a (bs.drop (w a)) := by
  intro bs more
  refine (hf bs more).bind fun a hread => ?_
  -- what is read second stands behind the first and ends where the buffer does
  have hle := hwidth bs a hread
  have hsecond := hg a (bs.drop (w a)) more
  rw [List.length_drop, Nat.add_assoc, Nat.add_sub_cancel' hle,
    ← List.drop_append_of_le_length hle] at hsecond
  exact hsecond

theorem map {f : Bytes → Except Error α} (hf : Steady pos f) (h : α → β) :
    Steady pos fun bs => f bs >>= fun a => .ok (h a) :=
  hf.bind (w := fun _ => 0) (g := fun a _ => .ok (h a)) (fun _ _ _ => Nat.zero_le _)
    fun a => .pure (h a)

end Steady

/-! ## Varints and values -/

theorem Varint.readFrom_maxLength (start : Nat) (bs : Bytes) :
    readFrom start maxLength bs = .error (.malformed start .varintTooLong) := by
  cases bs with
  | nil | cons => rw [readFrom, if_pos rfl]

/-- Induction on the bytes: each group is read in its turn. -/
theorem Varint.readFrom_steady (start i : Nat) : Steady (start + i) (readFrom start i) := by
  intro bs more
  induction bs generalizing i with
  | nil =>
    by_cases hi : i = maxLength
    · rw [hi, readFrom_maxLength, readFrom_maxLength]
      exact .final _ rfl
    · rw [readFrom, if_neg hi]
      -- one byte is asked for, and only nothing is less
      refine .truncated 1 _ Nat.one_pos fun hmore => ?_
      rw [List.length_eq_zero_iff.mp (Nat.lt_one_iff.mp hmore), List.append_nil, readFrom,
        if_neg hi]
      rfl
  | cons b rest ih =>
    -- a group that is there is judged by itself, so both readers take the same branch
    by_cases hi : i = maxLength
    · rw [hi, readFrom_maxLength, readFrom_maxLength]
      exact .final _ rfl
    rw [List.cons_append, readFrom, readFrom, if_neg hi, if_neg hi]
    by_cases hover : i = 9 ∧ 1 < b.toNat
    · rw [if_pos hover, if_pos hover]
      exact .final _ rfl
    rw [if_neg hover, if_neg hover]
    by_cases hlast : b.toNat < 128
    · rw [if_pos hlast, if_pos hlast]
      by_cases hzero : 0 < i ∧ b = 0
      · rw [if_pos hzero]
        exact .final _ rfl
      · rw [if_neg hzero]
        exact .ok _
    · rw [if_neg hlast, if_neg hlast]
      -- the verdict on the groups that follow is the verdict on this one with them
      have hrest := ih (i + 1)
      have hstop : start + (i + 1) + rest.length = start + i + (b :: rest).length := by
        rw [List.length_cons]
        omega
      rw [hstop] at hrest
      generalize readFrom start (i + 1) rest = x at hrest ⊢
      generalize readFrom start (i + 1) (rest ++ more) = y at hrest ⊢
      cases hrest with
      | ok v => exact .ok _
      | final e he => exact .final e he
      | truncated needed _ hneeded hlater =>
        refine .truncated needed _ hneeded fun hmore => ?_
        rw [hlater hmore]

theorem Varint.read_steady (pos : Nat) : Steady pos (read pos) := readFrom_steady pos 0

theorem takeBytes_steady (pos length : Nat) : Steady pos (takeBytes pos length) := by
  intro bs more
  unfold takeBytes
  by_cases hshort : bs.length < length
  · -- what is missing is counted, and what has come since is taken off the count
    rw [if_pos hshort]
    refine .truncated _ _ (by omega) fun hmore => ?_
    rw [List.length_append, if_pos (by omega), Nat.add_assoc, Nat.sub_add_eq]
  · rw [if_neg hshort, List.length_append, if_neg (by omega),
      List.take_append_of_le_length (by omega)]
    exact .ok _

theorem FieldValue.read_steady (type : WireType) (pos : Nat) :
    Steady pos (FieldValue.read type pos) := by
  cases type with
  | varint => exact (Varint.read_steady pos).map fun x => (FieldValue.varint x.1, x.2)
  | fixed64 => exact (takeBytes_steady pos 8).map fun bytes => (FieldValue.fixed64 bytes, 8)
  | fixed32 => exact (takeBytes_steady pos 4).map fun bytes => (FieldValue.fixed32 bytes, 4)
  | delimited =>
    -- the bytes are read behind their length, as many as it says
    have hbody : ∀ x : Nat × Nat, Steady (pos + x.2) fun bs =>
        takeBytes (pos + x.2) x.1 bs >>= fun bytes =>
          .ok (FieldValue.delimited bytes, x.2 + x.1) :=
      fun x => (takeBytes_steady (pos + x.2) x.1).map _
    exact (Varint.read_steady pos).bind (w := Prod.snd) (fun _ _ hx => (Varint.read_length hx).2)
      hbody

/-! ## Frames -/

namespace Frame

/-- Reads on behind the key of a frame, which stands at offset `pos`. -/
def readBehind (pos : Nat) (key : Nat × Nat) (bs : Bytes) : Except Error Frame :=
  if key.1 / 8 = 0 ∨ maxFieldNumber < key.1 / 8 then .error (.malformed pos .fieldNumber)
  else
    match WireType.ofBits? (key.1 % 8) with
    | none => .error (.malformed pos .wireType)
    | some type =>
      FieldValue.read type (pos + key.2) bs >>= fun value =>
        .ok ⟨key.1 / 8, pos, pos + key.2 + value.2, value.1⟩

theorem read_eq_bind (pos : Nat) (bs : Bytes) :
    read pos bs = Varint.read pos bs >>= fun key => readBehind pos key (bs.drop key.2) := by
  rw [read]
  cases Varint.read pos bs with
  | error e => rfl
  | ok key =>
    obtain ⟨key, width⟩ := key
    rw [Outcome.ok_bind, readBehind]
    dsimp only
    split
    · rfl
    cases WireType.ofBits? (key % 8) with
    | none => rfl
    | some type =>
      dsimp only
      cases FieldValue.read type (pos + width) (bs.drop width) with
      | error | ok => rfl

theorem readBehind_steady (pos : Nat) (key : Nat × Nat) :
    Steady (pos + key.2) (readBehind pos key) := by
  unfold readBehind
  split
  · exact .fail rfl
  split
  · exact .fail rfl
  next type _ =>
    exact (FieldValue.read_steady type (pos + key.2)).map _

theorem read_steady (pos : Nat) : Steady pos (read pos) := by
  rw [funext (read_eq_bind pos)]
  exact (Varint.read_steady pos).bind (fun _ _ hx => (Varint.read_length hx).2)
    (readBehind_steady pos)

/-! ## Walks -/

/-- What follows the frames of a buffer is read behind them. Induction on the fields in it. -/
theorem readAll_append {bs : Bytes} {frames : List Frame} (h : readAll pos bs = .ok frames)
    (more : Bytes) :
    readAll pos (bs ++ more) = (readAll (pos + bs.length) more).map (frames ++ ·) := by
  obtain ⟨fields, hframed, rfl, rfl⟩ := readAll_eq_ok_iff.mp h
  -- the frames are given by the fields now, and the induction is on these
  clear h
  induction fields generalizing pos with
  | nil =>
    rw [writeFields_nil, List.nil_append]
    cases readAll (pos + [].length) more with
    | error | ok => rfl
  | cons field fields ih =>
    obtain ⟨number, value⟩ := field
    rw [List.forall_mem_cons] at hframed
    rw [writeFields_cons, List.append_assoc,
      readAll_of_ne_nil (writeField_append_ne_nil number value _), read_writeField hframed.1]
    simp only [Except.bind]
    rw [Nat.add_sub_cancel_left, List.drop_left, ih hframed.2, List.length_append, Nat.add_assoc]
    cases readAll (pos + _) more with
    | error | ok => rfl

/-- A fault of a walk is that of the frame that it stopped at. Induction on the length of what is
left. -/
theorem readAll_onward {bs : Bytes} {e : Error} (h : readAll pos bs = .error e) (more : Bytes) :
    Onward (pos + bs.length) more (readAll pos bs) (readAll pos (bs ++ more)) := by
  induction hn : bs.length using Nat.strongRecOn generalizing pos bs with
  | ind n ih =>
    subst hn
    have hne : bs ≠ [] := by
      rintro rfl
      rw [readAll_nil] at h
      cases h
    have hmore : bs ++ more ≠ [] := fun hnil => hne (List.append_eq_nil_iff.mp hnil).1
    rw [readAll_of_ne_nil hne] at h ⊢
    rw [readAll_of_ne_nil hmore]
    -- the fault is the first frame's, by steadiness, or lies behind it, by induction
    refine (read_steady pos bs more).bind fun f hread => Onward.map ?_ _
    -- the frame is read of the longer buffer, too, and the fault lies behind it
    rw [hread] at h
    have hrest := Outcome.map_eq_error.mp h
    have hpos := (read_bounds hread).2
    obtain ⟨-, -, hstop, rest, hbs⟩ := read_sound hread
    have hlength := congrArg List.length hbs
    rw [List.length_append] at hlength
    have hbehind := ih (bs.drop (f.stop - pos)).length (by rw [List.length_drop]; omega) hrest rfl
    rw [List.length_drop, show f.stop + (bs.length - (f.stop - pos)) = pos + bs.length from by omega,
      ← List.drop_append_of_le_length (by omega)] at hbehind
    exact hbehind

/-- A fault that more input cannot mend stays the fault. -/
theorem readAll_append_of_final {bs : Bytes} {e : Error} (h : readAll pos bs = .error e)
    (hfinal : e.isRetryable = false) (more : Bytes) : readAll pos (bs ++ more) = .error e := by
  have honward := readAll_onward h more
  rw [h] at honward
  exact honward.eq_of_final hfinal

/-- Some fields are cut at the end of one of them, or a walk over the first part is truncated. -/
theorem readAll_cut {fields : List (Nat × FieldValue)}
    (hframed : ∀ field ∈ fields, WellFramed field) {bs more : Bytes}
    (h : bs ++ more = writeFields fields) (pos : Nat) :
    (∃ done, done <+: fields ∧ bs = writeFields done) ∨
      ∃ e, readAll pos bs = .error e ∧ e.isRetryable = true := by
  have hall := readAll_placed hframed pos
  rw [← h] at hall
  cases hread : readAll pos bs with
  | error e =>
    cases hfinal : e.isRetryable with
    | true => exact .inr ⟨e, rfl, hfinal⟩
    | false =>
      -- the whole would have the fault of its part, but it has none
      rw [readAll_append_of_final hread hfinal more] at hall
      cases hall
  | ok frames =>
    left
    -- the frames of the part are the first ones of the whole, so their fields are
    rw [readAll_append hread more] at hall
    obtain ⟨done, -, hbs, rfl⟩ := readAll_eq_ok_iff.mp hread
    obtain ⟨others, -, hplaced⟩ := Outcome.map_eq_ok.mp hall
    have hfields := congrArg (List.map field) hplaced
    rw [List.map_append, map_field_placed, map_field_placed] at hfields
    exact ⟨done, ⟨others.map field, hfields⟩, hbs⟩

end Frame

end ChainClaim
