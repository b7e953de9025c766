import ChainClaim.Proofs.Wire.Framing
import ChainClaim.Wire.Frame

/-!
# Walks over frames

What a walk finds lies end to end (`Frame.Tiles`): the frames of written fields from the first
byte of the first to the last byte of the last, those of a buffer that is read up to its end, and
those of one that cannot be read up to the frame that cannot. A reader that is asked frame by frame
takes the same walk (`Reader.runs_walk`): by its steps the position moves on to the end of each
frame, and not at all on a fault.

`Frame.framing_invertible` puts the directions together: what is written is read, what is read is
written again, and a reader comes to an end on any bytes.
-/

namespace ChainClaim

/-! ## Frames end to end -/

namespace Frame

/-- Frames that lie end to end from one offset to another, none of them empty. -/
inductive Tiles : Nat → Nat → List Frame → Prop where
  | nil (pos : Nat) : Tiles pos pos []
  | cons {f : Frame} {stop : Nat} {frames : List Frame} (hforward : f.start < f.stop)
      (hrest : Tiles f.stop stop frames) : Tiles f.start stop (f :: frames)

/-- Fields that are written one after the other. Induction on the fields. -/
theorem tiles_placed (pos : Nat) (fields : List (Nat × FieldValue)) :
    Tiles pos (pos + (writeFields fields).length) (placed pos fields) := by
  induction fields generalizing pos with
  | nil => exact .nil pos
  | cons field fields ih =>
    obtain ⟨number, value⟩ := field
    have hpos := length_writeField_pos number value
    -- where this field ends the next one begins
    have hrest := ih (pos + (writeField number value).length)
    rw [Nat.add_assoc, ← List.length_append, ← writeFields_cons (number, value)] at hrest
    exact .cons (f := ⟨number, pos, pos + (writeField number value).length, value⟩)
      (by show pos < pos + _; omega) hrest

/-- The frame of a field begins where those before it end, and ends with its own last byte.
Induction on the fields. -/
theorem span_of_placed {pos i : Nat} {fields : List (Nat × FieldValue)} {f : Frame}
    (h : (placed pos fields)[i]? = some f) :
    f.start = pos + (writeFields (fields.take i)).length ∧
      f.stop = pos + (writeFields (fields.take (i + 1))).length := by
  induction fields generalizing pos i with
  | nil => cases h
  | cons field fields ih =>
    obtain ⟨number, value⟩ := field
    cases i with
    | zero =>
      rw [placed, List.getElem?_cons_zero] at h
      cases h
      simp
    | succ i =>
      rw [placed, List.getElem?_cons_succ] at h
      obtain ⟨hstart, hstop⟩ := ih h
      simp only [List.take_succ_cons, writeFields_cons, List.length_append]
      omega

end Frame

/-! ## Readers -/

namespace Reader

variable {r behind last : Reader}

/-- Before the end and without a fault so far, a frame is tried. -/
theorem next?_of_lt (hfailed : r.failed = false) (hlt : r.position < r.buffer.length) :
    r.next? = match Frame.read r.position (r.buffer.drop r.position) with
      | .ok f => some (.ok f, { r with position := f.stop })
      | .error e => some (.error e, { r with failed := true }) := by
  have hgo : ¬(r.failed = true ∨ r.buffer.length ≤ r.position) := by
    rw [hfailed]
    simp only [Bool.false_eq_true, false_or]
    omega
  exact if_neg hgo

theorem next?_of_failed (h : r.failed = true) : r.next? = none :=
  if_pos (.inl h)

theorem next?_of_le (h : r.buffer.length ≤ r.position) : r.next? = none :=
  if_pos (.inr h)

/-- A frame that is given begins where the reader stands and takes it forward to its end. -/
theorem next?_eq_ok {f : Frame} (h : r.next? = some (.ok f, behind)) :
    f.start = r.position ∧ r.position < f.stop ∧ behind = { r with position := f.stop } := by
  unfold next? at h
  split at h
  · cases h
  split at h
  next hread =>
    cases h
    obtain ⟨hstart, hforward⟩ := Frame.read_bounds hread
    exact ⟨hstart, hforward, rfl⟩
  next => cases h

/-- A fault is that of the frame at the position, and there the reader stays. -/
theorem next?_eq_error {e : Error} (h : r.next? = some (.error e, behind)) :
    Frame.read r.position (r.buffer.drop r.position) = .error e ∧
      behind = { r with failed := true } := by
  unfold next? at h
  split at h
  · cases h
  split at h
  next => cases h
  next hread =>
    cases h
    exact ⟨hread, rfl⟩

/-- `r.Runs items last`: asked until it gives nothing more, the reader gives these items and is left
as `last`. -/
inductive Runs : Reader → List (Except Error Frame) → Reader → Prop where
  | done {r : Reader} (h : r.next? = none) : Runs r [] r
  | step {r behind last : Reader} {item : Except Error Frame} {items : List (Except Error Frame)}
      (h : r.next? = some (item, behind)) (hrest : Runs behind items last) :
      Runs r (item :: items) last

/-- The items of a walk: its frames, and behind them its fault if it has one. -/
def items (frames : List Frame) (fault : Option Error) : List (Except Error Frame) :=
  frames.map .ok ++ fault.toList.map .error

/-- The frames of a run lie end to end between the positions of the reader, and the fault is that of
the frame where it was left. Induction on the frames: each of them is a step. -/
theorem Runs.tiles {frames : List Frame} {fault : Option Error}
    (h : r.Runs (items frames fault) last) :
    Frame.Tiles r.position last.position frames ∧
      ∀ e, fault = some e →
        Frame.read last.position (r.buffer.drop last.position) = .error e := by
  induction frames generalizing r with
  | nil =>
    cases fault with
    | none =>
      cases h with
      | done _ => exact ⟨.nil _, nofun⟩
    | some e =>
      cases h with
      | step hnext hrest =>
        obtain ⟨hread, rfl⟩ := next?_eq_error hnext
        -- a reader that has failed gives nothing more, so the run is over
        cases hrest with
        | done _ =>
          refine ⟨.nil _, fun e' he' => ?_⟩
          cases he'
          exact hread
  | cons f frames ih =>
    cases h with
    | step hnext hrest =>
      obtain ⟨hstart, hforward, rfl⟩ := next?_eq_ok hnext
      obtain ⟨htiles, hfault⟩ := ih hrest
      -- the frame begins where the reader stood and is followed from its end
      rw [← hstart] at hforward ⊢
      exact ⟨.cons hforward htiles, hfault⟩

/-- A reader that is asked to the end gives what a walk finds, and is left where the walk stopped.
Induction on the length of what is left. -/
theorem runs_walk (buffer : Bytes) (start : Nat) :
    (startingAt buffer start).Runs
      (items (Frame.walk start (buffer.drop start)).frames
        (Frame.walk start (buffer.drop start)).fault)
      ⟨buffer, (Frame.walk start (buffer.drop start)).stop,
        (Frame.walk start (buffer.drop start)).fault.isSome⟩ := by
  induction hn : buffer.length - start using Nat.strongRecOn generalizing start with
  | ind n ih =>
    subst hn
    by_cases hend : buffer.length ≤ start
    · rw [List.drop_of_length_le hend, Frame.walk_nil]
      exact .done (next?_of_le hend)
    have hne : buffer.drop start ≠ [] := by
      rw [ne_eq, List.drop_eq_nil_iff]
      exact hend
    -- reader and walk try the same frame, and go on from its end or stop at its fault
    have hnext := next?_of_lt (r := startingAt buffer start) rfl (Nat.lt_of_not_le hend)
    cases hread : Frame.read start (buffer.drop start) with
    | error e =>
      rw [Frame.walk_of_error hne hread]
      rw [startingAt, hread] at hnext
      exact .step hnext (.done (next?_of_failed rfl))
    | ok f =>
      obtain ⟨-, hforward⟩ := Frame.read_bounds hread
      have hrest := ih (buffer.length - f.stop) (by omega) f.stop rfl
      rw [Frame.walk_of_ok hne hread, List.drop_drop, show start + (f.stop - start) = f.stop by omega]
      rw [startingAt, hread] at hnext
      exact .step hnext hrest

end Reader

/-! ## Both directions -/

namespace Frame

/-- Writing fields behind any bytes and reading from there gives the fields, each spanning what its
own writing added. What is read of a buffer lies end to end from where the walk began to the end of
the buffer, and writing it again gives the bytes that were read. On any bytes a reader comes to an
end: it gives the frames and the fault of the walk, the frames end to end, the fault last and at the
frame that it stopped at. Each frame takes the reader from where it stood to the end of the frame;
on a fault it stays and gives nothing more. -/
theorem framing_invertible :
    (∀ (before : Bytes) (fields : List (Nat × FieldValue)),
      (∀ field ∈ fields, WellFramed field) →
      ∃ frames, readFrom (before ++ writeFields fields) before.length = .ok frames ∧
        frames.map field = fields ∧ ∀ (i : Nat) (f : Frame), frames[i]? = some f →
          f.start = (before ++ writeFields (fields.take i)).length ∧
          f.stop = (before ++ writeFields (fields.take (i + 1))).length) ∧
    (∀ (buffer : Bytes) (start : Nat) (frames : List Frame), start ≤ buffer.length →
      readFrom buffer start = .ok frames →
      Tiles start buffer.length frames ∧ writeFields (frames.map field) = buffer.drop start) ∧
    (∀ (buffer : Bytes) (start : Nat), ∃ frames fault stop,
      walk start (buffer.drop start) = ⟨frames, fault, stop⟩ ∧
      (Reader.startingAt buffer start).Runs (Reader.items frames fault)
        ⟨buffer, stop, fault.isSome⟩ ∧
      Tiles start stop frames ∧
      ∀ e, fault = some e → read stop (buffer.drop stop) = .error e) ∧
    (∀ (r behind : Reader) (f : Frame), r.next? = some (.ok f, behind) →
      f.start = r.position ∧ r.position < f.stop ∧ behind.position = f.stop) ∧
    (∀ (r behind : Reader) (e : Error), r.next? = some (.error e, behind) →
      behind.position = r.position ∧ behind.next? = none) := by
  refine ⟨fun before fields hframed => ?_, fun buffer start frames hle hread => ?_,
    fun buffer start => ?_, fun r behind f hnext => ?_, fun r behind e hnext => ?_⟩
  · -- what is written is read, each field where it was written
    refine ⟨placed before.length fields, ?_, map_field_placed _ _, fun i f hf => ?_⟩
    · rw [readFrom, List.drop_left, readAll_placed hframed]
    · rw [List.length_append, List.length_append]
      exact span_of_placed hf
  · -- what is read was written: the frames are those of some fields, up to the end
    obtain ⟨fields, -, hbytes, rfl⟩ := readAll_eq_ok_iff.mp hread
    have hstop : start + (writeFields fields).length = buffer.length := by
      rw [← hbytes, List.length_drop]
      omega
    rw [map_field_placed, ← hbytes, ← hstop]
    exact ⟨tiles_placed start fields, rfl⟩
  · -- on any bytes the reader takes the walk, and a run lies end to end
    have hruns := Reader.runs_walk buffer start
    exact ⟨_, _, _, rfl, hruns, hruns.tiles⟩
  · obtain ⟨hstart, hforward, rfl⟩ := Reader.next?_eq_ok hnext
    exact ⟨hstart, hforward, rfl⟩
  · obtain ⟨-, rfl⟩ := Reader.next?_eq_error hnext
    exact ⟨rfl, Reader.next?_of_failed rfl⟩

/-- Two fields behind a byte that is none, and a reader that stops behind the first of them, at the
key of a group. -/
theorem framing_invertible_pair :
    ∃ frames, readFrom [0xff, 0x10, 0x01, 0x2a, 0x02, 0xaa, 0xbb] 1 = .ok frames ∧
      frames.map field = [(2, .varint 1), (5, .delimited [0xaa, 0xbb])] ∧ Tiles 1 7 frames ∧
      writeFields (frames.map field) = [0x10, 0x01, 0x2a, 0x02, 0xaa, 0xbb] ∧
      ∃ behind last,
        (Reader.startingAt [0x10, 0x01, 0x0b] 0).next? =
          some (.ok ⟨2, 0, 2, .varint 1⟩, behind) ∧ behind.position = 2 ∧
        behind.next? = some (.error (.malformed 2 .wireType), last) ∧ last.position = 2 ∧
        last.next? = none := by
  obtain ⟨hreads, hwrites, -, hsteps, hfaults⟩ := framing_invertible
  have hframed : ∀ field ∈ [(2, FieldValue.varint 1), (5, .delimited [0xaa, 0xbb])],
      WellFramed field := by
    refine List.forall_mem_cons.mpr ⟨?_, List.forall_mem_singleton.mpr ?_⟩
    · exact ⟨by decide, by decide, show (1 : Nat) < 2 ^ 64 by decide, trivial⟩
    · exact ⟨by decide, by decide, trivial, show (2 : Nat) < 2 ^ 64 by decide⟩
  have hbytes : writeFields [(2, .varint 1), (5, .delimited [0xaa, 0xbb])] =
      [0x10, 0x01, 0x2a, 0x02, 0xaa, 0xbb] := by decide +kernel
  obtain ⟨frames, hread, hfields, -⟩ := hreads [0xff] _ hframed
  rw [hbytes] at hread
  obtain ⟨htiles, hwritten⟩ := hwrites _ _ _ (by decide) hread
  have hfirst : (Reader.startingAt [0x10, 0x01, 0x0b] 0).next? =
      some (.ok ⟨2, 0, 2, .varint 1⟩, ⟨[0x10, 0x01, 0x0b], 2, false⟩) := by rfl
  have hsecond : (Reader.mk [0x10, 0x01, 0x0b] 2 false).next? =
      some (.error (.malformed 2 .wireType), ⟨[0x10, 0x01, 0x0b], 2, true⟩) := by rfl
  obtain ⟨hposition, hended⟩ := hfaults _ _ _ hsecond
  exact ⟨frames, hread, hfields, htiles, hwritten, _, _, hfirst, (hsteps _ _ _ hfirst).2.2, hsecond,
    hposition, hended⟩

end Frame

end ChainClaim
