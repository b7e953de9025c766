import ChainClaim.Proofs.Envelope.Reading
import ChainClaim.Proofs.Wire.Prefixes
import Mathlib

/-!
# Truncated envelopes

A reader that finds a claim truncated says how far it came and how many bytes are missing, and it
keeps count: as long as fewer bytes come than it asked for, it asks for the others
(`read_truncated`). Both numbers come from the place where the reading stopped, which is in the
header or in one frame behind any number of whole ones. What is done with the frames afterwards has
faults of its own, but none of them is a truncation (`Final`), so the count of the walk is the count
of the claim.
-/

namespace ChainClaim

variable {α β : Type}

/-! ## Faults that are final -/

/-- A step that more input cannot mend where it fails. -/
def Final (x : Except Error α) : Prop :=
  ∀ e, x = .error e → e.isRetryable = false

namespace Final

theorem ok (a : α) : Final (.ok a) := nofun

theorem error {e : Error} (h : e.isRetryable = false) : Final (.error e : Except Error α) := by
  intro other hother
  cases hother
  exact h

theorem bind {x : Except Error α} {f : α → Except Error β} (hx : Final x)
    (hf : ∀ a, Final (f a)) : Final (x >>= f) := by
  cases x with
  | error e => exact error (hx e rfl)
  | ok a => exact hf a

/-- Induction on the list. -/
theorem foldlM {f : β → α → Except Error β} (hf : ∀ b a, Final (f b a)) (b : β) (as : List α) :
    Final (as.foldlM f b) := by
  induction as generalizing b with
  | nil => exact ok b
  | cons a as ih =>
    rw [List.foldlM_cons]
    exact (hf b a).bind ih

end Final

namespace Envelope

theorem observe_final (signs : Signs) (frame : Frame) : Final (signs.observe frame) := by
  unfold Signs.observe
  split
  · split
    · exact .error rfl
    split
    · exact .error rfl
    · exact .ok _
  · split
    · exact .ok _
    · exact .ok _

theorem variantOf_final (frames : List Frame) : Final (variantOf frames) := by
  refine (Final.foldlM observe_final {} frames).bind fun signs => ?_
  split
  · exact .error rfl
  · exact .error rfl
  · exact .ok _

theorem headerVarint_final (number stop : Nat) (frame : Option Frame) :
    Final (headerVarint number stop frame) := by
  unfold headerVarint
  split
  · exact .error rfl
  split
  · split
    · exact .ok _
    · exact .error rfl
  · exact .error rfl

theorem bodyBytes_final (number stop : Nat) (frame : Option Frame) :
    Final (bodyBytes number stop frame) := by
  unfold bodyBytes
  split
  · exact .error rfl
  split
  · split
    · exact .ok _
    · exact .error rfl
  · exact .error rfl

theorem claimType_final (tag : Nat) : Final (claimType tag) := by
  unfold claimType
  split
  · exact .ok _
  · exact .ok _
  · exact .error rfl

theorem flatSignature_final (variant : Variant) (stop : Nat) (frames : List Frame) :
    Final (flatSignature variant stop frames) := by
  unfold flatSignature
  split
  · exact .ok _
  · exact .error rfl
  split
  · exact .error rfl
  split
  · exact .error rfl
  · exact (bodyBytes_final _ _ _).bind fun block => .ok _

/-! ## Counting what is missing -/

/-- A reader that keeps count of what is missing. Where it finds a buffer truncated, it names the
end of the buffer and asks for some bytes, and as long as fewer come it asks for the others. -/
def Counts (read : Bytes → Except Error α) : Prop :=
  ∀ buffer offset needed, read buffer = .error (.truncated offset needed) →
    offset = buffer.length ∧ 0 < needed ∧ ∀ more : Bytes, more.length < needed →
      read (buffer ++ more) = .error (.truncated (offset + more.length) (needed - more.length))

/-- What is done with what was read, and with the buffer, finds no truncation of its own. -/
theorem Counts.bind {read : Bytes → Except Error α} {f : Bytes → α → Except Error β}
    (hread : Counts read) (hf : ∀ buffer a, Final (f buffer a)) :
    Counts fun buffer => read buffer >>= f buffer := by
  intro buffer offset needed h
  dsimp only at h ⊢
  cases hfirst : read buffer with
  | ok a =>
    -- the truncation would be one of the second step, which has none
    rw [hfirst] at h
    cases hf buffer a _ h
  | error e =>
    rw [hfirst] at h
    cases h
    obtain ⟨hoffset, hneeded, hmore⟩ := hread buffer offset needed hfirst
    refine ⟨hoffset, hneeded, fun more hless => ?_⟩
    rw [hmore more hless]
    rfl

/-- A walk counts what its last frame misses. -/
theorem readFrom_counts (start : Nat) : Counts fun buffer => Frame.readFrom buffer start := by
  intro buffer offset needed h
  have hwalk : Frame.readAll start (buffer.drop start) = .error (.truncated offset needed) := h
  rcases Nat.lt_or_ge buffer.length start with hshort | hle
  · -- nothing stands at the start, so there is nothing to be cut off
    rw [List.drop_of_length_le (Nat.le_of_lt hshort), Frame.readAll_nil] at hwalk
    cases hwalk
  -- stated for all that may come, since where the buffer ends is said by each of them
  have htruncated : ∀ more, offset = start + (buffer.drop start).length ∧ 0 < needed ∧
      (more.length < needed → Frame.readFrom (buffer ++ more) start =
        .error (.truncated (offset + more.length) (needed - more.length))) := by
    intro more
    have honward := Frame.readAll_onward hwalk more
    rw [hwalk, ← List.drop_append_of_le_length hle] at honward
    exact honward.of_truncated
  obtain ⟨hoffset, hneeded, -⟩ := htruncated []
  refine ⟨?_, hneeded, fun more => (htruncated more).2.2⟩
  rw [hoffset, List.length_drop]
  omega

theorem readPrefixed_counts (start : Nat) (span : Option Span) :
    Counts fun buffer => readPrefixed buffer start span :=
  (readFrom_counts start).bind fun _ frames => (variantOf_final frames).bind fun _ => .ok _

theorem readFlat_counts : Counts readFlat := by
  -- the frames are all read at first; each later step looks at one of them
  refine (readFrom_counts 0).bind fun buffer frames => ?_
  refine (headerVarint_final _ _ _).bind fun version => ?_
  split
  · exact .error rfl
  refine (headerVarint_final _ _ _).bind fun tag => ?_
  refine (claimType_final tag).bind fun (variant, field) => ?_
  refine (bodyBytes_final _ _ _).bind fun payload => ?_
  exact (flatSignature_final _ _ _).bind fun (standing, signature, span) => .ok _

/-! ## Either layout -/

theorem read_signed (bs : Bytes) :
    read (0x01 :: bs) =
      if (0x01 :: bs).length < headerLength then
        .error (.truncated (0x01 :: bs).length (headerLength - (0x01 :: bs).length))
      else readPrefixed (0x01 :: bs) headerLength (some ⟨1, headerLength⟩) := rfl

/-- A claim that is found truncated is so at its end. As long as fewer bytes come than it misses, it
stays truncated, and what it misses is what has not come yet. -/
theorem read_truncated {b : Bytes} {offset needed : Nat}
    (h : read b = .error (.truncated offset needed)) :
    offset = b.length ∧ 0 < needed ∧ ∀ more : Bytes, more.length < needed →
      read (b ++ more) = .error (.truncated (offset + more.length) (needed - more.length)) := by
  cases b with
  | nil =>
    -- a marker is missing, and less than one byte is none
    cases h
    refine ⟨rfl, Nat.one_pos, fun more hless => ?_⟩
    rw [List.length_eq_zero_iff.mp (Nat.lt_one_iff.mp hless)]
    rfl
  | cons marker rest =>
    by_cases hunsigned : marker = unsignedMarker
    · subst hunsigned
      exact readPrefixed_counts 1 none _ _ _ h
    by_cases hsigned : marker = signedMarker
    · subst hsigned
      rw [signedMarker, read_signed] at h
      by_cases hshort : (0x01 :: rest).length < headerLength
      · -- cut off in the header, which is counted as a whole
        rw [if_pos hshort] at h
        cases h
        refine ⟨rfl, by omega, fun more hless => ?_⟩
        rw [List.cons_append, signedMarker, read_signed, ← List.cons_append, List.length_append,
          if_pos (by omega), Nat.sub_add_eq]
      · -- a header that is there stays there
        rw [if_neg hshort] at h
        obtain ⟨hoffset, hneeded, hmore⟩ := readPrefixed_counts headerLength _ _ _ _ h
        refine ⟨hoffset, hneeded, fun more hless => ?_⟩
        rw [List.cons_append, signedMarker, read_signed, ← List.cons_append,
          if_neg (by rw [List.length_append]; omega)]
        exact hmore more hless
    by_cases hflat : marker = flatMarker
    · subst hflat
      exact readFlat_counts _ _ _ h
    · rw [read, if_neg hunsigned, if_neg hsigned, if_neg hflat] at h
      cases h

/-- A body of five bytes of which one is there: four are missing, and two when two more came. -/
theorem read_truncated_body :
    read [0x00, 0x0a, 0x05, 0x61] = .error (.truncated 4 4) ∧
      read [0x00, 0x0a, 0x05, 0x61, 0x62, 0x63] = .error (.truncated 6 2) := by
  have hread : read [0x00, 0x0a, 0x05, 0x61] = .error (.truncated 4 4) := by cbv
  obtain ⟨-, -, hmore⟩ := read_truncated hread
  exact ⟨hread, hmore [0x62, 0x63] (by decide)⟩

end Envelope

end ChainClaim
