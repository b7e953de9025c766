import ChainClaim.Proofs.Wire.Prefixes

/-!
# Reading at another offset

Where bytes stand has no part in what they are read as. Readers are given an offset only to say
where a frame stands or what is wrong with it, so bytes that stand `k` further on are read the same,
with all places that are named `k` further on (`moved`): varints, values, frames and walks, each
from the law of its parts.

With what is known of a buffer that is cut in two (`Frame.readAll_append`,
`Frame.readAll_append_of_final`) this gives the walk over a whole from the walks over its parts,
each taken by itself (`Frame.readFrom_append_moved`).
-/

namespace ChainClaim

variable {α β : Type}

/-- The same error, found `k` bytes further on. How much is missing does not change. -/
def Error.shift (k : Nat) : Error → Error
  | .malformed offset what => .malformed (offset + k) what
  | .truncated offset needed => .truncated (offset + k) needed
  | e => e

/-- The same frame, `k` bytes further on. -/
def Frame.shift (k : Nat) (f : Frame) : Frame :=
  { f with start := f.start + k, stop := f.stop + k }

/-- The verdict on what stands `k` bytes further on, given how values are moved. -/
def moved (k : Nat) (shift : α → α) : Except Error α → Except Error α
  | .ok a => .ok (shift a)
  | .error e => .error (e.shift k)

/-- What is done with a value that was read further on is done further on, too. -/
theorem moved_bind {k : Nat} {shift : α → α} {shift' : β → β} {x : Except Error α}
    {f g : α → Except Error β} (h : ∀ a, x = .ok a → g (shift a) = moved k shift' (f a)) :
    moved k shift x >>= g = moved k shift' (x >>= f) := by
  cases x with
  | error e => rfl
  | ok a => exact h a rfl

/-! ## Varints and values -/

/-- Induction on the bytes: each group is read as it is elsewhere. -/
theorem Varint.readFrom_add (k start i : Nat) (bs : Bytes) :
    readFrom (start + k) i bs = moved k id (readFrom start i bs) := by
  induction bs generalizing i with
  | nil =>
    rw [readFrom, readFrom]
    split
    · rfl
    · rw [Nat.add_right_comm]
      rfl
  | cons b rest ih =>
    -- no branch looks at the offset; it stands in the errors only
    rw [readFrom, readFrom, ih]
    split
    · rfl
    split
    · rfl
    split
    · split
      · rfl
      · rfl
    · cases readFrom start (i + 1) rest with
      | error e => rfl
      | ok v => rfl

theorem Varint.read_add (k pos : Nat) (bs : Bytes) : read (pos + k) bs = moved k id (read pos bs) :=
  readFrom_add k pos 0 bs

theorem takeBytes_add (k pos length : Nat) (bs : Bytes) :
    takeBytes (pos + k) length bs = moved k id (takeBytes pos length bs) := by
  unfold takeBytes
  split
  · rw [Nat.add_right_comm]
    rfl
  · rfl

theorem FieldValue.read_add (type : WireType) (k pos : Nat) (bs : Bytes) :
    read type (pos + k) bs = moved k id (read type pos bs) := by
  cases type with
  | varint =>
    rw [read, Varint.read_add]
    exact moved_bind fun _ _ => rfl
  | fixed64 =>
    rw [read, takeBytes_add]
    exact moved_bind fun _ _ => rfl
  | fixed32 =>
    rw [read, takeBytes_add]
    exact moved_bind fun _ _ => rfl
  | delimited =>
    rw [read, Varint.read_add]
    refine moved_bind fun x _ => ?_
    obtain ⟨length, width⟩ := x
    -- the bytes stand behind a length that is as wide there as here
    show takeBytes (pos + k + width) length (bs.drop width) >>= _ = _
    rw [Nat.add_right_comm, takeBytes_add]
    exact moved_bind fun _ _ => rfl

/-! ## Frames and walks -/

namespace Frame

theorem readBehind_add (k pos : Nat) (key : Nat × Nat) (bs : Bytes) :
    readBehind (pos + k) key bs = moved k (shift k) (readBehind pos key bs) := by
  unfold readBehind
  split
  · rfl
  split
  · rfl
  next type _ =>
    rw [Nat.add_right_comm, FieldValue.read_add]
    refine moved_bind fun value _ => ?_
    show Except.ok _ = Except.ok _
    rw [id_eq, shift, Nat.add_right_comm]

theorem read_add (k pos : Nat) (bs : Bytes) :
    read (pos + k) bs = moved k (shift k) (read pos bs) := by
  rw [read_eq_bind, read_eq_bind, Varint.read_add]
  exact moved_bind fun key _ => readBehind_add k pos key _

/-- Induction on the length of what is left: the frame at its head is read as it is elsewhere, and
so are those behind it. -/
theorem readAll_add (k pos : Nat) (bs : Bytes) :
    readAll (pos + k) bs = moved k (List.map (shift k)) (readAll pos bs) := by
  induction hn : bs.length using Nat.strongRecOn generalizing pos bs with
  | ind n ih =>
    subst hn
    by_cases hnil : bs = []
    · subst hnil
      rw [readAll_nil, readAll_nil]
      rfl
    rw [readAll_of_ne_nil hnil, readAll_of_ne_nil hnil, read_add]
    refine moved_bind fun f hread => ?_
    obtain ⟨-, hforward⟩ := read_bounds hread
    have hpos := List.length_pos_iff.mpr hnil
    have hrest := ih (bs.drop (f.stop - pos)).length (by rw [List.length_drop]; omega) f.stop
      (bs.drop (f.stop - pos)) rfl
    -- a frame that is moved is as long as it was, so the same bytes are left behind it
    have hbehind : f.stop + k - (pos + k) = f.stop - pos := by omega
    show (readAll (f.stop + k) (bs.drop (f.stop + k - (pos + k)))).map (shift k f :: ·) = _
    rw [hbehind, hrest]
    cases readAll f.stop (bs.drop (f.stop - pos)) with
    | error | ok => rfl

/-- Reading the second part of a buffer is reading it by itself, with every place that is named
moved on by the length of the first. If the first part is read to its end then the whole is read as
its frames and then those of the second part, or the fault of the second part, so moved. If the
first part is framed as no writer would, then so is the whole, with the same error. -/
theorem readFrom_append_moved (a b : Bytes) :
    readFrom (a ++ b) a.length = moved a.length (List.map (shift a.length)) (readFrom b 0) ∧
      (∀ frames, readFrom a 0 = .ok frames →
        readFrom (a ++ b) 0 =
          (moved a.length (List.map (shift a.length)) (readFrom b 0)).map (frames ++ ·)) ∧
      ∀ offset what, readFrom a 0 = .error (.malformed offset what) →
        readFrom (a ++ b) 0 = .error (.malformed offset what) := by
  have hsecond : readAll a.length b =
      moved a.length (List.map (shift a.length)) (readFrom b 0) := by
    rw [readFrom, List.drop_zero, ← readAll_add, Nat.zero_add]
  refine ⟨?_, fun frames hframes => ?_, fun offset what hfault => ?_⟩
  · rw [readFrom, List.drop_left, hsecond]
  · -- behind its frames the first part is not looked at again
    rw [readFrom, List.drop_zero] at hframes ⊢
    rw [readAll_append hframes, Nat.zero_add, hsecond]
  · -- no more input mends such a fault, and what is behind it is not read
    rw [readFrom, List.drop_zero] at hfault ⊢
    exact readAll_append_of_final hfault rfl b

/-- A field behind a field, a truncated one behind a field, and one behind a group. -/
theorem readFrom_append_moved_field :
    readFrom [0x08, 0x01, 0x10, 0x2a] 2 = .ok [⟨2, 2, 4, .varint 42⟩] ∧
      readFrom [0x08, 0x01, 0x10, 0x2a] 0 = .ok [⟨1, 0, 2, .varint 1⟩, ⟨2, 2, 4, .varint 42⟩] ∧
      readFrom [0x08, 0x01, 0x12, 0x05, 0x61] 0 = .error (.truncated 5 4) ∧
      readFrom [0x0b, 0x10, 0x2a] 0 = .error (.malformed 0 .wireType) := by
  have hone : readFrom [0x08, 0x01] 0 = .ok [⟨1, 0, 2, .varint 1⟩] := by cbv
  have htwo : readFrom [0x10, 0x2a] 0 = .ok [⟨2, 0, 2, .varint 42⟩] := by cbv
  have hcut : readFrom [0x12, 0x05, 0x61] 0 = .error (.truncated 3 4) := by cbv
  have hgroup : readFrom [0x0b] 0 = .error (.malformed 0 .wireType) := by cbv
  obtain ⟨hsecond, hboth, -⟩ := readFrom_append_moved [0x08, 0x01] [0x10, 0x2a]
  obtain ⟨-, hfault, -⟩ := readFrom_append_moved [0x08, 0x01] [0x12, 0x05, 0x61]
  obtain ⟨-, -, hfinal⟩ := readFrom_append_moved [0x0b] [0x10, 0x2a]
  refine ⟨?_, ?_, ?_, hfinal _ _ hgroup⟩
  · rw [htwo] at hsecond
    exact hsecond
  · have hwhole := hboth _ hone
    rw [htwo] at hwhole
    exact hwhole
  · have hwhole := hfault _ hone
    rw [hcut] at hwhole
    exact hwhole

end Frame

end ChainClaim
