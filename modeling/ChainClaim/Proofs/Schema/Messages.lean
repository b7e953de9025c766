import ChainClaim.Message.Claim
import ChainClaim.Message.Legacy
import ChainClaim.Proofs.Schema.Laws

/-!
# Laws of the message types

Every message type is read back from its bytes, and its size is reckoned right. Each proof follows
the description of its type, combinator by combinator.
-/

namespace ChainClaim

open Format Element Scalar

variable {depth : Nat}

/-! ## Labels and media -/

theorem Language.format_lawful : Language.format.Lawful depth where
  toFaithful := via_faithful
    (and_faithful (implicit_faithful int32_lawful) <|
      and_faithful (implicit_faithful int32_lawful) <|
        implicit_faithful int32_lawful)
    (fun _ => rfl)
  numbered := by decide

theorem Location.format_lawful : Location.format.Lawful depth where
  toFaithful := via_faithful
    (and_faithful (implicit_faithful int32_lawful) <|
      and_faithful (implicit_faithful string_lawful) <|
        and_faithful (implicit_faithful string_lawful) <|
          and_faithful (implicit_faithful string_lawful) <|
            and_faithful (implicit_faithful sint32_lawful) <|
              implicit_faithful sint32_lawful)
    (fun _ => rfl)
  numbered := by decide

theorem Source.format_lawful : Source.format.Lawful depth where
  toFaithful := via_faithful
    (and_faithful (implicit_faithful bytes_lawful) <|
      and_faithful (implicit_faithful string_lawful) <|
        and_faithful (implicit_faithful uint64_lawful) <|
          and_faithful (implicit_faithful string_lawful) <|
            and_faithful (implicit_faithful string_lawful) <|
              and_faithful (implicit_faithful bytes_lawful) <|
                implicit_faithful bytes_lawful)
    (fun _ => rfl)
  numbered := by decide

theorem Image.format_lawful : Image.format.Lawful depth where
  toFaithful := via_faithful
    (and_faithful (implicit_faithful uint32_lawful) (implicit_faithful uint32_lawful))
    (fun _ => rfl)
  numbered := by decide

theorem Audio.format_lawful : Audio.format.Lawful depth where
  toFaithful := via_faithful (implicit_faithful uint32_lawful) (fun _ => rfl)
  numbered := by decide

-- one level deeper than the messages above: a video carries the description of its sound
theorem Video.format_lawful : Video.format.Lawful (depth + 1) where
  toFaithful := via_faithful
    (and_faithful (implicit_faithful uint32_lawful) <|
      and_faithful (implicit_faithful uint32_lawful) <|
        and_faithful (implicit_faithful uint32_lawful) <|
          optional_faithful (message_lawful Audio.format_lawful))
    (fun _ => rfl)
  numbered := by decide

theorem Software.format_lawful : Software.format.Lawful depth where
  toFaithful := via_faithful (implicit_faithful string_lawful) (fun _ => rfl)
  numbered := by decide

theorem Media.format_faithful : Media.format.Faithful (depth + 2) := by
  refine choice_faithful ⟨?_, fun media => ?_⟩
  -- no value is written under two of the four numbers
  · simp only [List.forall_mem_cons]
    refine ⟨?_, ?_, ?_, ?_, nofun⟩ <;> intro k l value
    · exact write?_inj_of (depth + 2) (message_lawful Image.format_lawful)
        fun k a h => by cases k <;> cases h; rfl
    · exact write?_inj_of (depth + 2) (message_lawful Video.format_lawful)
        fun k a h => by cases k <;> cases h; rfl
    · exact write?_inj_of (depth + 2) (message_lawful Audio.format_lawful)
        fun k a h => by cases k <;> cases h; rfl
    · exact write?_inj_of (depth + 2) (message_lawful Software.format_lawful)
        fun k a h => by cases k <;> cases h; rfl
  -- and every value is written under one of them
  cases media with
  | image i =>
    exact chosen_of (List.mem_of_getElem? (i := 0) rfl) (message_lawful Image.format_lawful) rfl
      (by simp [choice, Member.of])
  | video v =>
    exact chosen_of (List.mem_of_getElem? (i := 1) rfl) (message_lawful Video.format_lawful) rfl
      (by simp [choice, Member.of])
  | audio a =>
    exact chosen_of (List.mem_of_getElem? (i := 2) rfl) (message_lawful Audio.format_lawful) rfl
      (by simp [choice, Member.of])
  | software s =>
    exact chosen_of (List.mem_of_getElem? (i := 3) rfl) (message_lawful Software.format_lawful) rfl
      (by simp [choice, Member.of])

/-! ## Claims of the second generation -/

theorem Fee.format_lawful : Fee.format.Lawful depth where
  toFaithful := via_faithful
    (and_faithful (implicit_faithful int32_lawful) <|
      and_faithful (implicit_faithful bytes_lawful) <|
        implicit_faithful uint64_lawful)
    (fun _ => rfl)
  numbered := by decide

theorem Stream.format_lawful : Stream.format.Lawful (depth + 2) where
  toFaithful := via_faithful
    (and_faithful (optional_faithful (message_lawful Source.format_lawful)) <|
      and_faithful (implicit_faithful string_lawful) <|
        and_faithful (implicit_faithful string_lawful) <|
          and_faithful (implicit_faithful string_lawful) <|
            and_faithful (implicit_faithful int64_lawful) <|
              and_faithful (optional_faithful (message_lawful Fee.format_lawful)) <|
                Media.format_faithful)
    (fun _ => rfl)
  numbered := by decide

theorem ClaimReference.format_lawful : ClaimReference.format.Lawful depth where
  toFaithful := via_faithful (implicit_faithful bytes_lawful) (fun _ => rfl)
  numbered := by decide

theorem ClaimList.format_lawful : ClaimList.format.Lawful (depth + 1) where
  toFaithful := via_faithful
    (and_faithful (implicit_faithful int32_lawful)
      (repeated_faithful (message_lawful ClaimReference.format_lawful)))
    (fun _ => rfl)
  numbered := by decide

theorem Channel.format_lawful : Channel.format.Lawful (depth + 2) where
  toFaithful := via_faithful
    (and_faithful (implicit_faithful bytes_lawful) <|
      and_faithful (implicit_faithful string_lawful) <|
        and_faithful (implicit_faithful string_lawful) <|
          and_faithful (optional_faithful (message_lawful Source.format_lawful)) <|
            optional_faithful (message_lawful ClaimList.format_lawful))
    (fun _ => rfl)
  numbered := by decide

theorem Kind.format_faithful : Kind.format.Faithful (depth + 3) := by
  refine choice_faithful ⟨?_, fun kind => ?_⟩
  -- as for media, one member for each kind
  · simp only [List.forall_mem_cons]
    refine ⟨?_, ?_, ?_, ?_, nofun⟩ <;> intro k l value
    · exact write?_inj_of (depth + 3) (message_lawful Stream.format_lawful)
        fun k a h => by cases k <;> cases h; rfl
    · exact write?_inj_of (depth + 3) (message_lawful Channel.format_lawful)
        fun k a h => by cases k <;> cases h; rfl
    · exact write?_inj_of (depth + 3) (message_lawful ClaimList.format_lawful)
        fun k a h => by cases k <;> cases h; rfl
    · exact write?_inj_of (depth + 3) (message_lawful ClaimReference.format_lawful)
        fun k a h => by cases k <;> cases h; rfl
  cases kind with
  | stream s =>
    exact chosen_of (List.mem_of_getElem? (i := 0) rfl) (message_lawful Stream.format_lawful) rfl
      (by simp [choice, Member.of])
  | channel c =>
    exact chosen_of (List.mem_of_getElem? (i := 1) rfl) (message_lawful Channel.format_lawful) rfl
      (by simp [choice, Member.of])
  | collection l =>
    exact chosen_of (List.mem_of_getElem? (i := 2) rfl) (message_lawful ClaimList.format_lawful)
      rfl (by simp [choice, Member.of])
  | repost r =>
    exact chosen_of (List.mem_of_getElem? (i := 3) rfl)
      (message_lawful ClaimReference.format_lawful) rfl (by simp [choice, Member.of])

-- no message of its own, and so without the numbering law: the fields stand among those of a claim,
-- whose numbers are checked together
theorem Details.format_faithful : Details.format.Faithful (depth + 1) :=
  via_faithful
    (and_faithful (implicit_faithful string_lawful) <|
      and_faithful (implicit_faithful string_lawful) <|
        and_faithful (optional_faithful (message_lawful Source.format_lawful)) <|
          and_faithful (repeated_faithful (scalar_lawful string_lawful _)) <|
            and_faithful (repeated_faithful (message_lawful Language.format_lawful)) <|
              repeated_faithful (message_lawful Location.format_lawful))
    (fun _ => rfl)

theorem Claim.format_lawful : Claim.format.Lawful (depth + 3) where
  toFaithful := via_faithful (and_faithful Kind.format_faithful Details.format_faithful)
    (fun _ => rfl)
  numbered := by decide

/-! ## Claims of the first generation -/

-- here the fields are required: a default is written out, and a field that is missing is refused
theorem Legacy.Fee.format_lawful : Legacy.Fee.format.Lawful depth where
  toFaithful := via_faithful
    (and_faithful (required_faithful (scalar_lawful int32_lawful _)) <|
      and_faithful (required_faithful (scalar_lawful int32_lawful _)) <|
        and_faithful (required_faithful (scalar_lawful bytes_lawful _)) <|
          required_faithful (scalar_lawful float_lawful _))
    (fun _ => rfl)
  numbered := by decide

theorem Legacy.Metadata.format_lawful : Legacy.Metadata.format.Lawful (depth + 1) where
  toFaithful := via_faithful
    (and_faithful (required_faithful (scalar_lawful int32_lawful _)) <|
      and_faithful (required_faithful (scalar_lawful int32_lawful _)) <|
        and_faithful (required_faithful (scalar_lawful string_lawful _)) <|
          and_faithful (required_faithful (scalar_lawful string_lawful _)) <|
            and_faithful (required_faithful (scalar_lawful string_lawful _)) <|
              and_faithful (required_faithful (scalar_lawful string_lawful _)) <|
                and_faithful (required_faithful (scalar_lawful bool_lawful _)) <|
                  and_faithful (optional_faithful (message_lawful Fee.format_lawful)) <|
                    and_faithful (optional_faithful (scalar_lawful string_lawful _)) <|
                      and_faithful (optional_faithful (scalar_lawful string_lawful _)) <|
                        optional_faithful (scalar_lawful string_lawful _))
    (fun _ => rfl)
  numbered := by decide

theorem Legacy.Source.format_lawful : Legacy.Source.format.Lawful depth where
  toFaithful := via_faithful
    (and_faithful (required_faithful (scalar_lawful int32_lawful _)) <|
      and_faithful (required_faithful (scalar_lawful int32_lawful _)) <|
        and_faithful (required_faithful (scalar_lawful bytes_lawful _)) <|
          required_faithful (scalar_lawful string_lawful _))
    (fun _ => rfl)
  numbered := by decide

theorem Legacy.Stream.format_lawful : Legacy.Stream.format.Lawful (depth + 2) where
  toFaithful := via_faithful
    (and_faithful (required_faithful (scalar_lawful int32_lawful _)) <|
      and_faithful (required_faithful (message_lawful Metadata.format_lawful)) <|
        required_faithful (message_lawful Source.format_lawful))
    (fun _ => rfl)
  numbered := by decide

theorem Legacy.Certificate.format_lawful : Legacy.Certificate.format.Lawful depth where
  toFaithful := via_faithful
    (and_faithful (required_faithful (scalar_lawful int32_lawful _)) <|
      and_faithful (required_faithful (scalar_lawful int32_lawful _)) <|
        required_faithful (scalar_lawful bytes_lawful _))
    (fun _ => rfl)
  numbered := by decide

theorem Legacy.Signature.format_lawful : Legacy.Signature.format.Lawful depth where
  toFaithful := via_faithful
    (and_faithful (required_faithful (scalar_lawful int32_lawful _)) <|
      and_faithful (required_faithful (scalar_lawful int32_lawful _)) <|
        and_faithful (required_faithful (scalar_lawful bytes_lawful _)) <|
          required_faithful (scalar_lawful bytes_lawful _))
    (fun _ => rfl)
  numbered := by decide

end ChainClaim
