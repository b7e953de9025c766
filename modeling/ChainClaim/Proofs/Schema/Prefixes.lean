import ChainClaim.Message.Claim
import ChainClaim.Schema

/-!
# Messages that are cut between fields

Where every field of a message may be left out, what is left of a message that is cut between two
fields is a message, too. Formats of this kind are prefix closed: each first part of the fields of a
value is the fields of a value. Everything that a claim says besides its content is of this kind
(`Details.format_prefixClosed`).
-/

namespace ChainClaim

namespace Format

variable {α β : Type} {number : Nat}

/-- Each first part of the fields of a value is the fields of a value. -/
def PrefixClosed (f : Format α) : Prop :=
  ∀ a fields, fields <+: f.fields a → ∃ b, f.fields b = fields

/-- What a format that is prefix closed can leave out is everything. -/
theorem PrefixClosed.exists_fields_eq_nil {f : Format α} (hf : f.PrefixClosed) (a : α) :
    ∃ b, f.fields b = [] := hf a [] List.nil_prefix

/-- A field alone is there or it is not. -/
theorem prefix_singleton_iff {field : Nat × FieldValue} {fields : List (Nat × FieldValue)} :
    fields <+: [field] ↔ fields = [] ∨ fields = [field] := by
  rw [List.prefix_cons_iff]
  constructor
  · rintro (rfl | ⟨rest, rfl, hrest⟩)
    · exact .inl rfl
    · rw [List.prefix_nil.mp hrest]
      exact .inr rfl
  · rintro (rfl | rfl)
    · exact .inl rfl
    · exact .inr ⟨[], rfl, List.nil_prefix⟩

theorem implicit_prefixClosed {s : Scalar α} (hzero : s.isZero s.zero = true) :
    (implicit number s).PrefixClosed := by
  have hnone : (implicit number s).fields s.zero = [] := if_pos hzero
  intro a fields h
  cases ha : s.isZero a with
  -- a zero has no field, so nothing is cut; any other value can be replaced by the zero
  | true =>
    have hleft : (implicit number s).fields a = [] := if_pos ha
    rw [hleft] at h
    exact ⟨a, hleft.trans (List.prefix_nil.mp h).symm⟩
  | false =>
    have hwritten : (implicit number s).fields a = [(number, s.write a)] := if_neg (by simp [ha])
    rw [hwritten] at h
    rcases prefix_singleton_iff.mp h with rfl | rfl
    · exact ⟨s.zero, hnone⟩
    · exact ⟨a, hwritten⟩

theorem optional_prefixClosed {e : Element α} : (optional number e).PrefixClosed := by
  intro a fields h
  cases a with
  | none => exact ⟨none, (List.prefix_nil.mp h).symm⟩
  | some a =>
    rcases prefix_singleton_iff.mp h with rfl | rfl
    · exact ⟨none, rfl⟩
    · exact ⟨some a, rfl⟩

theorem repeated_prefixClosed {e : Element α} : (repeated number e).PrefixClosed := by
  intro as fields h
  -- one field for each value, so the first fields are those of the first values
  refine ⟨as.take fields.length, ?_⟩
  show (as.take fields.length).map _ = fields
  rw [List.map_take]
  exact (List.prefix_iff_eq_take.mp h).symm

/-- A cut among the fields of the first of two formats leaves nothing of the second. -/
theorem PrefixClosed.and {f : Format α} {g : Format β} (hf : f.PrefixClosed)
    (hg : g.PrefixClosed) : (f.and g).PrefixClosed := by
  rintro ⟨a, b⟩ fields ⟨rest, h⟩
  have happend : fields ++ rest = f.fields a ++ g.fields b := h
  -- the cut is among the fields of one of them
  rcases List.append_eq_append_iff.mp happend with ⟨more, hfields, -⟩ | ⟨more, hfields, hrest⟩
  · obtain ⟨a', ha⟩ := hf a fields ⟨more, hfields.symm⟩
    obtain ⟨b', hb⟩ := hg.exists_fields_eq_nil b
    refine ⟨(a', b'), ?_⟩
    show f.fields a' ++ g.fields b' = fields
    rw [ha, hb, List.append_nil]
  · obtain ⟨b', hb⟩ := hg b more ⟨rest, hrest.symm⟩
    refine ⟨(a, b'), ?_⟩
    show f.fields a ++ g.fields b' = fields
    rw [hb, hfields]

theorem PrefixClosed.via {f : Format α} {make : α → β} {parts : β → α} (hf : f.PrefixClosed)
    (hparts : ∀ a, parts (make a) = a) : (f.via make parts).PrefixClosed := by
  intro b fields h
  obtain ⟨a, ha⟩ := hf (parts b) fields h
  refine ⟨make a, ?_⟩
  show f.fields (parts (make a)) = fields
  rw [hparts, ha]

end Format

open Format

theorem Details.format_prefixClosed : Details.format.PrefixClosed :=
  .via (.and (implicit_prefixClosed rfl) <| .and (implicit_prefixClosed rfl) <|
    .and optional_prefixClosed <| .and repeated_prefixClosed <|
      .and repeated_prefixClosed repeated_prefixClosed) fun _ => rfl

end ChainClaim
