import ChainClaim.Proofs.Curve
import ChainClaim.Proofs.Record.RoundTrip
import Mathlib

/-!
# What a draft becomes

A draft is put together call by call, and what becomes of it can be told from the list of its calls
without making them: the first call for another variant is its failure, whatever comes after it, and
without such a call every field holds the last value that a call set and every list all the values
that were added (`Draft.finish_calls`). Such a claim is always written and read back: the only key
that a call can store is one in wire form.
-/

namespace ChainClaim.Draft

open Record

/-- What a draft is begun as. -/
inductive Start where
  | stream
  | channel
  | collection
  | repost (claimHash : Bytes)

namespace Start

def draft : Start → Draft
  | .stream => Draft.start .stream
  | .channel => Draft.start .channel
  | .collection => Draft.start .collection
  | .repost claimHash => Draft.repost claimHash

def variant : Start → Variant
  | .stream => .stream
  | .channel => .channel
  | .collection => .collection
  | .repost _ => .repost

end Start

/-! ## What calls say

Each selector gives the value of the calls of one kind. -/

namespace Call

/-- The variant whose field is set. Calls for what every claim has are for none. -/
def variant? : Call → Option Variant
  | .publicKey _ | .websiteUrl _ | .email _ | .cover _ => some .channel
  | .source _ | .author _ | .license _ | .releaseTime _ | .fee _ | .media _ => some .stream
  | _ => none

/-- A call for a variant that the draft is not of. -/
def Misplaced (call : Call) (own : Variant) : Prop :=
  ∃ v, call.variant? = some v ∧ v ≠ own

@[simp] def title? : Call → Option String
  | .title text => some text
  | _ => none

@[simp] def description? : Call → Option String
  | .description text => some text
  | _ => none

@[simp] def tag? : Call → Option String
  | .tag text => some text
  | _ => none

@[simp] def language? : Call → Option Language
  | .language value => some value
  | _ => none

@[simp] def location? : Call → Option Location
  | .location value => some value
  | _ => none

@[simp] def thumbnail? : Call → Option String
  | .thumbnail url => some url
  | _ => none

@[simp] def publicKey? : Call → Option PublicKey
  | .publicKey key => some key
  | _ => none

@[simp] def websiteUrl? : Call → Option String
  | .websiteUrl url => some url
  | _ => none

@[simp] def email? : Call → Option String
  | .email text => some text
  | _ => none

@[simp] def cover? : Call → Option String
  | .cover url => some url
  | _ => none

@[simp] def source? : Call → Option Source
  | .source value => some value
  | _ => none

@[simp] def author? : Call → Option String
  | .author text => some text
  | _ => none

@[simp] def license? : Call → Option String
  | .license text => some text
  | _ => none

@[simp] def releaseTime? : Call → Option Int64
  | .releaseTime seconds => some seconds
  | _ => none

@[simp] def fee? : Call → Option Fee
  | .fee value => some value
  | _ => none

@[simp] def media? : Call → Option Media
  | .media value => some value
  | _ => none

end Call

variable {β : Type}

/-- The value of the last call that has one. -/
def last? (value? : Call → Option β) (calls : List Call) : Option β :=
  (calls.filterMap value?).getLast?

@[simp] theorem last?_concat (value? : Call → Option β) (calls : List Call) (call : Call) :
    last? value? (calls ++ [call]) = (value? call).or (last? value? calls) := by
  unfold last?
  rw [List.filterMap_append, List.getLast?_append]
  cases h : value? call <;> simp [h]

/-! ## What calls come to -/

/-- What every claim has, after some calls. -/
def details (calls : List Call) : Details where
  title := (last? Call.title? calls).getD ""
  description := (last? Call.description? calls).getD ""
  thumbnail := (last? Call.thumbnail? calls).map Source.ofUrl
  tags := calls.filterMap Call.tag?
  languages := calls.filterMap Call.language?
  locations := calls.filterMap Call.location?

def streamOf (calls : List Call) : Stream where
  source := last? Call.source? calls
  author := (last? Call.author? calls).getD ""
  license := (last? Call.license? calls).getD ""
  releaseTime := (last? Call.releaseTime? calls).getD 0
  fee := last? Call.fee? calls
  media := last? Call.media? calls

def channelOf (calls : List Call) : Channel where
  publicKey := ((last? Call.publicKey? calls).map PublicKey.toDer).getD []
  email := (last? Call.email? calls).getD ""
  websiteUrl := (last? Call.websiteUrl? calls).getD ""
  cover := (last? Call.cover? calls).map Source.ofUrl

/-- The content of a draft after some calls. -/
def Start.kind (start : Start) (calls : List Call) : Kind :=
  match start with
  | .stream => .stream (streamOf calls)
  | .channel => .channel (channelOf calls)
  | .collection => .collection {}
  | .repost claimHash => .repost { claimHash }

/-- The record of a draft after some calls. -/
def Start.record (start : Start) (calls : List Call) : Record :=
  fresh (start.kind calls) (details calls)

@[simp] theorem Start.variant_kind (start : Start) (calls : List Call) :
    (start.kind calls).variant = start.variant := by
  cases start <;> rfl

/-! ## One call -/

section

variable {call : Call}

/-- A call for what every claim has. -/
theorem run_edit_of_common (h : call.variant? = none) (kind : Kind) (calls : List Call) :
    call.edit.run (fresh kind (details calls)) =
      .ok () (fresh kind (details (calls ++ [call]))) := by
  cases call with
  -- a field is set to the value of the call, and a list gets it at its end
  | title | description | tag | language | location | thumbnail =>
    simp only [details, last?_concat, List.filterMap_append, List.filterMap_cons,
      List.filterMap_nil, List.append_nil, Call.title?, Call.description?, Call.tag?,
      Call.language?, Call.location?, Call.thumbnail?]
    rfl
  | _ => cases h

theorem kind_concat_of_common (h : call.variant? = none) (start : Start) (calls : List Call) :
    start.kind (calls ++ [call]) = start.kind calls := by
  cases call with
  | title | description | tag | language | location | thumbnail =>
    -- the selectors of the two variants pass these calls over
    cases start with
    | collection | repost => rfl
    | stream => simp [Start.kind, streamOf]
    | channel => simp [Start.kind, channelOf]
  | _ => cases h

/-- A call for a stream on one. -/
theorem run_edit_of_stream (h : call.variant? = some .stream) (calls : List Call) (d : Details) :
    call.edit.run (fresh (.stream (streamOf calls)) d) =
      .ok () (fresh (.stream (streamOf (calls ++ [call]))) d) := by
  cases call with
  | source | author | license | releaseTime | fee | media =>
    simp only [streamOf, last?_concat, Call.source?, Call.author?, Call.license?,
      Call.releaseTime?, Call.fee?, Call.media?]
    rfl
  | _ => cases h

/-- A call for a channel on one. -/
theorem run_edit_of_channel (h : call.variant? = some .channel) (calls : List Call) (d : Details) :
    call.edit.run (fresh (.channel (channelOf calls)) d) =
      .ok () (fresh (.channel (channelOf (calls ++ [call]))) d) := by
  cases call with
  | publicKey | websiteUrl | email | cover =>
    simp only [channelOf, last?_concat, Call.publicKey?, Call.email?, Call.websiteUrl?,
      Call.cover?]
    rfl
  | _ => cases h

theorem details_concat_of_variant {v : Variant} (h : call.variant? = some v) (calls : List Call) :
    details (calls ++ [call]) = details calls := by
  cases call with
  | title | description | tag | language | location | thumbnail => cases h
  | _ => simp [details]

/-- A call that is not misplaced is made. -/
theorem run_edit {start : Start} (h : ¬call.Misplaced start.variant) (calls : List Call) :
    call.edit.run (start.record calls) = .ok () (start.record (calls ++ [call])) := by
  unfold Start.record
  cases hvariant : call.variant? with
  | none => rw [kind_concat_of_common hvariant, run_edit_of_common hvariant]
  | some v =>
    -- only the draft's own variant is left
    have hown : v = start.variant := by
      by_contra hne
      exact h ⟨v, hvariant, hne⟩
    subst hown
    rw [details_concat_of_variant hvariant]
    cases start with
    | stream => exact run_edit_of_stream hvariant calls _
    | channel => exact run_edit_of_channel hvariant calls _
    -- no call is for these
    | collection | repost => cases call <;> cases hvariant

/-- A misplaced call changes nothing, and both variants are told. -/
theorem run_edit_of_misplaced {v : Variant} (h : call.variant? = some v) {kind : Kind}
    (hv : v ≠ kind.variant) (d : Details) :
    call.edit.run (fresh kind d) = .error (.variantMismatch v kind.variant) (fresh kind d) := by
  cases call with
  | publicKey | websiteUrl | email | cover =>
    cases h
    cases kind with
    | channel => exact absurd rfl hv
    | stream | collection | repost => rfl
  | source | author | license | releaseTime | fee | media =>
    cases h
    cases kind with
    | stream => exact absurd rfl hv
    | channel | collection | repost => rfl
  | _ => cases h

end

/-! ## All calls -/

theorem calls_append (draft : Draft) (before after : List Call) :
    draft.calls (before ++ after) = (draft.calls before).calls after :=
  List.foldl_append

/-- A failure stays, whatever is called. Induction on the calls. -/
theorem calls_of_fault {draft : Draft} {e : Error} (h : draft.fault = some e) (calls : List Call) :
    draft.calls calls = draft := by
  induction calls with
  | nil => rfl
  | cons call calls ih =>
    have hcall : draft.call call = draft := by rw [Draft.call, apply, h]
    show (draft.call call).calls calls = draft
    rw [hcall, ih]

/-- Without misplaced calls a draft holds what the calls come to. Induction on the calls, from the
last one. -/
theorem calls_of_not_misplaced {start : Start} {calls : List Call}
    (h : ∀ call ∈ calls, ¬call.Misplaced start.variant) :
    start.draft.calls calls = { record := start.record calls } := by
  induction calls using List.reverseRecOn with
  | nil => cases start <;> rfl
  | append_singleton calls call ih =>
    -- the calls before the last one have made the record on which it is made
    have hcalls := ih fun other hother => h other (List.mem_append_left _ hother)
    have hcall := run_edit (h call (by simp)) calls
    rw [calls_append, hcalls]
    show Draft.call { record := start.record calls } call = _
    simp only [Draft.call, apply, hcall]

theorem finish_of_first_misplaced {start : Start} {before after : List Call} {call : Call}
    (hbefore : ∀ other ∈ before, ¬other.Misplaced start.variant) {v : Variant}
    (hvariant : call.variant? = some v) (hv : v ≠ start.variant) :
    (start.draft.calls (before ++ call :: after)).finish =
      .error (.variantMismatch v start.variant) := by
  have hkind : v ≠ (start.kind before).variant := by rwa [start.variant_kind]
  have hcall := run_edit_of_misplaced hvariant hkind (details before)
  rw [start.variant_kind] at hcall
  rw [calls_append, calls_of_not_misplaced hbefore]
  show ((Draft.call _ call).calls after).finish = _
  -- the call leaves the draft with its fault, which the calls after it do not touch
  rw [calls_of_fault (e := .variantMismatch v start.variant)]
  · simp [Draft.call, apply, Start.record, hcall, finish]
  · simp [Draft.call, apply, Start.record, hcall]

/-- The key that a draft stores is in wire form, so its record can be written. -/
theorem record_readsBack (start : Start) (calls : List Call) : (start.record calls).ReadsBack := by
  apply fresh_readsBack
  cases start with
  | stream | collection | repost => rfl
  | channel =>
    -- a channel without a key has nothing to check
    cases hkey : last? Call.publicKey? calls with
    | none => simp [checkKey, Start.kind, channelOf, hkey]
    | some key =>
      apply checkKey_channel
      show PublicKey.ofDer (channelOf calls).publicKey = .ok key
      simp [channelOf, hkey, PublicKey.ofDer_toDer]

theorem exists_first_misplaced {own : Variant} {calls : List Call}
    (h : ∃ call ∈ calls, call.Misplaced own) :
    ∃ before call after, calls = before ++ call :: after ∧
      (∀ other ∈ before, ¬other.Misplaced own) ∧ call.Misplaced own := by
  -- which variant a call is for can be decided, but nothing here needs an instance for it
  classical
  obtain ⟨call, hcall, hmisplaced⟩ := h
  cases hfind : calls.find? (fun call => decide (call.Misplaced own)) with
  | none => exact absurd hmisplaced (by simpa using List.find?_eq_none.mp hfind call hcall)
  | some first =>
    obtain ⟨hfirst, before, after, hcalls, hbefore⟩ := List.find?_eq_some_iff_append.mp hfind
    exact ⟨before, first, after, hcalls, by simpa using hbefore, by simpa using hfirst⟩

/-- What becomes of a draft, by the list of its calls: it fails exactly if a call is for another
variant, and then for the first such call, whatever follows; else it becomes the unsigned record of
its variant whose fields hold what was set last and whose lists hold all that was added, in order,
and this record is written and read back. -/
theorem finish_calls (start : Start) (calls : List Call) :
    ((∃ e, (start.draft.calls calls).finish = .error e) ↔
        ∃ call ∈ calls, call.Misplaced start.variant) ∧
      (∀ before call after v, calls = before ++ call :: after →
        (∀ other ∈ before, ¬other.Misplaced start.variant) → call.variant? = some v →
        v ≠ start.variant →
          (start.draft.calls calls).finish = .error (.variantMismatch v start.variant)) ∧
      ((∀ call ∈ calls, ¬call.Misplaced start.variant) →
        (start.draft.calls calls).finish = .ok (start.record calls) ∧
          (start.record calls).variant = start.variant ∧ (start.record calls).ReadsBack) := by
  have hok : (∀ call ∈ calls, ¬call.Misplaced start.variant) →
      (start.draft.calls calls).finish = .ok (start.record calls) := by
    intro h
    rw [calls_of_not_misplaced h]
    rfl
  refine ⟨⟨?_, ?_⟩, ?_, fun h => ⟨hok h, start.variant_kind calls, record_readsBack start calls⟩⟩
  · -- no call is misplaced, so the draft cannot have failed
    rintro ⟨e, he⟩
    by_contra hnone
    have hfinish := hok fun call hcall hmisplaced => hnone ⟨call, hcall, hmisplaced⟩
    rw [he] at hfinish
    cases hfinish
  · intro h
    obtain ⟨before, call, after, rfl, hbefore, v, hvariant, hv⟩ := exists_first_misplaced h
    exact ⟨_, finish_of_first_misplaced hbefore hvariant hv⟩
  · rintro before call after v rfl hbefore hvariant hv
    exact finish_of_first_misplaced hbefore hvariant hv

/-- A stream that is given two titles and two tags. -/
def retitled : List Call := [.title "a", .tag "t", .author "b", .tag "u", .title "c"]

/-- The last title and both tags are kept, and the record is read back. With a website it is the
website that is refused, and not what is called after it. -/
theorem finish_calls_retitled :
    (Start.stream.draft.calls retitled).finish =
        .ok (fresh (.stream { author := "b" }) { title := "c", tags := ["t", "u"] }) ∧
      (fresh (.stream { author := "b" }) { title := "c", tags := ["t", "u"] }).ReadsBack ∧
      ((Start.repost [7]).draft.calls (.title "a" :: .websiteUrl "w" :: retitled)).finish =
        .error (.variantMismatch .channel .repost) := by
  have hplaced : ∀ call ∈ retitled, ¬call.Misplaced .stream := by
    rintro call hcall ⟨v, hvariant, hv⟩
    simp only [retitled, List.mem_cons, List.not_mem_nil, or_false] at hcall
    rcases hcall with rfl | rfl | rfl | rfl | rfl <;> cases hvariant
    exact hv rfl
  obtain ⟨hfinish, -, hread⟩ := (finish_calls .stream retitled).2.2 hplaced
  have hcommon : ∀ other ∈ [Call.title "a"], ¬other.Misplaced .repost := by
    rintro other hother ⟨v, hvariant, -⟩
    rw [List.mem_singleton.mp hother] at hvariant
    cases hvariant
  exact ⟨hfinish, hread, (finish_calls (.repost [7]) _).2.1 [.title "a"] (.websiteUrl "w") retitled
    .channel rfl hcommon rfl nofun⟩

end ChainClaim.Draft
