import ChainClaim.Draft
import ChainClaim.Record.Edit

/-!
# Operations on records

An operation that fails leaves the record as it was. One that succeeds has one of four effects: it
changes content within its variant, replaces the claim message, attaches a signature or drops one.
`Effect.Step` says all that each of them can do to a record, and `Operation.makes` that every
operation does just that. What operations keep is read off the steps, and no operation is looked
into again.
-/

namespace ChainClaim

/-- What an operation that succeeds does to a record. -/
inductive Effect where
  /-- Changes second-generation content within its variant. -/
  | change
  /-- Replaces a second-generation claim message. -/
  | replace
  /-- Attaches a signature. -/
  | sign
  /-- Drops the signature. -/
  | unsign
deriving DecidableEq

/-- `effect.Step r left`: an operation of this effect that succeeds on `r` can leave `left`. -/
inductive Effect.Step : Effect → Record → Record → Prop where
  | change {r : Record} (old new : Claim) (hold : r.content = .current old)
      (hvariant : new.kind.map Kind.variant = old.kind.map Kind.variant) :
      Step .change r { r with content := .current new }
  | replace {r : Record} (old new : Claim) (kind : Kind) (hold : r.content = .current old)
      (hkind : new.kind = some kind) :
      Step .replace r { r with content := .current new, variant := kind.variant }
  | sign {r : Record} (block : Block) (hstanding : r.standing ≠ .legacy)
      (hfits : block.checkFits r.generation = .ok ()) :
      Step .sign r { r with signature := some block, standing := .signed }
  | unsign (r : Record) : Step .unsign r r.unsigned

/-! ## Edits and their effects -/

namespace Edit

variable {α : Type} {edit : Edit α} {effect : Effect} {r left : Record}

/-- An edit that fails without a trace and has this effect where it succeeds. -/
def Makes (edit : Edit α) (effect : Effect) : Prop :=
  ∀ r, match edit.run r with
    | .error _ left => left = r
    | .ok _ left => effect.Step r left

theorem Makes.eq_of_error (h : edit.Makes effect) {e : Error}
    (hrun : edit.run r = .error e left) : left = r := by
  have hr := h r
  rw [hrun] at hr
  exact hr

theorem Makes.step_of_ok (h : edit.Makes effect) {a : α} (hrun : edit.run r = .ok a left) :
    effect.Step r left := by
  have hr := h r
  rw [hrun] at hr
  exact hr

/-- Whether it fails or not, an edit leaves the record as it was or makes a step. -/
theorem Makes.after (h : edit.Makes effect) (r : Record) :
    edit.after r = r ∨ effect.Step r (edit.after r) := by
  rw [Edit.after]
  cases hrun : edit.run r with
  | error e left => exact .inl (h.eq_of_error hrun)
  | ok a left => exact .inr (h.step_of_ok hrun)

/-! An edit that begins with steps that only read has the effect of what follows them. -/

theorem makes_throw (e : Error) : (throw e : Edit α).Makes effect := fun _ => rfl

theorem makes_get_bind {f : Record → Edit α} (h : ∀ r, (f r).Makes effect) :
    (get >>= f).Makes effect := fun r => h r r

theorem makes_ofExcept_bind {β : Type} (x : Except Error β) {f : β → Edit α}
    (h : ∀ b, (f b).Makes effect) : ((MonadExcept.ofExcept x : Edit β) >>= f).Makes effect := by
  intro r
  cases x with
  | error e => rfl
  | ok b => exact h b r

end Edit

namespace Record

/-! ### Content -/

theorem editDetails_makes (target : EditTarget) (change : Details → Details) :
    (editDetails target change).Makes .change := by
  rintro ⟨generation, standing, variant, content, signature⟩
  -- details say nothing of the variant
  cases content with
  | current claim => exact .change claim { claim with details := change claim.details } rfl rfl
  | legacyStream | legacyCertificate => rfl

/-- A change of content that stays within its variant. -/
theorem editKind_makes {v : Variant} {change : Kind → Kind}
    (hchange : ∀ kind, (change kind).variant = kind.variant) :
    (editKind v change).Makes .change := by
  rintro ⟨generation, standing, variant, content, signature⟩
  cases content with
  | legacyStream | legacyCertificate => rfl
  | current claim =>
    obtain ⟨_ | kind, details⟩ := claim
    · rfl
    · by_cases hv : kind.variant = v
      -- the variant is the same before and after, which is what a step of this effect asks for
      · have hstep := Effect.Step.change
          (r := ⟨generation, standing, variant, .current ⟨some kind, details⟩, signature⟩)
          ⟨some kind, details⟩ ⟨some (change kind), details⟩ rfl (congrArg some (hchange kind))
        simpa [editKind, hv] using hstep
      · simp [editKind, hv]

theorem editStream_makes (change : Stream → Stream) : (editStream change).Makes .change :=
  editKind_makes fun kind => by cases kind <;> rfl

theorem editChannel_makes (change : Channel → Channel) : (editChannel change).Makes .change :=
  editKind_makes fun kind => by cases kind <;> rfl

theorem editCollection_makes (change : ClaimList → ClaimList) :
    (editCollection change).Makes .change :=
  editKind_makes fun kind => by cases kind <;> rfl

theorem editRepost_makes (change : ClaimReference → ClaimReference) :
    (editRepost change).Makes .change :=
  editKind_makes fun kind => by cases kind <;> rfl

/-- The new message is asked for its variant before the record is touched, so a failure leaves
nothing half done. -/
theorem replaceContent_makes (claim : Claim) : (replaceContent claim).Makes .replace := by
  rintro ⟨generation, standing, variant, content, signature⟩
  obtain ⟨_ | kind, details⟩ := claim
  · rfl
  · cases content with
    | current old => exact .replace old ⟨some kind, details⟩ kind rfl rfl
    | legacyStream | legacyCertificate => rfl

/-! ### Signatures -/

/-- A block is attached unless the record is read-only or the block does not fit. -/
theorem run_attach (block : Block) (r : Record) :
    (attach block).run r =
      if r.standing = .legacy then .error (.readOnly .signature) r
      else
        match block.checkFits r.generation with
        | .error e => .error e r
        | .ok () => .ok () { r with signature := some block, standing := .signed } := by
  by_cases hlegacy : r.standing = .legacy
  · rw [if_pos hlegacy]
    simp [attach, hlegacy]
  · rw [if_neg hlegacy]
    cases hfits : block.checkFits r.generation with
    | error e => simp [attach, hlegacy, hfits, MonadExcept.ofExcept]
    | ok u => simp [attach, hlegacy, hfits, MonadExcept.ofExcept]

theorem attach_makes (block : Block) : (attach block).Makes .sign := by
  intro r
  rw [run_attach]
  by_cases hlegacy : r.standing = .legacy
  · rw [if_pos hlegacy]
  · rw [if_neg hlegacy]
    cases hfits : block.checkFits r.generation with
    | error e => rfl
    -- the two checks that were passed are the two that the step asks for
    | ok u => exact .sign block hlegacy hfits

/-- Hashing and signing read the record; only attaching the block writes it. -/
theorem sign_makes (key : SigningKey) (channelId : ClaimId) (binding : Binding) :
    (sign key channelId binding).Makes .sign := by
  rw [sign]
  refine Edit.makes_get_bind fun r => ?_
  refine Edit.makes_ofExcept_bind _ fun digest => ?_
  -- whatever is signed, a block is attached or none
  generalize Ecdsa.sign? key digest = made
  cases made with
  | none => exact Edit.makes_throw _
  | some signature => exact attach_makes _

theorem unsigned_eq (r : Record) :
    r.unsigned =
      { r with
        standing := if r.standing = .signed then .unsigned else r.standing
        signature := none } := by
  obtain ⟨generation, standing, variant, content, signature⟩ := r
  cases standing with
  | legacy | unsigned | signed => rfl

end Record

/-! ## Operations -/

/-- The operations that change a record in place. The edits of a variant stand for any change of
its content. -/
inductive Operation where
  | setTitle (title : String)
  | setDescription (description : String)
  | setTags (tags : List String)
  | addTag (tag : String)
  | setLanguages (languages : List Language)
  | setLocations (locations : List Location)
  | setThumbnail (url : Option String)
  | replaceContent (claim : Claim)
  | editStream (change : Stream → Stream)
  | editChannel (change : Channel → Channel)
  | editCollection (change : ClaimList → ClaimList)
  | editRepost (change : ClaimReference → ClaimReference)
  | setPublicKey (key : PublicKey)
  | setWebsiteUrl (url : String)
  | setEmail (email : String)
  | setCover (url : Option String)
  | attach (block : Block)
  | removeSignature
  | sign (key : SigningKey) (channelId : ClaimId) (binding : Binding)

namespace Operation

def edit : Operation → Edit Unit
  | setTitle title => Record.setTitle title
  | setDescription description => Record.setDescription description
  | setTags tags => Record.setTags tags
  | addTag tag => Record.addTag tag
  | setLanguages languages => Record.setLanguages languages
  | setLocations locations => Record.setLocations locations
  | setThumbnail url => Record.setThumbnail url
  | replaceContent claim => Record.replaceContent claim
  | editStream change => Record.editStream change
  | editChannel change => Record.editChannel change
  | editCollection change => Record.editCollection change
  | editRepost change => Record.editRepost change
  | setPublicKey key => Record.setPublicKey key
  | setWebsiteUrl url => Record.setWebsiteUrl url
  | setEmail email => Record.setEmail email
  | setCover url => Record.setCover url
  | attach block => Record.attach block
  | removeSignature => do let _ ← Record.removeSignature
  | sign key channelId binding => Record.sign key channelId binding

def effect : Operation → Effect
  | replaceContent _ => .replace
  | attach _ | sign _ _ _ => .sign
  | removeSignature => .unsign
  | _ => .change

theorem makes (operation : Operation) : operation.edit.Makes operation.effect := by
  cases operation with
  | setTitle title => exact Record.editDetails_makes .title ({ · with title })
  | setDescription description =>
    exact Record.editDetails_makes .description ({ · with description })
  | setTags tags => exact Record.editDetails_makes .tags ({ · with tags })
  | addTag tag => exact Record.editDetails_makes .tags fun d => { d with tags := d.tags ++ [tag] }
  | setLanguages languages => exact Record.editDetails_makes .languages ({ · with languages })
  | setLocations locations => exact Record.editDetails_makes .locations ({ · with locations })
  | setThumbnail url =>
    exact Record.editDetails_makes .thumbnail ({ · with thumbnail := url.map Source.ofUrl })
  | replaceContent claim => exact Record.replaceContent_makes claim
  | editStream change => exact Record.editStream_makes change
  | editChannel change => exact Record.editChannel_makes change
  | setPublicKey key => exact Record.editChannel_makes ({ · with publicKey := key.toDer })
  | setWebsiteUrl websiteUrl => exact Record.editChannel_makes ({ · with websiteUrl })
  | setEmail email => exact Record.editChannel_makes ({ · with email })
  | setCover url => exact Record.editChannel_makes ({ · with cover := url.map Source.ofUrl })
  | editCollection change => exact Record.editCollection_makes change
  | editRepost change => exact Record.editRepost_makes change
  | attach block => exact Record.attach_makes block
  | removeSignature =>
    -- whatever the standing, the block that is given back is not looked at
    rintro ⟨generation, standing, variant, content, signature⟩
    cases standing with
    | legacy | unsigned | signed => exact .unsign _
  | sign key channelId binding => exact Record.sign_makes key channelId binding

end Operation

/-- The record after some operations, of which some may have failed. -/
def Record.run (r : Record) (operations : List Operation) : Record :=
  operations.foldl (fun r operation => operation.edit.after r) r

theorem Record.run_cons (r : Record) (operation : Operation) (operations : List Operation) :
    r.run (operation :: operations) = (operation.edit.after r).run operations := rfl

end ChainClaim
