import ChainClaim.Curve
import ChainClaim.Record.Basic
import ChainClaim.Record.View

/-!
# Editing records

Edits change a record in place. They change second-generation content only; first-generation
content is read-only, and an edit that is for one variant fails on the others. No edit of the
content touches the signature: after one, it covers the content no more until the record is signed
anew.
-/

namespace ChainClaim

/-- An operation on a record in place. What it did to the record before it failed stays done. -/
abbrev Edit (α : Type) := EStateM Error Record α

/-- The record after an operation, whether it failed or not. -/
def Edit.after {α : Type} (edit : Edit α) (r : Record) : Record :=
  match edit.run r with
  | .ok _ r => r
  | .error _ r => r

namespace Record

/-- Changes the claim message, of which `target` is to be changed. -/
def editClaim (target : EditTarget) (change : Claim → Claim) : Edit Unit := do
  match (← get).content with
  | .current claim => modify ({ · with content := .current (change claim) })
  | _ => throw (.readOnly target)

def editDetails (target : EditTarget) (change : Details → Details) : Edit Unit :=
  editClaim target fun claim => { claim with details := change claim.details }

/-- Changes the content of a record of variant `v`. The content tells whether it is of that
variant; the error names the variant that the record keeps. -/
def editKind (v : Variant) (change : Kind → Kind) : Edit Unit := do
  let r ← get
  match r.content with
  | .current claim =>
    match claim.kind with
    | some kind =>
      if kind.variant = v then
        set { r with content := .current { claim with kind := some (change kind) } }
      else throw (.variantMismatch v r.variant)
    | none => throw (.variantMismatch v r.variant)
  | _ => throw (.readOnly (.variant v))

/-! ### Edits of every claim -/

def setTitle (title : String) : Edit Unit :=
  editDetails .title ({ · with title })

def setDescription (description : String) : Edit Unit :=
  editDetails .description ({ · with description })

def setTags (tags : List String) : Edit Unit :=
  editDetails .tags ({ · with tags })

def addTag (tag : String) : Edit Unit :=
  editDetails .tags fun d => { d with tags := d.tags ++ [tag] }

def setLanguages (languages : List Language) : Edit Unit :=
  editDetails .languages ({ · with languages })

def setLocations (locations : List Location) : Edit Unit :=
  editDetails .locations ({ · with locations })

def setThumbnail (url : Option String) : Edit Unit :=
  editDetails .thumbnail ({ · with thumbnail := url.map Source.ofUrl })

/-- Replaces the whole claim message, possibly by one of another variant. -/
def replaceContent (claim : Claim) : Edit Unit := do
  -- A message without content is refused first, also by records that are read-only.
  match claim.kind with
  | none => throw (.unknownVariant 0)
  | some kind =>
    editClaim .payload fun _ => claim
    modify ({ · with variant := kind.variant })

/-! ### Edits of one variant -/

def editStream (change : Stream → Stream) : Edit Unit :=
  editKind .stream fun | .stream s => .stream (change s) | kind => kind

def editChannel (change : Channel → Channel) : Edit Unit :=
  editKind .channel fun | .channel c => .channel (change c) | kind => kind

def editCollection (change : ClaimList → ClaimList) : Edit Unit :=
  editKind .collection fun | .collection l => .collection (change l) | kind => kind

def editRepost (change : ClaimReference → ClaimReference) : Edit Unit :=
  editKind .repost fun | .repost reference => .repost (change reference) | kind => kind

def setPublicKey (key : PublicKey) : Edit Unit :=
  editChannel ({ · with publicKey := key.toDer })

def setWebsiteUrl (websiteUrl : String) : Edit Unit :=
  editChannel ({ · with websiteUrl })

def setEmail (email : String) : Edit Unit :=
  editChannel ({ · with email })

def setCover (url : Option String) : Edit Unit :=
  editChannel ({ · with cover := url.map Source.ofUrl })

/-! ### Signatures -/

/-- Attaches a signature made elsewhere, in place of any other. -/
def attach (block : Block) : Edit Unit := do
  let r ← get
  if r.standing = .legacy then throw (.readOnly .signature)
  MonadExcept.ofExcept (block.checkFits r.generation)
  modify ({ · with signature := some block })
  modify ({ · with standing := .signed })

/-- Drops the signature and gives it. A legacy record stays one. -/
def removeSignature : Edit (Option Block) := do
  let removed := (← get).signature
  modify ({ · with signature := none })
  if (← get).standing = .signed then modify ({ · with standing := .unsigned })
  return removed

def unsigned (r : Record) : Record := removeSignature.after r

end Record

/-!
## Signing records

A channel signs the SHA-256 digest of a message that joins what the record covers, the channel and
something of the transaction that carries the claim, so that the signature holds for these three
only.
-/

/-- What of its transaction a signature is bound to. -/
inductive Binding where
  /-- The raw address that a first-generation claim pays to. -/
  | claimAddress (address : Bytes)
  /-- The outpoint that is spent by the first input of the transaction. -/
  | firstInput (outpoint : Bytes)
deriving DecidableEq

namespace Record

def signedMessage (r : Record) (channelId : ClaimId) (binding : Binding) : Except Error Bytes :=
  match r.generation, binding with
  | .v1, .claimAddress address =>
    if address.length ≠ addressLength then .error (.badAddress (.wrongLength address.length))
    else .ok (address ++ r.signable ++ channelId.bytes)
  | .v2, .firstInput outpoint => .ok (outpoint ++ channelId.claimHash ++ r.signable)
  | _, _ => .error (.badBlock .binding)

def digest (r : Record) (channelId : ClaimId) (binding : Binding) :
    Except Error Bytes :=
  (r.signedMessage channelId binding).map sha256

/-- Signs a record for a channel and attaches the signature in place of any other. -/
def sign (key : SigningKey) (channelId : ClaimId) (binding : Binding) : Edit Unit := do
  let digest ← MonadExcept.ofExcept ((← get).digest channelId binding)
  match Ecdsa.sign? key digest with
  | none => throw (.badBlock .signingFailed)
  | some signature => attach ⟨.secp256k1, signature.lowS.toBytes, channelId⟩

def verify (r : Record) (key : PublicKey) (binding : Binding) : Except Error Unit :=
  match r.signature with
  | none => .error (.badBlock .notSigned)
  | some block =>
    if block.keyKind ≠ .secp256k1 then .error (.badBlock .unverifiable)
    else
      match Ecdsa.ofBytes? block.signature with
      | none => .error (.badBlock .notPair)
      | some signature => do
        -- A binding that does not fit is an error of its own, and no mismatch.
        let digest ← r.digest block.channelId binding
        if Ecdsa.verify key digest signature.lowS then return ()
        else throw .signatureMismatch

/-- Checks the signature of a record against a channel's own record. -/
def verifyAgainst (r channel : Record) (binding : Binding) : Except Error Unit := do
  let view ← channel.channel
  let key ← view.decodedKey
  r.verify key binding

end Record

end ChainClaim
