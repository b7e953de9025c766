import ChainClaim.Record.Edit
import ChainClaim.Record.View

/-!
# Drafts

A new claim, put together call by call. A call for another variant than the draft's does not stop
the calls after it from being made; it is the first such call that finishing the draft reports, and
no call after it changes anything.
-/

namespace ChainClaim

structure Draft where
  record : Record
  fault : Option Error := none

namespace Draft

inductive Call where
  | title (title : String)
  | description (description : String)
  | tag (tag : String)
  | language (language : Language)
  | location (location : Location)
  | thumbnail (url : String)
  | publicKey (key : PublicKey)
  | websiteUrl (url : String)
  | email (email : String)
  | cover (url : String)
  | source (source : Source)
  | author (author : String)
  | license (license : String)
  | releaseTime (seconds : Int64)
  | fee (fee : Fee)
  | media (media : Media)

/-- The edit that a call stands for. Tags, languages and locations add up; all else is set. -/
def Call.edit : Call → Edit Unit
  | .title text => Record.setTitle text
  | .description text => Record.setDescription text
  | .tag text => Record.addTag text
  | .language value => do Record.setLanguages ((← get).languages ++ [value])
  | .location value => do Record.setLocations ((← get).locations ++ [value])
  | .thumbnail url => Record.setThumbnail (some url)
  | .publicKey key => Record.setPublicKey key
  | .websiteUrl url => Record.setWebsiteUrl url
  | .email text => Record.setEmail text
  | .cover url => Record.setCover (some url)
  | .source value => Record.editStream ({ · with source := some value })
  | .author text => Record.editStream ({ · with author := text })
  | .license text => Record.editStream ({ · with license := text })
  | .releaseTime seconds => Record.editStream ({ · with releaseTime := seconds })
  | .fee value => Record.editStream ({ · with fee := some value })
  | .media value => Record.editStream ({ · with media := some value })

/-- Makes an edit, unless one before it failed. -/
def apply (draft : Draft) (edit : Edit Unit) : Draft :=
  match draft.fault with
  | some _ => draft
  | none =>
    match edit.run draft.record with
    | .ok _ record => { draft with record }
    | .error e record => { record, fault := some e }

def start (variant : Variant) : Draft := { record := .blank variant }

def repost (claimHash : Bytes) : Draft :=
  (start .repost).apply (Record.editRepost ({ · with claimHash }))

def call (draft : Draft) (c : Call) : Draft := draft.apply c.edit

def calls (draft : Draft) (cs : List Call) : Draft := cs.foldl call draft

def variant (draft : Draft) : Variant := draft.record.variant

/-- The unsigned record, or the first failure. -/
def finish (draft : Draft) : Except Error Record :=
  match draft.fault with
  | some e => .error e
  | none => .ok draft.record

end Draft

end ChainClaim
