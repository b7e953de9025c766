import ChainClaim.Proofs.Curve
import ChainClaim.Proofs.Record.Migration
import ChainClaim.Summary
import Mathlib

/-!
# Keys in summaries

A summary shows a channel's key in compressed form where the stored bytes spell a point. Who asks a
record for its key is told more: bytes are no key of secp256k1 if the channel names another kind,
whatever they spell. The two agree on every channel but a certificate that names another kind over
the bytes of a point, and there the summary shows a key that the record refuses
(`Summary.compressedKey_iff_decodedKey`).

Members of an object are printed in the order of their names. Their names are distinct, so each is
found where it was put (`Json.at?_ofMembers`).
-/

namespace ChainClaim

/-! ## Members of objects -/

namespace Json

/-- The value that a path of member names leads to. -/
def at? : List String → Json → Option Json
  | [], value => some value
  | name :: path, .object members => (member? name members).bind (at? path)
  | _ :: _, _ => none

theorem member?_eq_some_iff {members : List (String × Json)} (h : (members.map Prod.fst).Nodup)
    {name : String} {value : Json} :
    member? name members = some value ↔ (name, value) ∈ members := by
  constructor
  · intro hmember
    obtain ⟨before, after, rfl, -⟩ := List.lookup_eq_some_iff.mp hmember
    exact List.mem_append_right before List.mem_cons_self
  · intro hmem
    obtain ⟨before, after, rfl⟩ := List.append_of_mem hmem
    rw [List.map_append, List.map_cons, List.nodup_middle] at h
    -- no member in front has the name, so it is not found earlier
    refine List.lookup_eq_some_iff.mpr ⟨before, after, rfl, fun other hother => ?_⟩
    refine bne_iff_ne.mpr fun heq => (List.nodup_cons.mp h).1 ?_
    exact List.mem_append_left _ (List.mem_map.mpr ⟨other, hother, heq.symm⟩)

/-- What is found in an object is found among the members that it was made of. -/
theorem at?_ofMembers {members : List (String × Json)} (h : (members.map Prod.fst).Nodup)
    (name : String) (path : List String) :
    at? (name :: path) (ofMembers members) = (member? name members).bind (at? path) := by
  -- with distinct names what is found does not depend on the order
  have hperm : (members.mergeSort fun a b => a.1 ≤ b.1).Perm members := List.mergeSort_perm _ _
  have hsorted : member? name (members.mergeSort fun a b => a.1 ≤ b.1) = member? name members := by
    refine Option.ext fun value => ?_
    rw [member?_eq_some_iff h, member?_eq_some_iff ((hperm.map Prod.fst).nodup_iff.mpr h),
      hperm.mem_iff]
  show (member? name (members.mergeSort fun a b => a.1 ≤ b.1)).bind (at? path) = _
  rw [hsorted]

theorem member?_append_of_notMem {front : List (String × Json)} {name : String}
    (h : name ∉ front.map Prod.fst) (back : List (String × Json)) :
    member? name (front ++ back) = member? name back := by
  have hnone : List.lookup name front = none := by
    refine List.lookup_eq_none_iff.mpr fun other hother => bne_iff_ne.mpr fun heq => h ?_
    exact List.mem_map.mpr ⟨other, hother, heq.symm⟩
  show List.lookup name (front ++ back) = List.lookup name back
  rw [List.lookup_append, hnone, Option.none_or]

end Json

namespace Summary

/-! ## The members of a summary -/

theorem names_signatureMembers (record : Record) :
    ((signatureMembers record).map Prod.fst).Sublist ["signing_channel", "signature"] := by
  unfold signatureMembers
  split
  · exact List.nil_sublist _
  · exact List.Sublist.refl _

theorem names_streamMembers (codec : Codec) (record : Record) :
    ((streamMembers codec record).map Prod.fst).Sublist ["stream"] := by
  unfold streamMembers
  split
  · exact List.nil_sublist _
  · exact List.Sublist.refl _

theorem names_channelMembers (record : Record) :
    ((channelMembers record).map Prod.fst).Sublist ["channel"] := by
  unfold channelMembers
  split
  · exact List.nil_sublist _
  · exact List.Sublist.refl _

/-- A summary has what the channel has under `channel`, and nothing else there. -/
theorem at?_channel (codec : Codec) (record : Record) (path : List String) :
    (ofRecord codec record).at? ("channel" :: path) =
      (Json.member? "channel" (channelMembers record)).bind (Json.at? path) := by
  rw [ofRecord]
  -- of all that stands in front of the channel only the names matter
  generalize hfront : _ ++ signatureMembers record ++ streamMembers codec record = front
  have hnames : (front.map Prod.fst).Sublist (["variant", "version", "title", "description",
      "tags", "thumbnail", "mature"] ++ ["signing_channel", "signature"] ++ ["stream"]) := by
    rw [← hfront, List.map_append, List.map_append]
    exact ((List.Sublist.refl _).append (names_signatureMembers record)).append
      (names_streamMembers codec record)
  have hnodup : ((front ++ channelMembers record).map Prod.fst).Nodup := by
    rw [List.map_append]
    exact (hnames.append (names_channelMembers record)).nodup (by decide)
  rw [Json.at?_ofMembers hnodup, Json.member?_append_of_notMem fun hmem => ?_]
  exact absurd (hnames.subset hmem) (by decide)

/-- The octets of a channel's key are shown if the stored bytes have any. -/
theorem at?_compressedKey {codec : Codec} {record : Record} {view : ChannelView}
    (hchannel : record.channel = .ok view) :
    (ofRecord codec record).at? ["channel", "compressed_key"] =
      ((PublicKey.compressedOfDer view.publicKey).toOption).map fun octets =>
        .string (Hex.encode octets) := by
  rw [at?_channel]
  simp only [channelMembers, hchannel]
  cases PublicKey.compressedOfDer view.publicKey with
  | error e =>
    show (Json.ofMembers _).at? ["compressed_key"] = none
    rw [Json.at?_ofMembers]
    · rfl
    · show List.Nodup ["public_key", "key_type", "website_url", "email", "cover_url"]
      decide
  | ok octets =>
    show (Json.ofMembers _).at? ["compressed_key"] = _
    rw [Json.at?_ofMembers]
    · rfl
    · show List.Nodup ["compressed_key", "public_key", "key_type", "website_url", "email",
        "cover_url"]
      decide

/-- A key is shown where the stored bytes spell a point, as the text of its compressed octets. -/
theorem shows_iff {codec : Codec} {record : Record} {shown : Json} :
    (ofRecord codec record).at? ["channel", "compressed_key"] = some shown ↔
      ∃ view key, record.channel = .ok view ∧ PublicKey.ofDer view.publicKey = .ok key ∧
        shown = .string (Hex.encode key.compressed) := by
  cases hchannel : record.channel with
  -- what is no channel has no such member, and no view either
  | error e =>
    have hnone : channelMembers record = [] := by simp only [channelMembers, hchannel]
    rw [at?_channel, hnone]
    constructor
    · intro h
      cases h
    · rintro ⟨view, key, hview, -⟩
      cases hview
  | ok view =>
    rw [at?_compressedKey hchannel, PublicKey.compressedOfDer]
    cases hkey : PublicKey.ofDer view.publicKey with
    | error e =>
      constructor
      · intro h
        cases h
      · rintro ⟨other, key, hview, hother, -⟩
        cases hview
        cases hkey.symm.trans hother
    | ok key =>
      -- the view and its key are determined, so what is shown is
      constructor
      · intro h
        exact ⟨view, key, rfl, hkey, (Option.some.inj h).symm⟩
      · rintro ⟨other, found, hview, hother, rfl⟩
        cases hview
        cases hkey.symm.trans hother
        rfl

end Summary

/-! ## Keys of records -/

theorem ChannelView.decodedKey_eq_ok_iff {view : ChannelView} {key : PublicKey} :
    view.decodedKey = .ok key ↔
      view.keyKind = some .secp256k1 ∧ PublicKey.ofDer view.publicKey = .ok key := by
  unfold decodedKey
  split
  next hkind => exact ⟨fun h => ⟨hkind, h⟩, And.right⟩
  next hkind => exact ⟨nofun, fun h => absurd h.1 hkind⟩

/-- Only certificates name kinds of keys. -/
theorem Record.keyKind_of_channel {record : Record} {view : ChannelView}
    (h : record.channel = .ok view) :
    view.keyKind = some .secp256k1 ↔ ¬record.HasForeignKey := by
  unfold channel at h
  split at h
  next hcontent =>
    cases h
    refine ⟨fun _ => ?_, fun _ => rfl⟩
    rintro ⟨c, hcertificate, -⟩
    cases hcontent.symm.trans hcertificate
  next certificate hcontent =>
    cases h
    constructor
    · rintro hkind ⟨c, hcertificate, hforeign⟩
      cases hcontent.symm.trans hcertificate
      exact hforeign hkind
    · intro hnone
      exact Decidable.not_not.mp fun hkind => hnone ⟨certificate, hcontent, hkind⟩
  · cases h

namespace Summary

/-- A summary shows a channel's key where the stored bytes spell a point, and shows that point. This
is the key that the record has, unless the record is a certificate that names another kind of key
over such bytes: there the summary shows a key, and the record has none. -/
theorem compressedKey_iff_decodedKey (codec : Codec) (record : Record) :
    (∀ shown, (ofRecord codec record).at? ["channel", "compressed_key"] = some shown ↔
      ∃ view key, record.channel = .ok view ∧ PublicKey.ofDer view.publicKey = .ok key ∧
        shown = .string (Hex.encode key.compressed)) ∧
    ((∀ shown, (ofRecord codec record).at? ["channel", "compressed_key"] = some shown ↔
      ∃ view key, record.channel = .ok view ∧ view.decodedKey = .ok key ∧
        shown = .string (Hex.encode key.compressed)) ↔
      ¬(record.HasForeignKey ∧ ∃ view key, record.channel = .ok view ∧
        PublicKey.ofDer view.publicKey = .ok key)) := by
  refine ⟨fun shown => shows_iff, ⟨?_, ?_⟩⟩
  · -- at a foreign key over a point the summary shows something, and the record has nothing
    rintro hdecoded ⟨hforeign, view, key, hview, hkey⟩
    obtain ⟨other, decoded, hother, hdecode, -⟩ :=
      (hdecoded _).mp (shows_iff.mpr ⟨view, key, hview, hkey, rfl⟩)
    have hkind := (ChannelView.decodedKey_eq_ok_iff.mp hdecode).1
    exact (Record.keyKind_of_channel hother).mp hkind hforeign
  · intro hnone shown
    rw [shows_iff]
    constructor
    · -- the bytes spell a point, so it is the kind that has to be the right one
      rintro ⟨view, key, hview, hkey, rfl⟩
      have hkind := (Record.keyKind_of_channel hview).mpr fun hforeign =>
        hnone ⟨hforeign, view, key, hview, hkey⟩
      exact ⟨view, key, hview, ChannelView.decodedKey_eq_ok_iff.mpr ⟨hkind, hkey⟩, rfl⟩
    · rintro ⟨view, key, hview, hdecode, rfl⟩
      exact ⟨view, key, hview, (ChannelView.decodedKey_eq_ok_iff.mp hdecode).2, rfl⟩

end Summary

/-- A certificate with the base point of secp256k1 under the name of another curve. -/
def misnamedChannel : Record where
  generation := .v1
  standing := .legacy
  variant := .channel
  content := .legacyCertificate { keyType := 1, publicKey := PublicKey.base.toDer }
  signature := none

def misnamedChannelBytes : Bytes :=
  [0x08, 0x01, 0x10, 0x02, 0x22, 0x5e, 0x08, 0x00, 0x10, 0x01, 0x22, 0x58] ++ PublicKey.base.toDer

theorem ofBytes_misnamedChannel : Record.ofBytes misnamedChannelBytes = .ok misnamedChannel := by
  have hframed : misnamedChannel.framed = misnamedChannelBytes := by cbv
  have hkey : Legacy.Certificate.KeyValid
      { keyType := 1, publicKey := PublicKey.base.toDer } := fun h => absurd h (by decide)
  exact Record.ofBytes_of_framed_eq (.certificate _ hkey) rfl hframed (by decide)

/-- The summary shows the point, which the record refuses to take for its key. -/
theorem Summary.shows_refused_key :
    Record.ofBytes misnamedChannelBytes = .ok misnamedChannel ∧
      (ofRecord {} misnamedChannel).at? ["channel", "compressed_key"] =
        some (.string (Hex.encode PublicKey.base.compressed)) ∧
      ∃ view, misnamedChannel.channel = .ok view ∧
        view.decodedKey = .error (.badKey .channelKind) :=
  ⟨ofBytes_misnamedChannel, shows_iff.mpr ⟨_, _, rfl, PublicKey.base.ofDer_toDer, rfl⟩, _, rfl, rfl⟩

end ChainClaim
