import ChainClaim.Identifiers
import ChainClaim.Proofs.Encodings.Base58

/-!
# Addresses and networks

What a network accepts as a raw address is what it makes of twenty bytes of hash
(`Network.checkAddress_eq_ok_iff`): the lead byte, the length and the checksum leave nothing open.
Showing and reading check alike, and base 58 loses nothing, so the two undo each other. Between
networks only the lead bytes tell, and the main network's are its own
(`Network.addressText_readsBack`).
-/

namespace ChainClaim.Network

variable {network : Network} {raw : Bytes} {text : String}

theorem length_checksum (body : Bytes) : (checksum body).length = 4 := by
  rw [checksum, List.length_take, length_sha256Twice]
  rfl

/-! ## Raw addresses -/

theorem addressBytes_eq (network : Network) (hash : Bytes) (kind : AddressKind) :
    network.addressBytes hash kind =
      (network.leadByte kind :: hash) ++ checksum (network.leadByte kind :: hash) := rfl

/-- A network accepts the addresses that it makes. -/
theorem checkAddress_addressBytes (network : Network) {hash : Bytes} (hhash : hash.length = 20)
    (kind : AddressKind) : network.checkAddress (network.addressBytes hash kind) = .ok () := by
  have hbody : (network.leadByte kind :: hash).length = 21 := by rw [List.length_cons, hhash]
  have hlength : (network.addressBytes hash kind).length = addressLength := by
    rw [addressBytes_eq, List.length_append, hbody, length_checksum]
    rfl
  -- lead byte and hash are 21 bytes, so the reader cuts where the writer joined
  have htake : (network.addressBytes hash kind).take 21 = network.leadByte kind :: hash :=
    List.take_left' hbody
  have hdrop : (network.addressBytes hash kind).drop 21 =
      checksum (network.leadByte kind :: hash) := List.drop_left' hbody
  have hlead : ¬(network.leadByte kind ≠ network.leadByte .pubkeyHash ∧
      network.leadByte kind ≠ network.leadByte .scriptHash) := by
    cases kind with
    | pubkeyHash => exact fun h => h.1 rfl
    | scriptHash => exact fun h => h.2 rfl
  rw [checkAddress, if_neg (not_not_intro hlength), htake, hdrop]
  exact (if_neg hlead).trans (if_neg (not_not_intro rfl))

/-- It accepts no others: what passes the three checks is a lead byte, a hash and its checksum. -/
theorem exists_addressBytes_eq (h : network.checkAddress raw = .ok ()) :
    ∃ hash kind, hash.length = 20 ∧ raw = network.addressBytes hash kind := by
  unfold checkAddress at h
  split at h
  · cases h
  next hlength =>
  cases raw with
  | nil =>
    -- the default lead byte of no bytes is never looked at
    exact absurd (not_not.mp hlength) (by decide)
  | cons lead rest =>
    have hrest : rest.length = 24 := Nat.succ.inj (not_not.mp hlength)
    dsimp only [List.headD_cons] at h
    split at h
    · cases h
    next hlead =>
    split at h
    · cases h
    next hsum =>
    -- the lead byte is one of two, and tells the kind
    obtain ⟨kind, rfl⟩ : ∃ kind, lead = network.leadByte kind := by
      rcases Decidable.not_and_iff_not_or_not.mp hlead with hlead | hlead
      · exact ⟨.pubkeyHash, not_not.mp hlead⟩
      · exact ⟨.scriptHash, not_not.mp hlead⟩
    have hbehind : checksum (network.leadByte kind :: rest.take 20) = rest.drop 20 :=
      not_not.mp hsum
    refine ⟨rest.take 20, kind, ?_, ?_⟩
    · rw [List.length_take, hrest]
      rfl
    · rw [addressBytes_eq, hbehind, List.cons_append, List.take_append_drop]

theorem checkAddress_eq_ok_iff :
    network.checkAddress raw = .ok () ↔
      ∃ hash kind, hash.length = 20 ∧ raw = network.addressBytes hash kind := by
  constructor
  · exact exists_addressBytes_eq
  · rintro ⟨hash, kind, hhash, rfl⟩
    exact checkAddress_addressBytes network hhash kind

/-- Addresses of the main network begin like those of no other. -/
theorem leadByte_ne_of_ne_mainnet (h : network ≠ .mainnet) (kind other : AddressKind) :
    network.leadByte kind ≠ mainnet.leadByte other := by
  cases network with
  | mainnet => exact absurd rfl h
  | testnet | regtest => cases kind <;> cases other <;> decide

/-- The networks that are not the main one make the same addresses. -/
theorem addressBytes_testnet (hash : Bytes) (kind : AddressKind) :
    testnet.addressBytes hash kind = regtest.addressBytes hash kind := by
  cases kind with
  | pubkeyHash | scriptHash => rfl

/-! ## Texts -/

theorem addressText_eq_ok_iff :
    network.addressText raw = .ok text ↔
      network.checkAddress raw = .ok () ∧ text = Base58.encode raw := by
  rw [addressText, Outcome.bind_eq_ok]
  constructor
  · rintro ⟨_, hcheck, h⟩
    cases h
    exact ⟨hcheck, rfl⟩
  · rintro ⟨hcheck, rfl⟩
    exact ⟨(), hcheck, rfl⟩

theorem addressOfText_eq_ok_iff :
    network.addressOfText text = .ok raw ↔
      network.checkAddress raw = .ok () ∧ text = Base58.encode raw := by
  -- what is read of a text is what it is written from, by the law of base 58
  rw [addressOfText, ← Base58.decode_eq_ok_iff]
  cases Base58.decode text with
  | error cause => exact ⟨nofun, fun h => nomatch h.2⟩
  | ok bytes =>
    dsimp only
    rw [Outcome.bind_eq_ok]
    constructor
    · rintro ⟨_, hcheck, h⟩
      cases h
      exact ⟨hcheck, rfl⟩
    · rintro ⟨hcheck, h⟩
      cases h
      exact ⟨(), hcheck, rfl⟩

/-- What the main network makes of a hash is refused by any other. -/
theorem not_checkAddress_of_ne_mainnet (h : network ≠ .mainnet) (hash : Bytes)
    (kind : AddressKind) : network.checkAddress (mainnet.addressBytes hash kind) ≠ .ok () := by
  intro hcheck
  obtain ⟨_, other, -, heq⟩ := exists_addressBytes_eq hcheck
  exact leadByte_ne_of_ne_mainnet h other kind (List.cons.inj heq).1.symm

/-- Showing an address and reading it undo each other, whatever the network: bytes that are shown
are read back, and a text that is read is the one that is shown. Every hash of twenty bytes makes an
address that can be shown. A text that the main network reads is read by no other, while the other
two read the same texts as the same addresses. -/
theorem addressText_readsBack :
    (∀ (network : Network) (raw : Bytes) (text : String),
      network.addressText raw = .ok text ↔ network.addressOfText text = .ok raw) ∧
    (∀ (network : Network) (hash : Bytes) (kind : AddressKind), hash.length = 20 →
      ∃ text, network.addressText (network.addressBytes hash kind) = .ok text) ∧
    (∀ (text : String) (raw : Bytes), mainnet.addressOfText text = .ok raw →
      ∀ other : Network, other ≠ .mainnet → ∀ found, other.addressOfText text ≠ .ok found) ∧
    (∀ (text : String) (raw : Bytes),
      testnet.addressOfText text = .ok raw ↔ regtest.addressOfText text = .ok raw) := by
  refine ⟨fun network raw text => ?_, fun network hash kind hhash => ?_, ?_, fun text raw => ?_⟩
  · rw [addressText_eq_ok_iff, addressOfText_eq_ok_iff]
  · have hcheck := checkAddress_addressBytes network hhash kind
    exact ⟨_, addressText_eq_ok_iff.mpr ⟨hcheck, rfl⟩⟩
  · intro text raw hraw other hother found hfound
    obtain ⟨hcheck, htext⟩ := addressOfText_eq_ok_iff.mp hraw
    obtain ⟨hfoundCheck, hfoundText⟩ := addressOfText_eq_ok_iff.mp hfound
    -- one text shows one raw address, so both networks have accepted the same bytes
    obtain rfl : found = raw := Base58.encode_inj (hfoundText.symm.trans htext)
    obtain ⟨hash, kind, -, rfl⟩ := exists_addressBytes_eq hcheck
    exact not_checkAddress_of_ne_mainnet hother hash kind hfoundCheck
  · simp only [addressOfText_eq_ok_iff, checkAddress_eq_ok_iff, addressBytes_testnet]

/-- An address of the main network begins with a letter b. -/
theorem addressText_readsBack_elevens :
    ∃ raw, raw = mainnet.addressBytes (List.replicate 20 0x11) .pubkeyHash ∧
      mainnet.addressText raw = .ok "bEHWdJd7GM5w6wPqUxQFBfczQaWyhpX7Z8" ∧
      mainnet.addressOfText "bEHWdJd7GM5w6wPqUxQFBfczQaWyhpX7Z8" = .ok raw ∧
      ∀ found, testnet.addressOfText "bEHWdJd7GM5w6wPqUxQFBfczQaWyhpX7Z8" ≠ .ok found := by
  obtain ⟨hreads, hshown, hmain, -⟩ := addressText_readsBack
  obtain ⟨text, htext⟩ := hshown .mainnet (List.replicate 20 0x11) .pubkeyHash rfl
  obtain rfl : text = "bEHWdJd7GM5w6wPqUxQFBfczQaWyhpX7Z8" := by
    rw [(addressText_eq_ok_iff.mp htext).2]
    decide +kernel
  have hread := (hreads _ _ _).mp htext
  exact ⟨_, rfl, htext, hread, hmain _ _ hread .testnet nofun⟩

end ChainClaim.Network
