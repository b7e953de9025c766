import ChainClaim.Numbers

/-!
# What tells claims apart

Three questions are settled before any content of a claim is read: which generation of the wire
format carries it, whether it is signed, and which variant of content it holds. A fourth, which
network it is for, is not told by the claim but by its surroundings.
-/

namespace ChainClaim

/-- The generation of the wire format. -/
inductive Generation where
  /-- The flat envelope: version, claim type, payload and signature are fields of one message. -/
  | v1
  /-- The prefixed envelope: a marker byte, for signed claims a header, then the payload. -/
  | v2
deriving DecidableEq, Repr

/-- Whether a claim is signed. -/
inductive Standing where
  /-- A first-generation certificate: it is read, never changed and never signed. -/
  | legacy
  | unsigned
  | signed
deriving DecidableEq, Repr

inductive Variant where
  | stream
  | channel
  | collection
  | repost
deriving DecidableEq, Repr

def Generation.name : Generation → String
  | .v1 => "V1"
  | .v2 => "V2"

def Standing.name : Standing → String
  | .legacy => "Legacy"
  | .unsigned => "Unsigned"
  | .signed => "Signed"

namespace Variant

def name : Variant → String
  | .stream => "stream"
  | .channel => "channel"
  | .collection => "collection"
  | .repost => "repost"

/-- The number of the field that holds the variant in a second-generation payload. -/
def fieldNumber : Variant → Nat
  | .stream => 1
  | .channel => 2
  | .collection => 3
  | .repost => 4

def ofFieldNumber? : Nat → Option Variant
  | 1 => some .stream
  | 2 => some .channel
  | 3 => some .collection
  | 4 => some .repost
  | _ => none

theorem ofFieldNumber?_fieldNumber (v : Variant) : ofFieldNumber? v.fieldNumber = some v := by
  cases v <;> rfl

end Variant

/-!
## Networks

The chain runs on three networks. They differ, as far as claims can tell, in the first byte of an
address; the two that are not the main network share theirs.
-/

inductive Network where
  | mainnet
  | testnet
  | regtest
deriving DecidableEq, Repr

/-- What an address pays to. -/
inductive AddressKind where
  | pubkeyHash
  | scriptHash
deriving DecidableEq, Repr

namespace Network

/-- The name by which the chain's daemon knows the network. -/
def name : Network → String
  | .mainnet => "lbrycrd_main"
  | .testnet => "lbrycrd_testnet"
  | .regtest => "lbrycrd_regtest"

/-- The word for the network, as settings spell it. -/
def word : Network → String
  | .mainnet => "mainnet"
  | .testnet => "testnet"
  | .regtest => "regtest"

def ofWord? : String → Option Network
  | "mainnet" => some .mainnet
  | "testnet" => some .testnet
  | "regtest" => some .regtest
  | _ => none

/-- The network that a user names: by its word, its daemon name or a short form. -/
def ofUserText? : String → Option Network
  | "lbrycrd_main" | "mainnet" | "main" => some .mainnet
  | "lbrycrd_testnet" | "testnet" | "test" => some .testnet
  | "lbrycrd_regtest" | "regtest" => some .regtest
  | _ => none

def unknownMessage (text : String) : String :=
  "unknown network: " ++ text

/-- The first byte of an address. -/
def leadByte : Network → AddressKind → UInt8
  | .mainnet, .pubkeyHash => 0x55
  | .mainnet, .scriptHash => 0x7a
  | .testnet, .pubkeyHash | .regtest, .pubkeyHash => 111
  | .testnet, .scriptHash | .regtest, .scriptHash => 196

end Network

end ChainClaim
