import ChainClaim.Draft
import ChainClaim.Hash
import ChainClaim.Record.Edit

/-!
# Seeded channels

Channels for trials: key and claim id follow from a seed of 32 bytes, so that what they sign is the
same on every run.
-/

namespace ChainClaim

structure SeededChannel where
  key : SigningKey
  claimId : ClaimId
deriving DecidableEq

namespace SeededChannel

/-- The outpoint that trial signatures are bound to. -/
def trialOutpoint : Bytes := List.replicate 36 0x5a

/-- The channel of a key. Its claim id is the hash of the key's bytes. -/
def ofKey (key : SigningKey) : SeededChannel where
  key := key
  claimId := ⟨hash160 key.toBytes, length_hash160 _⟩

/-- The channel of a seed, which has to be a secret scalar. -/
def ofSeed? (seed : Bytes) : Option SeededChannel :=
  (SigningKey.ofBytes? seed).map ofKey

/-- The scalar with all 31 bytes after the first at `0x11`. -/
def seedTail : Nat := 0x11111111111111111111111111111111111111111111111111111111111111

/-- The channel whose seed begins with the byte `index` and goes on with the byte `0x11`. -/
def numbered (index : UInt8) : SeededChannel :=
  ofKey {
    scalar := index.toNat <<< 248 + seedTail
    pos := by unfold seedTail; omega
    lt_order := by
      have := index.toNat_lt
      unfold seedTail Secp256k1.order
      omega }

/-- The first `count` numbered channels. A number stands for its last byte. -/
def several (count : Nat) : List SeededChannel :=
  (List.range count).map fun i => numbered (UInt8.ofNat i)

def publicKey (channel : SeededChannel) : PublicKey := channel.key.publicKey

def channelClaim (channel : SeededChannel) (title : String) : Except Error Record :=
  ((Draft.start .channel).calls [.title title, .publicKey channel.publicKey]).finish

/-- A stream with nothing but a title, signed by the channel. -/
def signedStream (channel : SeededChannel) (title : String) : Except Error Record := do
  let record ← ((Draft.start .stream).call (.title title)).finish
  match (Record.sign channel.key channel.claimId (.firstInput trialOutpoint)).run record with
  | .ok _ signed => return signed
  | .error e _ => throw e

end SeededChannel

end ChainClaim
