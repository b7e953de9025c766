import ChainClaim.Curve
import ChainClaim.Encodings
import ChainClaim.Error
import ChainClaim.Hash

/-!
# Claim ids, addresses and keys

The three kinds of names in claims: of a claim, of one who is paid, and of one who signs.
-/

/-!
## Claim ids

A claim is named by twenty bytes that follow from the output that created it. They are shown in
one order and hashed in the reverse one: the claim hash is the claim id read backwards.
-/

namespace ChainClaim

/-- Twenty bytes, in the order in which they are shown. -/
structure ClaimId where
  bytes : Bytes
  length_eq : bytes.length = 20
deriving DecidableEq

namespace ClaimId

def ofBytes? (bytes : Bytes) : Option ClaimId :=
  if h : bytes.length = 20 then some ⟨bytes, h⟩ else none

/-- The same bytes in the order in which they are hashed. -/
def claimHash (id : ClaimId) : Bytes := id.bytes.reverse

def ofClaimHash? (hash : Bytes) : Option ClaimId := ofBytes? hash.reverse

theorem ofBytes?_bytes (id : ClaimId) : ofBytes? id.bytes = some id := by
  simp [ofBytes?, id.length_eq]

theorem ofClaimHash?_claimHash (id : ClaimId) : ofClaimHash? id.claimHash = some id := by
  simp [ofClaimHash?, claimHash, ofBytes?_bytes]

@[simp] theorem length_claimHash (id : ClaimId) : id.claimHash.length = 20 := by
  simp [claimHash, id.length_eq]

/-- The claim that is created by output `index` of the transaction whose shown id is `txid`. The
outpoint is hashed with the transaction id in the order of hashing. -/
def ofOutpoint (txid : String) (index : UInt32) : Except Hex.Error ClaimId := do
  let bytes ← Hex.decode txid
  if bytes.length = 32 then
    let hash := hash160 (bytes.reverse ++ Bytes.ofNat 4 index.toNat)
    return ⟨hash.reverse, by simp [hash]⟩
  else throw .wrongLength

def toHex (id : ClaimId) : String := Hex.encode id.bytes

def ofHex (text : String) : Except Hex.Error ClaimId := do
  let bytes ← Hex.decode text
  match ofBytes? bytes with
  | some id => return id
  | none => throw .wrongLength

/-- How a claim id is shown where its type matters. -/
def describe (id : ClaimId) : String := "ClaimId(" ++ id.toHex ++ ")"

end ClaimId

end ChainClaim

/-!
## Addresses

A raw address is a lead byte that tells network and kind, twenty bytes of hash, and the first four
bytes of a double hash of these as a checksum. It is shown in base 58. Raw addresses are checked
for their network wherever they are shown or read.
-/

namespace ChainClaim.Network

def checksum (body : Bytes) : Bytes := (sha256Twice body).take 4

def addressBytes (network : Network) (hash : Bytes) (kind : AddressKind) : Bytes :=
  let body := network.leadByte kind :: hash
  body ++ checksum body

/-- The address that a key is paid at, given the octets of the key. -/
def keyAddressBytes (network : Network) (octets : Bytes) : Bytes :=
  network.addressBytes (hash160 octets) .pubkeyHash

/-- Whether `raw` is an address of `network`: its length, then its lead byte, then its
checksum. -/
def checkAddress (network : Network) (raw : Bytes) : Except Error Unit :=
  if raw.length ≠ addressLength then .error (.badAddress (.wrongLength raw.length))
  else
    -- The default is never met: the length was checked.
    let lead := raw.headD 0
    if lead ≠ network.leadByte .pubkeyHash ∧ lead ≠ network.leadByte .scriptHash then
      .error (.badAddress (.foreignLead lead network))
    else if checksum (raw.take 21) ≠ raw.drop 21 then .error (.badAddress .checksum)
    else .ok ()

def addressText (network : Network) (raw : Bytes) : Except Error String := do
  network.checkAddress raw
  return Base58.encode raw

/-- The raw address that a text shows, if it is one of `network`. -/
def addressOfText (network : Network) (text : String) : Except Error Bytes := do
  match Base58.decode text with
  | .error cause => throw (.badAddress (.notBase58 cause))
  | .ok raw =>
    network.checkAddress raw
    return raw

end ChainClaim.Network

/-!
## Keys in claims

A channel stores its key as a DER `SubjectPublicKeyInfo` around an uncompressed point of
secp256k1. Its length and everything before the point are fixed, so `toDer` and `ofDer` are inverse
to each other on the byte strings that are accepted at all.
-/

namespace ChainClaim

/-- The kinds of keys that certificates and signatures name. -/
inductive KeyKind where
  | nist256p
  | nist384p
  | secp256k1
deriving DecidableEq, Repr

namespace KeyKind

def code : KeyKind → Int32
  | .nist256p => 1
  | .nist384p => 2
  | .secp256k1 => 3

def ofCode? (code : Int32) : Option KeyKind :=
  [nist256p, nist384p, secp256k1].find? (·.code = code)

def name : KeyKind → String
  | .nist256p => "Nist256p"
  | .nist384p => "Nist384p"
  | .secp256k1 => "Secp256k1"

theorem ofCode?_code (k : KeyKind) : ofCode? k.code = some k := by cases k <;> decide

end KeyKind

namespace PublicKey

/-- The sequences around a point: algorithm and curve, then the head of a bit string of 66
bytes. -/
def derHeader : Bytes := [
  0x30, 0x56, 0x30, 0x10, 0x06, 0x07, 0x2a, 0x86, 0x48, 0xce, 0x3d, 0x02, 0x01, 0x06, 0x05, 0x2b,
  0x81, 0x04, 0x00, 0x0a, 0x03, 0x42, 0x00]

def toDer (key : PublicKey) : Bytes := derHeader ++ key.uncompressed

/-- Reads the wire form: first its length is checked, then what stands before the point, then the
point. -/
def ofDer (der : Bytes) : Except Error PublicKey :=
  if der.length ≠ keyLength then .error (.badKey (.wrongLength der.length))
  else if der.take derHeader.length ≠ derHeader then .error (.badKey .wrongHeader)
  else
    match ofOctets? (der.drop derHeader.length) with
    | none => .error (.badKey .offCurve)
    | some key => .ok key

/-- The compressed octets of a key in wire form. -/
def compressedOfDer (der : Bytes) : Except Error Bytes :=
  (ofDer der).map compressed

end PublicKey

end ChainClaim
