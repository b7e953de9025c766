import ChainClaim.Record.Edit
import ChainClaim.Signature

/-!
# Codecs

A codec is bound to a network, on which addresses are shown, and to a size that no claim that goes
in or comes out exceeds.
-/

namespace ChainClaim

/-- The largest claim that the chain accepts, in bytes. -/
def chainMaxSize : Nat := 8192

structure Codec where
  network : Network := .mainnet
  maxSize : Nat := chainMaxSize
deriving DecidableEq

namespace Codec

inductive Fault where
  | claim (error : Error)
  | tooLarge (size limit : Nat)
deriving DecidableEq

def Fault.message : Fault → String
  | .claim error => error.message
  | .tooLarge size limit =>
    "claim is " ++ toString size ++ " bytes, limit is " ++ toString limit

def Fault.causes : Fault → List String
  | .claim error => error.causes
  | .tooLarge _ _ => []

def Fault.isRetryable : Fault → Bool
  | .claim error => error.isRetryable
  | .tooLarge _ _ => false

/-- An operation on claims, its errors as faults. -/
def lift {α : Type} : Except Error α → Except Fault α
  | .ok a => .ok a
  | .error e => .error (.claim e)

/-- Whether a claim of so many bytes is small enough. -/
def checkSize (codec : Codec) (size : Nat) : Except Fault Unit :=
  if codec.maxSize < size then .error (.tooLarge size codec.maxSize) else .ok ()

def read (codec : Codec) (bytes : Bytes) : Except Fault Record := do
  codec.checkSize bytes.length
  lift (Record.ofBytes bytes)

/-- Reads a claim from its hexadecimal form. The size is checked before the digits are. -/
def readHex (codec : Codec) (text : String) : Except Fault Record := do
  let digits := Text.trimBlank text
  -- Two digits make a byte; an odd digit left over is refused with the digits.
  codec.checkSize (digits.utf8ByteSize / 2)
  match Hex.decode digits with
  | .error fault => throw (.claim (.badHex fault))
  | .ok bytes => codec.read bytes

def write (codec : Codec) (record : Record) : Except Fault Bytes := do
  let bytes ← lift record.toBytes
  codec.checkSize bytes.length
  return bytes

def writeHex (codec : Codec) (record : Record) : Except Fault String :=
  (codec.write record).map Hex.encode

def strip (codec : Codec) (bytes : Bytes) : Except Fault Bytes := do
  codec.checkSize bytes.length
  lift (Splice.strip bytes)

def attach (codec : Codec) (bytes : Bytes) (block : Block) : Except Fault Bytes := do
  codec.checkSize bytes.length
  -- A claim that was small enough can be too large with a signature.
  let signed ← lift (Splice.attach bytes block)
  codec.checkSize signed.length
  return signed

def verify (record : Record) (key : PublicKey) (binding : Binding) : Except Fault Unit :=
  lift (record.verify key binding)

def claimId (txid : String) (index : UInt32) : Except Fault ClaimId :=
  match ClaimId.ofOutpoint txid index with
  | .error fault => .error (.claim (.badHex fault))
  | .ok id => .ok id

/-- The address that the fee of a stream is paid to, if it has one. -/
def feeAddress (codec : Codec) (record : Record) : Except Fault (Option String) := do
  let stream ← lift record.stream
  match stream.fee with
  | none => return none
  | some fee =>
    if fee.rawAddress.isEmpty then return none
    else some <$> lift (fee.address codec.network)

end Codec

end ChainClaim
