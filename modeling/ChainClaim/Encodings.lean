import ChainClaim.Numbers
import ChainClaim.Text

/-!
# Bytes as texts

The two forms in which bytes are shown and typed: claims in hexadecimal, addresses in base 58.
-/

/-!
## Hexadecimal

Claim values travel as hexadecimal texts: two digits a byte, written in lower case and read in
either. `decode (encode bs) = .ok bs`, and a text that decodes is the encoding of its bytes once
its letters are lowered.
-/

namespace ChainClaim.Hex

/-- Why a text is not the hexadecimal form of a byte string. -/
inductive Error where
  /-- The text has an odd number of bytes. -/
  | oddLength
  /-- The first byte of the text that is no digit, and where it stands. -/
  | badDigit (byte : UInt8) (index : Nat)
  /-- The text is hexadecimal but has another length than the value asked for. -/
  | wrongLength
deriving DecidableEq, Repr

/-- The wording of an error. A byte that is no digit is shown as the character of its number. -/
def Error.message : Error → String
  | .oddLength => "Odd number of digits"
  | .badDigit byte index =>
    "Invalid character " ++ Text.quotedChar (Char.ofNat byte.toNat) ++ " at position " ++
      toString index
  | .wrongLength => "Invalid string length"

def encodeByte (b : UInt8) : List Char :=
  [Text.hexDigit (b.toNat / 16), Text.hexDigit (b.toNat % 16)]

def encode (bs : Bytes) : String :=
  String.ofList (bs.flatMap encodeByte)

/-- The value of a digit, given as the byte of its character. -/
def digit? (b : UInt8) : Option Nat :=
  let n := b.toNat
  if 48 ≤ n ∧ n ≤ 57 then some (n - 48)
  else if 65 ≤ n ∧ n ≤ 70 then some (n - 55)
  else if 97 ≤ n ∧ n ≤ 102 then some (n - 87)
  else none

/-- Reads digits in pairs; the head of the list stands at `index` of the text. -/
def decodePairs (index : Nat) : Bytes → Except Error Bytes
  | [] => .ok []
  | [_] => .error .oddLength
  | hi :: lo :: rest =>
    match digit? hi, digit? lo with
    -- Of two bad digits the first one is told.
    | none, _ => .error (.badDigit hi index)
    | some _, none => .error (.badDigit lo (index + 1))
    | some h, some l => do
      let bs ← decodePairs (index + 2) rest
      return UInt8.ofNat (16 * h + l) :: bs

/-- The bytes that `text` writes. An odd length is reported before any bad digit. -/
def decode (text : String) : Except Error Bytes :=
  let digits := Text.toBytes text
  if digits.length % 2 = 1 then .error .oddLength else decodePairs 0 digits

end ChainClaim.Hex

/-!
## Numerals in any base

A number as the list of its digits in a base of at least two, most significant digit first and
none in front of it that is zero, so that zero itself has no digits. Base58 is the passage from
base 256 to base 58.
-/

namespace ChainClaim.Radix

/-- The number that `ds` writes in base `b`, most significant digit first. -/
def value (b : Nat) (ds : List Nat) : Nat :=
  ds.foldl (fun n d => n * b + d) 0

/-- The digits of `n` in base `b + 2`, most significant first. -/
def digits (b n : Nat) : List Nat :=
  if n = 0 then [] else digits b (n / (b + 2)) ++ [n % (b + 2)]
termination_by n
decreasing_by exact Nat.div_lt_self (by omega) (by omega)

theorem value_append_singleton (b : Nat) (ds : List Nat) (d : Nat) :
    value b (ds ++ [d]) = value b ds * b + d := by
  simp [value]

theorem value_digits (b n : Nat) : value (b + 2) (digits b n) = n := by
  induction n using Nat.strongRecOn with
  | ind n ih =>
    rw [digits]
    split
    · next h => simp [value, h]
    · next h =>
      rw [value_append_singleton, ih _ (Nat.div_lt_self (by omega) (by omega)), Nat.mul_comm]
      exact Nat.div_add_mod n (b + 2)

theorem lt_of_mem_digits {b n d : Nat} (h : d ∈ digits b n) : d < b + 2 := by
  induction n using Nat.strongRecOn with
  | ind n ih =>
    rw [digits] at h
    split at h
    · cases h
    · next hn =>
      rcases List.mem_append.1 h with h | h
      · exact ih _ (Nat.div_lt_self (by omega) (by omega)) h
      · rw [List.mem_singleton.1 h]
        exact Nat.mod_lt _ (by omega)

end ChainClaim.Radix

/-!
## Base58

Addresses are written in base 58: the letters and digits without those that look alike. A byte
string is read as one number in base 256, and every zero byte in front of it is written as the
digit zero, so no byte is lost.
-/

namespace ChainClaim.Base58

def alphabet : List Char :=
  "123456789ABCDEFGHJKLMNPQRSTUVWXYZabcdefghijkmnopqrstuvwxyz".toList

/-- Why a text is no base58 numeral. -/
inductive Error where
  /-- A character outside ASCII, and the byte at which it starts. -/
  | nonAscii (index : Nat)
  /-- An ASCII character that is no digit, and where it stands. -/
  | badDigit (char : Char) (index : Nat)
deriving DecidableEq, Repr

def Error.message : Error → String
  | .nonAscii index =>
    "provided string contained non-ascii character starting at byte " ++ toString index
  | .badDigit char index =>
    "provided string contained invalid character " ++ Text.quotedChar char ++ " at byte " ++
      toString index

def symbol (d : Nat) : Char :=
  alphabet.getD d '1'

def digit? (c : Char) : Option Nat :=
  alphabet.findIdx? (· = c)

def encode (bs : Bytes) : String :=
  let zeros := bs.takeWhile (· = 0)
  String.ofList (zeros.map (fun _ => symbol 0) ++ (Radix.digits 56 bs.toNat).map symbol)

/-- The digit values of a text whose head stands at byte `index`. All characters before the first
bad one are ASCII, so bytes and characters count alike. -/
def digitsOf (index : Nat) : List Char → Except Error (List Nat)
  | [] => .ok []
  | c :: rest =>
    if 128 ≤ c.toNat then .error (.nonAscii index)
    else match digit? c with
      | none => .error (.badDigit c index)
      | some d => do
        let ds ← digitsOf (index + 1) rest
        return d :: ds

/-- The bytes of which `text` is the base58 form. -/
def decode (text : String) : Except Error Bytes := do
  let ds ← digitsOf 0 text.toList
  -- Zeros in front do not change the number, so they are counted apart.
  let zeros := ds.takeWhile (· = 0)
  return zeros.map (fun _ => 0) ++ (Radix.digits 254 (Radix.value 58 ds)).map UInt8.ofNat

end ChainClaim.Base58
