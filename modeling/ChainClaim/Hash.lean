import ChainClaim.Numbers

/-!
# Hash functions

The hash functions that ids, addresses and signatures rest on. Each pads its message to whole blocks
and folds these into a state. Of a digest the library relies on nothing but its length.
-/

/-!
## SHA-256

The message is padded with a one bit, zeros and its bit length to whole blocks of 64 bytes; each
block is stretched to 64 words that are mixed into a state of eight words. `length_sha256`: the
digest has 32 bytes.
-/

namespace ChainClaim

namespace Sha256

structure State where
  a : UInt32
  b : UInt32
  c : UInt32
  d : UInt32
  e : UInt32
  f : UInt32
  g : UInt32
  h : UInt32
deriving DecidableEq, Repr

/-- Fractional parts of the square roots of the first eight primes. -/
def State.start : State :=
  ⟨0x6a09e667, 0xbb67ae85, 0x3c6ef372, 0xa54ff53a, 0x510e527f, 0x9b05688c, 0x1f83d9ab, 0x5be0cd19⟩

/-- Fractional parts of the cube roots of the first 64 primes, one per round. -/
def roundConstants : List UInt32 := [
  0x428a2f98, 0x71374491, 0xb5c0fbcf, 0xe9b5dba5, 0x3956c25b, 0x59f111f1, 0x923f82a4, 0xab1c5ed5,
  0xd807aa98, 0x12835b01, 0x243185be, 0x550c7dc3, 0x72be5d74, 0x80deb1fe, 0x9bdc06a7, 0xc19bf174,
  0xe49b69c1, 0xefbe4786, 0x0fc19dc6, 0x240ca1cc, 0x2de92c6f, 0x4a7484aa, 0x5cb0a9dc, 0x76f988da,
  0x983e5152, 0xa831c66d, 0xb00327c8, 0xbf597fc7, 0xc6e00bf3, 0xd5a79147, 0x06ca6351, 0x14292967,
  0x27b70a85, 0x2e1b2138, 0x4d2c6dfc, 0x53380d13, 0x650a7354, 0x766a0abb, 0x81c2c92e, 0x92722c85,
  0xa2bfe8a1, 0xa81a664b, 0xc24b8b70, 0xc76c51a3, 0xd192e819, 0xd6990624, 0xf40e3585, 0x106aa070,
  0x19a4c116, 0x1e376c08, 0x2748774c, 0x34b0bcb5, 0x391c0cb3, 0x4ed8aa4a, 0x5b9cca4f, 0x682e6ff3,
  0x748f82ee, 0x78a5636f, 0x84c87814, 0x8cc70208, 0x90befffa, 0xa4506ceb, 0xbef9a3f7, 0xc67178f2]

/-- Rotation to the right, for counts between 1 and 31. -/
def rotr (x : UInt32) (n : UInt32) : UInt32 :=
  (x >>> n) ||| (x <<< (32 - n))

/-- The four bytes of a word, most significant first. -/
def wordBytes (w : UInt32) : Bytes :=
  [(w >>> 24).toUInt8, (w >>> 16).toUInt8, (w >>> 8).toUInt8, w.toUInt8]

/-- A block read as words, most significant byte first. -/
def words : Bytes → List UInt32
  | a :: b :: c :: d :: rest =>
    ((a.toUInt32 <<< 24) ||| (b.toUInt32 <<< 16) ||| (c.toUInt32 <<< 8) ||| d.toUInt32) ::
      words rest
  | _ => []

/-- The word that follows some others, of which the newest is the first: it is made of four of the
last sixteen. -/
def nextWord (ws : List UInt32) : UInt32 :=
  let x := ws.getD 14 0
  let y := ws.getD 1 0
  let s0 := rotr x 7 ^^^ rotr x 18 ^^^ (x >>> 3)
  let s1 := rotr y 17 ^^^ rotr y 19 ^^^ (y >>> 10)
  ws.getD 15 0 + s0 + ws.getD 6 0 + s1

/-- Puts `count` more words before some others. -/
def stretch : (count : Nat) → List UInt32 → List UInt32
  | 0, ws => ws
  | count + 1, ws => stretch count (nextWord ws :: ws)

/-- The 64 words that a block contributes: its own sixteen, then each from four before it. -/
def schedule (block : Bytes) : List UInt32 :=
  (stretch 48 (words block).reverse).reverse

/-- One round: mixes the round's constant plus word into the state. -/
def round (s : State) (kw : UInt32) : State :=
  let s1 := rotr s.e 6 ^^^ rotr s.e 11 ^^^ rotr s.e 25
  let ch := (s.e &&& s.f) ^^^ (~~~s.e &&& s.g)
  let t1 := s.h + s1 + ch + kw
  let s0 := rotr s.a 2 ^^^ rotr s.a 13 ^^^ rotr s.a 22
  let maj := (s.a &&& s.b) ^^^ (s.a &&& s.c) ^^^ (s.b &&& s.c)
  ⟨t1 + (s0 + maj), s.a, s.b, s.c, s.d + t1, s.e, s.f, s.g⟩

def State.add (s t : State) : State :=
  ⟨s.a + t.a, s.b + t.b, s.c + t.c, s.d + t.d, s.e + t.e, s.f + t.f, s.g + t.g, s.h + t.h⟩

def compress (s : State) (block : Bytes) : State :=
  s.add ((List.zipWith (· + ·) roundConstants (schedule block)).foldl round s)

/-- The message followed by a one bit, zeros, and its length in bits as eight bytes, so that the
whole is a multiple of 64 bytes. -/
def pad (m : Bytes) : Bytes :=
  m ++ 0x80 :: (List.replicate ((119 - m.length % 64) % 64) 0 ++ Bytes.ofNat 8 (8 * m.length))

/-- Splits a byte string into blocks of 64; a shorter rest is dropped. -/
def blocks (bs : Bytes) : List Bytes :=
  if bs.length < 64 then [] else bs.take 64 :: blocks (bs.drop 64)
termination_by bs.length
decreasing_by simp only [List.length_drop]; omega

def State.digest (s : State) : Bytes :=
  [s.a, s.b, s.c, s.d, s.e, s.f, s.g, s.h].flatMap wordBytes

@[simp] theorem State.length_digest (s : State) : s.digest.length = 32 := rfl

end Sha256

def sha256 (m : Bytes) : Bytes :=
  ((Sha256.blocks (Sha256.pad m)).foldl Sha256.compress Sha256.State.start).digest

@[simp] theorem length_sha256 (m : Bytes) : (sha256 m).length = 32 := Sha256.State.length_digest _

def sha256Twice (m : Bytes) : Bytes :=
  sha256 (sha256 m)

@[simp] theorem length_sha256Twice (m : Bytes) : (sha256Twice m).length = 32 := length_sha256 _

/-!
## HMAC

The keyed hash over SHA-256 that the deterministic nonce of a signature is drawn from.
-/

/-- HMAC with SHA-256. Keys longer than a block are hashed first. -/
def hmacSha256 (key message : Bytes) : Bytes :=
  -- Either way the key is filled up to a block of 64 bytes.
  let short := if 64 < key.length then sha256 key else key
  let block := short ++ List.replicate (64 - short.length) 0
  sha256 (block.map (· ^^^ 0x5c) ++ sha256 (block.map (· ^^^ 0x36) ++ message))

/-!
## RIPEMD-160

Two lines of eighty steps mix the sixteen words of a block into a state of five words and are
joined at the end. Words and the message length are least significant byte first.
`length_hash160`: the digest has 20 bytes.
-/

namespace Ripemd160

structure State where
  a : UInt32
  b : UInt32
  c : UInt32
  d : UInt32
  e : UInt32
deriving DecidableEq, Repr

def State.start : State :=
  ⟨0x67452301, 0xefcdab89, 0x98badcfe, 0x10325476, 0xc3d2e1f0⟩

/-- Which word of the block each step of the left line takes. -/
def leftWords : List Nat := [
  0, 1, 2, 3, 4, 5, 6, 7, 8, 9, 10, 11, 12, 13, 14, 15,
  7, 4, 13, 1, 10, 6, 15, 3, 12, 0, 9, 5, 2, 14, 11, 8,
  3, 10, 14, 4, 9, 15, 8, 1, 2, 7, 0, 6, 13, 11, 5, 12,
  1, 9, 11, 10, 0, 8, 12, 4, 13, 3, 7, 15, 14, 5, 6, 2,
  4, 0, 5, 9, 7, 12, 2, 10, 14, 1, 3, 8, 11, 6, 15, 13]

def rightWords : List Nat := [
  5, 14, 7, 0, 9, 2, 11, 4, 13, 6, 15, 8, 1, 10, 3, 12,
  6, 11, 3, 7, 0, 13, 5, 10, 14, 15, 8, 12, 4, 9, 1, 2,
  15, 5, 1, 3, 7, 14, 6, 9, 11, 8, 12, 2, 10, 0, 4, 13,
  8, 6, 4, 1, 3, 11, 15, 0, 5, 12, 2, 13, 9, 7, 10, 14,
  12, 15, 10, 4, 1, 5, 8, 7, 6, 2, 13, 14, 0, 3, 9, 11]

/-- The rotation of each step of the left line. -/
def leftTurns : List UInt32 := [
  11, 14, 15, 12, 5, 8, 7, 9, 11, 13, 14, 15, 6, 7, 9, 8,
  7, 6, 8, 13, 11, 9, 7, 15, 7, 12, 15, 9, 11, 7, 13, 12,
  11, 13, 6, 7, 14, 9, 13, 15, 14, 8, 13, 6, 5, 12, 7, 5,
  11, 12, 14, 15, 14, 15, 9, 8, 9, 14, 5, 6, 8, 6, 5, 12,
  9, 15, 5, 11, 6, 8, 13, 12, 5, 12, 13, 14, 11, 8, 5, 6]

def rightTurns : List UInt32 := [
  8, 9, 9, 11, 13, 15, 15, 5, 7, 7, 8, 11, 14, 14, 12, 6,
  9, 13, 15, 7, 12, 8, 9, 11, 7, 7, 12, 7, 6, 15, 13, 11,
  9, 7, 15, 11, 8, 6, 6, 14, 12, 13, 5, 14, 13, 13, 7, 5,
  15, 5, 8, 11, 14, 14, 6, 14, 6, 9, 12, 9, 12, 5, 15, 8,
  8, 5, 12, 9, 12, 5, 14, 6, 8, 13, 6, 5, 15, 13, 11, 11]

/-- The constant of each sixteen steps of the left line. -/
def leftConstants : List UInt32 := [0, 0x5a827999, 0x6ed9eba1, 0x8f1bbcdc, 0xa953fd4e]

def rightConstants : List UInt32 := [0x50a28be6, 0x5c4dd124, 0x6d703ef3, 0x7a6d76e9, 0]

def mix (stage : Nat) (x y z : UInt32) : UInt32 :=
  match stage with
  | 0 => x ^^^ y ^^^ z
  | 1 => (x &&& y) ||| (~~~x &&& z)
  | 2 => (x ||| ~~~y) ^^^ z
  | 3 => (x &&& z) ||| (y &&& ~~~z)
  | _ => x ^^^ (y ||| ~~~z)

/-- Rotation to the left, for counts between 1 and 31. -/
def rotl (x : UInt32) (n : UInt32) : UInt32 :=
  (x <<< n) ||| (x >>> (32 - n))

/-- One step with mixing function `stage`, summand `k` and rotation `turn`. -/
def step (s : State) (stage : Nat) (k turn : UInt32) : State :=
  ⟨s.e, rotl (s.a + mix stage s.b s.c s.d + k) turn + s.e, s.b, rotl s.c 10, s.d⟩

/-- Eighty steps over the words `w`; `stageAt` tells which mixing function step `i` uses. -/
def line (w : Array UInt32) (order : List Nat) (turns constants : List UInt32)
    (stageAt : Nat → Nat) (s : State) : State :=
  ((order.zip turns).zipIdx).foldl
    (fun s ((word, turn), i) =>
      step s (stageAt (i / 16)) (w.getD word 0 + constants.getD (i / 16) 0) turn) s

/-- A block read as words, least significant byte first. -/
def words : Bytes → List UInt32
  | a :: b :: c :: d :: rest =>
    (a.toUInt32 ||| (b.toUInt32 <<< 8) ||| (c.toUInt32 <<< 16) ||| (d.toUInt32 <<< 24)) ::
      words rest
  | _ => []

def compress (s : State) (block : Bytes) : State :=
  let w := (words block).toArray
  let l := line w leftWords leftTurns leftConstants id s
  let r := line w rightWords rightTurns rightConstants (4 - ·) s
  -- The words are turned by one place as the lines are added.
  ⟨s.b + l.c + r.d, s.c + l.d + r.e, s.d + l.e + r.a, s.e + l.a + r.b, s.a + l.b + r.c⟩

/-- The message followed by a one bit, zeros, and its length in bits as eight bytes, least
significant first. -/
def pad (m : Bytes) : Bytes :=
  m ++ 0x80 ::
    (List.replicate ((119 - m.length % 64) % 64) 0 ++ (Bytes.ofNat 8 (8 * m.length)).reverse)

/-- The four bytes of a word, least significant first. -/
def wordBytes (w : UInt32) : Bytes :=
  (Sha256.wordBytes w).reverse

def State.digest (s : State) : Bytes :=
  [s.a, s.b, s.c, s.d, s.e].flatMap wordBytes

end Ripemd160

def ripemd160 (m : Bytes) : Bytes :=
  ((Sha256.blocks (Ripemd160.pad m)).foldl Ripemd160.compress Ripemd160.State.start).digest

@[simp] theorem length_ripemd160 (m : Bytes) : (ripemd160 m).length = 20 := rfl

/-- The twenty bytes by which chains name keys, scripts and outputs: RIPEMD-160 of SHA-256. -/
def hash160 (m : Bytes) : Bytes :=
  ripemd160 (sha256 m)

@[simp] theorem length_hash160 (m : Bytes) : (hash160 m).length = 20 := length_ripemd160 _

end ChainClaim
