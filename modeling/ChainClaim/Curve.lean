import ChainClaim.Hash
import ChainClaim.Numbers

/-!
# Keys and signatures on secp256k1

The curve with the forms of its points, and signatures over digests.
-/

/-!
## The curve secp256k1

Points of `y² = x³ + 7` over the field of `fieldPrime` elements, and the multiples of its base
point, of which there are `order`. A `PublicKey` is a point other than the one at infinity, held
by its two coordinates together with the fact that they satisfy the equation.

Multiples are computed in Jacobian coordinates, where `(x, y, z)` stands for `(x/z², y/z³)` and
`z = 0` for infinity, because there the group operations divide by nothing.
-/

namespace ChainClaim

namespace Secp256k1

/-- The size of the field: `2²⁵⁶ - 2³² - 977`. -/
def fieldPrime : Nat := 0xfffffffffffffffffffffffffffffffffffffffffffffffffffffffefffffc2f

/-- The number of multiples of the base point. -/
def order : Nat := 0xfffffffffffffffffffffffffffffffebaaedce6af48a03bbfd25e8cd0364141

def baseX : Nat := 0x79be667ef9dcbbac55a06295ce870b07029bfcdb2dce28d959f2815b16f81798
def baseY : Nat := 0x483ada7726a3c4655da4fbfc0e1108a8fd17b448a68554199c47d08ffb10d4b8

/-- `b ^ e` modulo `m`, by repeated squaring. -/
def powMod (b e m : Nat) : Nat :=
  if e = 0 then 1 % m
  else
    let half := powMod b (e / 2) m
    let square := half * half % m
    if e % 2 = 1 then square * b % m else square
termination_by e

/-- The inverse of `a` modulo the prime `m`, by Fermat's little theorem. -/
def invMod (a m : Nat) : Nat := powMod a (m - 2) m

/-- The equation of the curve, with both coordinates reduced. -/
def OnCurve (x y : Nat) : Prop :=
  x < fieldPrime ∧ y < fieldPrime ∧ y * y % fieldPrime = (x * x * x + 7) % fieldPrime

instance (x y : Nat) : Decidable (OnCurve x y) := by unfold OnCurve; infer_instance

/-! ### Field operations on reduced representatives -/

def add (a b : Nat) : Nat := (a + b) % fieldPrime
def sub (a b : Nat) : Nat := (a + (fieldPrime - b)) % fieldPrime
def mul (a b : Nat) : Nat := a * b % fieldPrime
def squared (a : Nat) : Nat := mul a a

/-! ### Points in Jacobian coordinates -/

/-- A point `(x/z², y/z³)`, infinity if `z = 0`. -/
structure Jacobian where
  x : Nat
  y : Nat
  z : Nat
deriving DecidableEq, Repr

namespace Jacobian

def infinity : Jacobian := ⟨1, 1, 0⟩

def ofAffine (x y : Nat) : Jacobian := ⟨x, y, 1⟩

def base : Jacobian := ofAffine baseX baseY

/-- The point added to itself, by its tangent. No point of the curve has `y = 0`. -/
def double (q : Jacobian) : Jacobian :=
  let y2 := squared q.y
  let s := mul 4 (mul q.x y2)
  let m := mul 3 (squared q.x)
  let x' := sub (squared m) (mul 2 s)
  ⟨x', sub (mul m (sub s x')) (mul 8 (squared y2)), mul 2 (mul q.y q.z)⟩

/-- The sum of two points, by their chord. -/
def plus (q t : Jacobian) : Jacobian :=
  if q.z = 0 then t
  else if t.z = 0 then q
  else
    let qz2 := squared q.z
    let tz2 := squared t.z
    let u1 := mul q.x tz2
    let u2 := mul t.x qz2
    let s1 := mul q.y (mul tz2 t.z)
    let s2 := mul t.y (mul qz2 q.z)
    -- The two points over one `x` are equal or opposite.
    if u1 = u2 then if s1 = s2 then double q else infinity
    else
      let h := sub u2 u1
      let r := sub s2 s1
      let h2 := squared h
      let h3 := mul h2 h
      let v := mul u1 h2
      let x' := sub (sub (squared r) h3) (mul 2 v)
      ⟨x', sub (mul r (sub v x')) (mul s1 h3), mul h (mul q.z t.z)⟩

/-- The `k`-fold sum of `q`, by doubling and adding along the binary digits of `k`. -/
def times (k : Nat) (q : Jacobian) : Jacobian :=
  if k = 0 then infinity
  else
    let twice := double (times (k / 2) q)
    if k % 2 = 1 then twice.plus q else twice
termination_by k

end Jacobian

end Secp256k1

open Secp256k1

/-- A point of the curve other than infinity. -/
structure PublicKey where
  x : Nat
  y : Nat
  onCurve : OnCurve x y
deriving DecidableEq

namespace PublicKey

def ofCoordinates? (x y : Nat) : Option PublicKey :=
  if h : OnCurve x y then some ⟨x, y, h⟩ else none

def base : PublicKey := ⟨baseX, baseY, by decide +kernel⟩

def toJacobian (k : PublicKey) : Jacobian := .ofAffine k.x k.y

/-- The affine coordinates of a point, `none` for infinity. -/
def ofJacobian? (q : Jacobian) : Option PublicKey :=
  if q.z = 0 then none
  else
    let w := invMod q.z fieldPrime
    let w2 := squared w
    ofCoordinates? (mul q.x w2) (mul q.y (mul w2 w))

/-! ### Octet forms

A point is written as a tag and its coordinates, each of 32 bytes: tag 4 before both, or tag 2 or
3 before `x` alone, odd for an odd `y`. -/

/-- Both coordinates after tag 4. -/
def uncompressed (k : PublicKey) : Bytes :=
  0x04 :: (Bytes.ofNat 32 k.x ++ Bytes.ofNat 32 k.y)

/-- The `x` coordinate after the tag for the parity of `y`. -/
def compressed (k : PublicKey) : Bytes :=
  UInt8.ofNat (2 + k.y % 2) :: Bytes.ofNat 32 k.x

/-- The point whose `x` coordinate and parity of `y` are given, if there is one. Since the field
has three modulo four elements, a square root is a power. -/
def ofParity? (x parity : Nat) : Option PublicKey :=
  let root := powMod (add (mul (squared x) x) 7) ((fieldPrime + 1) / 4) fieldPrime
  ofCoordinates? x (if root % 2 = parity then root else sub 0 root)

/-- Reads either octet form. Tag and length have to agree and coordinates have to be reduced. -/
def ofOctets? : Bytes → Option PublicKey
  | [] => none
  | tag :: rest =>
    if tag = 4 ∧ rest.length = 64 then
      ofCoordinates? (Bytes.toNat (rest.take 32)) (Bytes.toNat (rest.drop 32))
    else if (tag = 2 ∨ tag = 3) ∧ rest.length = 32 then
      ofParity? (Bytes.toNat rest) (tag.toNat % 2)
    else none

end PublicKey

/-- A secret scalar, between one and the order of the base point. -/
structure SigningKey where
  scalar : Nat
  pos : 0 < scalar
  lt_order : scalar < order
deriving DecidableEq

namespace SigningKey

def ofNat? (n : Nat) : Option SigningKey :=
  if h : 0 < n ∧ n < order then some ⟨n, h.1, h.2⟩ else none

/-- A key from its 32 bytes, most significant first. -/
def ofBytes? (bs : Bytes) : Option SigningKey :=
  if bs.length = 32 then ofNat? bs.toNat else none

def toBytes (k : SigningKey) : Bytes := Bytes.ofNat 32 k.scalar

/-- The multiple of the base point that belongs to the key. A scalar in range never reaches
infinity, the one multiple that has no coordinates, so the alternative is not met. -/
def publicKey (k : SigningKey) : PublicKey :=
  (PublicKey.ofJacobian? (Jacobian.times k.scalar .base)).getD PublicKey.base

end SigningKey

/-!
## Signatures over digests

ECDSA on secp256k1 with a nonce that is a function of key and digest, drawn by HMAC until it falls
into the range of scalars. If `(r, s)` verifies then so does `(r, -s)`; of the two, `lowS` is the
one whose second half is the smaller, and only that one is made or checked here.
-/

/-- A pair of scalars, both between one and the order of the base point. -/
structure Ecdsa where
  r : Nat
  s : Nat
  r_pos : 0 < r
  r_lt : r < order
  s_pos : 0 < s
  s_lt : s < order

namespace Ecdsa

def ofScalars? (r s : Nat) : Option Ecdsa :=
  if h : (0 < r ∧ r < order) ∧ 0 < s ∧ s < order then
    some ⟨r, s, h.1.1, h.1.2, h.2.1, h.2.2⟩
  else none

/-- The two scalars one after the other, 32 bytes each. -/
def toBytes (g : Ecdsa) : Bytes :=
  Bytes.ofNat 32 g.r ++ Bytes.ofNat 32 g.s

@[simp] theorem length_toBytes (g : Ecdsa) : g.toBytes.length = 64 := by
  simp [toBytes]

def ofBytes? (bs : Bytes) : Option Ecdsa :=
  if bs.length = 64 then ofScalars? (Bytes.toNat (bs.take 32)) (Bytes.toNat (bs.drop 32)) else none

/-- The twin with the negated second half. -/
def twin (g : Ecdsa) : Ecdsa :=
  ⟨g.r, order - g.s, g.r_pos, g.r_lt, by have := g.s_lt; omega, by
    have := g.s_pos; have := g.s_lt; omega⟩

/-- The one of a signature and its twin whose second half is at most half the order. -/
def lowS (g : Ecdsa) : Ecdsa :=
  if order / 2 < g.s then g.twin else g

/-! ### The nonce -/

/-- Key and value of the generator that nonces are drawn from. -/
structure Generator where
  key : Bytes
  value : Bytes

namespace Generator

/-- Mixes `data` into the key and moves the value on. -/
def absorb (g : Generator) (data : Bytes) : Generator :=
  let key := hmacSha256 g.key (g.value ++ data)
  ⟨key, hmacSha256 key g.value⟩

def seeded (secret digest : Bytes) : Generator :=
  let blank : Generator := ⟨List.replicate 32 0, List.replicate 32 1⟩
  (blank.absorb (0 :: (secret ++ digest))).absorb (1 :: (secret ++ digest))

/-- The first scalar in range among at most `attempts` draws. -/
def scalar? : (attempts : Nat) → Generator → Option Nat
  | 0, _ => none
  | attempts + 1, g =>
    let value := hmacSha256 g.key g.value
    let k := value.toNat
    if 0 < k ∧ k < order then some k
    else scalar? attempts ((Generator.mk g.key value).absorb [0])

end Generator

/-- How many nonces are drawn at most. A draw misses the range with probability below `2⁻¹²⁷`. -/
def maxDraws : Nat := 64

/-- Signs a digest: `r` is the `x` coordinate of the nonce's multiple of the base point, and `s`
the quotient of `digest + r * secret` by the nonce. -/
def sign? (key : SigningKey) (digest : Bytes) : Option Ecdsa := do
  let z := digest.toNat % order
  -- The generator takes the digest as a scalar of 32 bytes, so it is reduced first.
  let k ← Generator.scalar? maxDraws (.seeded key.toBytes (Bytes.ofNat 32 z))
  let point ← PublicKey.ofJacobian? (Jacobian.times k .base)
  let r := point.x % order
  ofScalars? r (invMod k order * ((z + r * key.scalar) % order) % order)

/-- Whether a signature belongs to a key and a digest: the combination of the base point and the
key that it names has `r` as its `x` coordinate. -/
def verify (key : PublicKey) (digest : Bytes) (g : Ecdsa) : Bool :=
  -- Division by the second half is multiplication by its inverse.
  let w := invMod g.s order
  let u := digest.toNat % order * w % order
  let v := g.r * w % order
  match PublicKey.ofJacobian? ((Jacobian.times u .base).plus (Jacobian.times v key.toJacobian)) with
  | none => false
  | some point => point.x % order == g.r

end Ecdsa

end ChainClaim
