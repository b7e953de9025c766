import ChainClaim.Curve
import ChainClaim.Identifiers
import ChainClaim.Proofs.Basic

/-!
# Keys and signatures in bytes

Coordinates and scalars are below `2²⁵⁶`, so each fits into its 32 bytes, and signatures and keys
are read back from the bytes they are written as. A key in wire form has no other bytes than these:
what is read as a key spells one point of the curve in one way (`PublicKey.der_bijective`).
-/

namespace ChainClaim

open Secp256k1

theorem Bytes.toNat_ofNat_of_lt {width n : Nat} (h : n < 256 ^ width) :
    toNat (ofNat width n) = n := by
  rw [toNat_ofNat, Nat.mod_eq_of_lt h]

theorem Secp256k1.order_lt : order < 256 ^ 32 := by decide

theorem Secp256k1.fieldPrime_lt : fieldPrime < 256 ^ 32 := by decide

/-! ## Signatures -/

namespace Ecdsa

theorem ofBytes?_toBytes (g : Ecdsa) : ofBytes? g.toBytes = some g := by
  have htake : g.toBytes.take 32 = Bytes.ofNat 32 g.r := List.take_left' (Bytes.length_ofNat 32 _)
  have hdrop : g.toBytes.drop 32 = Bytes.ofNat 32 g.s := List.drop_left' (Bytes.length_ofNat 32 _)
  rw [ofBytes?, if_pos g.length_toBytes, htake, hdrop,
    Bytes.toNat_ofNat_of_lt (Nat.lt_trans g.r_lt order_lt),
    Bytes.toNat_ofNat_of_lt (Nat.lt_trans g.s_lt order_lt)]
  exact dif_pos ⟨⟨g.r_pos, g.r_lt⟩, g.s_pos, g.s_lt⟩

theorem lowS_s_le (g : Ecdsa) : g.lowS.s ≤ order / 2 := by
  unfold lowS
  split
  · show order - g.s ≤ order / 2
    omega
  · omega

theorem lowS_lowS (g : Ecdsa) : g.lowS.lowS = g.lowS :=
  if_neg (Nat.not_lt.mpr g.lowS_s_le)

theorem twin_twin (g : Ecdsa) : g.twin.twin = g := by
  have hlt := g.s_lt
  have hs : order - (order - g.s) = g.s := by omega
  simp only [twin, hs]

/-- Of a signature and its twin the same one is taken. The order is odd, so no second half is its
own negative. -/
theorem lowS_twin (g : Ecdsa) : g.twin.lowS = g.lowS := by
  have hodd : order % 2 = 1 := by decide
  have hlt := g.s_lt
  have htwin : g.twin.s = order - g.s := rfl
  -- exactly one of the two halves is above the middle, and the other one is taken for both
  unfold lowS
  by_cases hhigh : order / 2 < g.s
  · rw [if_pos hhigh, if_neg (by omega)]
  · rw [if_neg hhigh, if_pos (by omega), twin_twin]

end Ecdsa

/-! ## Keys -/

theorem SigningKey.ofBytes?_toBytes (k : SigningKey) : ofBytes? k.toBytes = some k := by
  have hscalar : (Bytes.ofNat 32 k.scalar).toNat = k.scalar :=
    Bytes.toNat_ofNat_of_lt (Nat.lt_trans k.lt_order order_lt)
  rw [toBytes, ofBytes?, if_pos (Bytes.length_ofNat 32 _), hscalar]
  exact dif_pos ⟨k.pos, k.lt_order⟩

namespace PublicKey

theorem ofOctets?_uncompressed (k : PublicKey) : ofOctets? k.uncompressed = some k := by
  have hlength : (Bytes.ofNat 32 k.x ++ Bytes.ofNat 32 k.y).length = 64 := by
    rw [List.length_append, Bytes.length_ofNat, Bytes.length_ofNat]
  -- a point of the curve has reduced coordinates, so none is cut short by its 32 bytes
  have hx := k.onCurve.1
  have hy := k.onCurve.2.1
  rw [uncompressed, ofOctets?, if_pos ⟨rfl, hlength⟩, List.take_left' (Bytes.length_ofNat 32 _),
    List.drop_left' (Bytes.length_ofNat 32 _),
    Bytes.toNat_ofNat_of_lt (Nat.lt_trans hx fieldPrime_lt),
    Bytes.toNat_ofNat_of_lt (Nat.lt_trans hy fieldPrime_lt)]
  exact dif_pos k.onCurve

theorem length_toDer (k : PublicKey) : k.toDer.length = keyLength := by
  rw [toDer, uncompressed, List.length_append, List.length_cons, List.length_append,
    Bytes.length_ofNat, Bytes.length_ofNat]
  rfl

theorem ofDer_toDer (k : PublicKey) : ofDer k.toDer = .ok k := by
  have htake : k.toDer.take derHeader.length = derHeader := List.take_left' rfl
  have hdrop : k.toDer.drop derHeader.length = k.uncompressed := List.drop_left' rfl
  rw [ofDer, if_neg (not_not_intro k.length_toDer), htake, if_neg (not_not_intro rfl), hdrop,
    ofOctets?_uncompressed]

/-! ### What is read as a key -/

theorem ofCoordinates?_eq_some_iff {x y : Nat} {key : PublicKey} :
    ofCoordinates? x y = some key ↔ key.x = x ∧ key.y = y := by
  unfold ofCoordinates?
  split
  · constructor
    · intro h
      cases h
      exact ⟨rfl, rfl⟩
    · rintro ⟨rfl, rfl⟩
      rfl
  next hoff =>
    refine ⟨nofun, ?_⟩
    rintro ⟨rfl, rfl⟩
    exact absurd key.onCurve hoff

/-- Of the octet forms only the uncompressed one has this length. -/
theorem eq_uncompressed_of_ofOctets? {bs : Bytes} {key : PublicKey} (h : ofOctets? bs = some key)
    (hlength : bs.length = 65) : bs = key.uncompressed := by
  cases bs with
  | nil => cases hlength
  | cons tag rest =>
    rw [ofOctets?] at h
    split at h
    next htag =>
      -- both coordinates are taken in full width, so writing them out gives their bytes again
      obtain ⟨rfl, hrest⟩ := htag
      obtain ⟨hx, hy⟩ := ofCoordinates?_eq_some_iff.mp h
      have htake : (rest.take 32).length = 32 := by simp [hrest]
      have hdrop : (rest.drop 32).length = 32 := by simp [hrest]
      rw [uncompressed, hx, hy, Bytes.ofNat_toNat htake, Bytes.ofNat_toNat hdrop,
        List.take_append_drop]
    next =>
      split at h
      next htag =>
        -- compressed: a tag and one coordinate are 33 bytes
        rw [List.length_cons, htag.2] at hlength
        cases hlength
      · cases h

/-- A key has one wire form, and nothing else is read as one. -/
theorem ofDer_eq_ok_iff {der : Bytes} {key : PublicKey} : ofDer der = .ok key ↔ der = key.toDer := by
  refine ⟨fun h => ?_, fun h => h ▸ key.ofDer_toDer⟩
  unfold ofDer at h
  split at h
  · cases h
  next hlength =>
    split at h
    · cases h
    next hheader =>
      split at h
      · cases h
      next hkey =>
        cases h
        -- length and header are checked, which leaves 65 bytes for the octets
        have hdrop : (der.drop derHeader.length).length = 65 := by
          rw [List.length_drop, not_not.mp hlength]
          rfl
        rw [toDer, ← eq_uncompressed_of_ofOctets? hkey hdrop]
        conv_lhs => rw [← List.take_append_drop derHeader.length der, not_not.mp hheader]

/-- Bytes that spell a point in wire form: after the header and the tag both its coordinates, each of
32 bytes, reduced, and such that the point is on the curve. -/
structure Spells (der xs ys : Bytes) : Prop where
  eq : der = derHeader ++ 0x04 :: (xs ++ ys)
  length_xs : xs.length = 32
  length_ys : ys.length = 32
  x_lt : xs.toNat < fieldPrime
  y_lt : ys.toNat < fieldPrime
  equation : ys.toNat ^ 2 % fieldPrime = (xs.toNat ^ 3 + 7) % fieldPrime

theorem toDer_spells (key : PublicKey) :
    Spells key.toDer (Bytes.ofNat 32 key.x) (Bytes.ofNat 32 key.y) := by
  obtain ⟨hx, hy, hequation⟩ := key.onCurve
  have htoX := Bytes.toNat_ofNat_of_lt (Nat.lt_trans hx fieldPrime_lt)
  have htoY := Bytes.toNat_ofNat_of_lt (Nat.lt_trans hy fieldPrime_lt)
  refine ⟨rfl, Bytes.length_ofNat 32 _, Bytes.length_ofNat 32 _, ?_, ?_, ?_⟩
  · rwa [htoX]
  · rwa [htoY]
  · -- the curve is given by products, so that it can be evaluated
    rw [htoX, htoY]
    simpa only [pow_succ, pow_zero, one_mul] using hequation

theorem Spells.exists_key {der xs ys : Bytes} (h : Spells der xs ys) :
    ∃ key : PublicKey, key.toDer = der ∧ key.x = xs.toNat ∧ key.y = ys.toNat := by
  have hcurve : OnCurve xs.toNat ys.toNat := by
    refine ⟨h.x_lt, h.y_lt, ?_⟩
    simpa only [pow_succ, pow_zero, one_mul] using h.equation
  refine ⟨⟨xs.toNat, ys.toNat, hcurve⟩, ?_, rfl, rfl⟩
  rw [toDer, uncompressed, Bytes.ofNat_toNat h.length_xs, Bytes.ofNat_toNat h.length_ys, h.eq]

/-- The wire form is a bijection between the points of the curve and the bytes that spell one: each
point is read back from its bytes, what is read spells a point, and what spells a point is read as
one that is written as the same bytes. Compressed, it is the tag of its parity and its first
coordinate. -/
theorem der_bijective :
    (∀ key : PublicKey, ofDer key.toDer = .ok key) ∧
      (∀ der, (∃ key, ofDer der = .ok key) ↔ ∃ xs ys, Spells der xs ys) ∧
      ∀ der xs ys, Spells der xs ys → ∃ key, ofDer der = .ok key ∧ key.toDer = der ∧
        compressedOfDer der = .ok (UInt8.ofNat (2 + ys.toNat % 2) :: xs) := by
  have hread : ∀ der xs ys, Spells der xs ys → ∃ key, ofDer der = .ok key ∧ key.toDer = der ∧
      compressedOfDer der = .ok (UInt8.ofNat (2 + ys.toNat % 2) :: xs) := by
    intro der xs ys h
    obtain ⟨key, hder, hx, hy⟩ := h.exists_key
    have hkey : ofDer der = .ok key := ofDer_eq_ok_iff.mpr hder.symm
    refine ⟨key, hkey, hder, ?_⟩
    rw [compressedOfDer, hkey, Except.map, compressed, hx, hy, Bytes.ofNat_toNat h.length_xs]
  refine ⟨ofDer_toDer, fun der => ⟨?_, ?_⟩, hread⟩
  · rintro ⟨key, hkey⟩
    rw [ofDer_eq_ok_iff.mp hkey]
    exact ⟨_, _, key.toDer_spells⟩
  · rintro ⟨xs, ys, h⟩
    obtain ⟨key, hkey, -⟩ := hread der xs ys h
    exact ⟨key, hkey⟩

/-- The base point has an even second coordinate. -/
theorem der_bijective_base :
    Spells base.toDer (Bytes.ofNat 32 baseX) (Bytes.ofNat 32 baseY) ∧
      ofDer base.toDer = .ok base ∧
      compressedOfDer base.toDer = .ok (0x02 :: Bytes.ofNat 32 baseX) := by
  obtain ⟨hread, -, hspelled⟩ := der_bijective
  have hspells : Spells base.toDer (Bytes.ofNat 32 baseX) (Bytes.ofNat 32 baseY) :=
    base.toDer_spells
  obtain ⟨key, -, -, hcompressed⟩ := hspelled _ _ _ hspells
  have htag : UInt8.ofNat (2 + (Bytes.ofNat 32 baseY).toNat % 2) = 0x02 := by decide +kernel
  rw [htag] at hcompressed
  exact ⟨hspells, hread base, hcompressed⟩

end PublicKey

end ChainClaim
