import ChainClaim.Proofs.Basic
import ChainClaim.Proofs.Record.Migration
import Mathlib

/-!
# What first-generation fees come to

A first-generation fee is a single-precision number of whole units. Its amount in the smallest unit
of the currency is computed in double precision and then rounded to whole units, and is still the
amount that exact arithmetic gives (`Legacy.Fee.baseUnits_exact`): the 24 digits of the number and
the 19 of `5 ^ 8` fit the 53 digits of their product, and the powers of two in the scale only move
the point (`toPrecision_product`). So there is one rounding, a half going up, and no second one.
-/

namespace ChainClaim

/-! ## Single-precision numbers as rationals -/

namespace Binary32

/-- What a finite number stands for, sign apart: one and a fraction in the binade of its exponent. A
number with no exponent is a fraction of the least binade. -/
def magnitude (x : Binary32) : ℚ :=
  if x.exponentBits = 0 then x.fraction / 2 ^ 23 * 2 ^ (-126 : ℤ)
  else (1 + x.fraction / 2 ^ 23) * 2 ^ ((x.exponentBits : ℤ) - 127)

/-- What a finite number stands for. -/
def value (x : Binary32) : ℚ :=
  if x.isNegative then -x.magnitude else x.magnitude

theorem significand_lt (x : Binary32) : x.significand < 2 ^ 24 := by
  have hfraction : x.fraction < fractionCount := Nat.mod_lt _ (by decide)
  have hcount : fractionCount = 2 ^ 23 := by decide
  -- the leading digit is left out in the bits, unless the number is of the least binade
  unfold significand
  split <;> omega

/-- All finite numbers are multiples of the least one. -/
theorem magnitude_eq (x : Binary32) :
    x.magnitude = ((x.significand <<< x.shift : ℕ) : ℚ) / 2 ^ 149 := by
  rw [magnitude, significand, shift, Nat.shiftLeft_eq]
  by_cases hexponent : x.exponentBits = 0
  · -- the least binade: nothing is shifted
    simp only [hexponent, if_true]
    norm_num
    ring
  · -- shifted by one less than the exponent, which the bias of 127 and the 23 digits of the fraction
    -- make up for: 127 + 23 - 1 = 149
    obtain ⟨e, he⟩ := Nat.exists_eq_succ_of_ne_zero hexponent
    have hcount : fractionCount = 2 ^ 23 := by decide
    have hpower : (2 : ℚ) ^ (((e + 1 : ℕ) : ℤ) - 127) = 2 ^ e / 2 ^ 126 := by
      rw [zpow_sub₀ (by norm_num), zpow_natCast, pow_succ]
      norm_num
      ring
    simp only [he, hcount, hpower, Nat.succ_eq_add_one, Nat.add_sub_cancel]
    push_cast
    ring

theorem magnitude_nonneg (x : Binary32) : 0 ≤ x.magnitude := by
  rw [magnitude_eq]
  positivity

theorem value_of_not_isNegative {x : Binary32} (h : x.isNegative = false) :
    x.value = x.magnitude := by
  simp [value, h]

theorem value_nonpos {x : Binary32} (h : x.isNegative = true) : x.value ≤ 0 := by
  have hnonneg := x.magnitude_nonneg
  simp only [value, h, if_true]
  linarith

end Binary32

/-! ## Roundings -/

/-- Rounding to whole numbers, a half going up, is what is below after a half is added. -/
theorem Dyadic.roundHalfUp_eq_floor (n places : ℕ) :
    roundHalfUp n places = ⌊(n : ℚ) / 2 ^ places + 1 / 2⌋₊ := by
  -- the half is added in units of half of the last place, where it is a whole number
  have hsplit : (n : ℚ) / 2 ^ places + 1 / 2 =
      ((2 * n + 2 ^ places : ℕ) : ℚ) / ((2 ^ (places + 1) : ℕ) : ℚ) := by
    push_cast
    field_simp
    ring
  rw [roundHalfUp_eq, hsplit, Nat.floor_div_eq_div]

/-! ## Scales -/

namespace Currency

/-- How many of its smallest unit a currency counts in one whole unit, by the number of the
currency: a hundred cents to a dollar, and `10 ^ 8` of the smallest unit to a coin of either
chain. -/
def scaleOfCode (code : Int32) : ℕ :=
  if code = 3 then 100 else if code = 1 ∨ code = 2 then 10 ^ 8 else 1

theorem unitsPerWhole_ofCode? (code : Int32) :
    unitsPerWhole (ofCode? code) = scaleOfCode code := by
  by_cases hknown : code = 0 ∨ code = 1 ∨ code = 2 ∨ code = 3
  · rcases hknown with rfl | rfl | rfl | rfl <;> decide
  · -- a number that no currency has counts in whole units, like the unknown currency
    simp only [not_or] at hknown
    obtain ⟨hunknown, hlbc, hbtc, husd⟩ := hknown
    have hnone : ofCode? code = none := by
      simp [ofCode?, Currency.code, Ne.symm hunknown, Ne.symm hlbc, Ne.symm hbtc, Ne.symm husd]
    simp [hnone, unitsPerWhole, scaleOfCode, hlbc, hbtc, husd]

/-- A scale is a small number but for zeros behind it. -/
theorem scaleOfCode_eq (code : Int32) :
    ∃ m zeros, scaleOfCode code = m * 2 ^ zeros ∧ m ≤ 5 ^ 8 := by
  unfold scaleOfCode
  split
  · exact ⟨5 ^ 2, 2, by decide, by decide⟩
  split
  · exact ⟨5 ^ 8, 8, by decide, by decide⟩
  · exact ⟨1, 0, by decide, by decide⟩

end Currency

/-- Double precision holds the product of any single-precision number with any scale. -/
theorem Binary32.toPrecision_product (x : Binary32) (code : Int32) :
    Dyadic.toPrecision doublePrecision ((x.significand <<< x.shift) * Currency.scaleOfCode code) =
      (x.significand <<< x.shift) * Currency.scaleOfCode code := by
  obtain ⟨m, zeros, hscale, hm⟩ := Currency.scaleOfCode_eq code
  have hproduct : (x.significand <<< x.shift) * Currency.scaleOfCode code =
      x.significand * m * 2 ^ (x.shift + zeros) := by
    rw [hscale, Nat.shiftLeft_eq, pow_add]
    ring
  -- the zeros behind both factors only move the point, so it is the rest that has to fit
  have hdigits : x.significand * m < 2 ^ doublePrecision := by
    calc x.significand * m ≤ x.significand * 5 ^ 8 := Nat.mul_le_mul_left _ hm
      _ < 2 ^ 24 * 5 ^ 8 := Nat.mul_lt_mul_of_pos_right x.significand_lt (by decide)
      _ < 2 ^ doublePrecision := by decide
  rw [hproduct, Dyadic.toPrecision_mul_two_pow hdigits]

/-! ## Fees -/

namespace Legacy.Fee

/-- What a fee comes to in exact arithmetic: the nearest whole number of units, a half going up, and
no more than the largest amount. What is no positive number comes to nothing. -/
def exactUnits (fee : Legacy.Fee) : ℕ :=
  if fee.amount.isFinite ∧ 0 < fee.amount.value then
    min (2 ^ 64 - 1) ⌊fee.amount.value * Currency.scaleOfCode fee.currency + 1 / 2⌋₊
  else 0

theorem toNat_baseUnits_of_finite {fee : Legacy.Fee} (hfinite : fee.amount.isFinite = true)
    (hsign : fee.amount.isNegative = false) :
    fee.baseUnits.toNat =
      min (2 ^ 64 - 1) ⌊fee.amount.value * Currency.scaleOfCode fee.currency + 1 / 2⌋₊ := by
  have hproduct : (((fee.amount.significand <<< fee.amount.shift) *
      Currency.scaleOfCode fee.currency : ℕ) : ℚ) / 2 ^ 149 =
        fee.amount.value * Currency.scaleOfCode fee.currency := by
    rw [Binary32.value_of_not_isNegative hsign, Binary32.magnitude_eq]
    push_cast
    ring
  -- the largest amount stands for all that is larger, so nothing wraps around
  have hsize : UInt64.size = 2 ^ 64 := by decide
  simp only [baseUnits, hfinite, hsign, Currency.unitsPerWhole_ofCode?,
    Binary32.toPrecision_product, Dyadic.roundHalfUp_eq_floor, hproduct, Bool.not_false,
    Bool.and_self, if_true]
  rw [UInt64.toNat_ofNat_of_lt' (by omega), hsize]

theorem toNat_baseUnits (fee : Legacy.Fee) : fee.baseUnits.toNat = fee.exactUnits := by
  rw [exactUnits]
  cases hfinite : fee.amount.isFinite with
  | false => simp [baseUnits, hfinite]
  | true =>
    cases hsign : fee.amount.isNegative with
    -- a sign is enough to come to nothing, for zero as well
    | true =>
      have hpos : ¬0 < fee.amount.value := not_lt.mpr (Binary32.value_nonpos hsign)
      simp [baseUnits, hsign, hpos]
    | false =>
      rw [toNat_baseUnits_of_finite hfinite hsign]
      by_cases hpos : 0 < fee.amount.value
      · rw [if_pos ⟨rfl, hpos⟩]
      · -- what is left is zero, and half a unit is less than one
        have hnonneg : 0 ≤ fee.amount.value := by
          rw [Binary32.value_of_not_isNegative hsign]
          exact fee.amount.magnitude_nonneg
        have hzero : fee.amount.value = 0 := le_antisymm (not_lt.mp hpos) hnonneg
        rw [if_neg fun h => hpos h.2, hzero]
        norm_num

/-- More of a currency never comes to less. -/
theorem exactUnits_mono {fee other : Legacy.Fee} (hcurrency : fee.currency = other.currency)
    (hfinite : other.amount.isFinite = true) (hle : fee.amount.value ≤ other.amount.value) :
    fee.exactUnits ≤ other.exactUnits := by
  rw [exactUnits]
  split
  next hpos =>
    -- what is more than a positive amount is positive
    have hother : 0 < other.amount.value := lt_of_lt_of_le hpos.2 hle
    rw [exactUnits, if_pos ⟨hfinite, hother⟩, hcurrency]
    apply min_le_min_left
    apply Nat.floor_le_floor
    gcongr
  · exact Nat.zero_le _

end Legacy.Fee

namespace Record

/-- What readers see of the fee of a stream, in the smallest unit. -/
def feeUnits (r : Record) : Except Error (Option ℕ) :=
  r.stream.map fun view => view.fee.map (·.baseAmount.toNat)

theorem feeUnits_eq {r : Record} {view : StreamView} (h : r.stream = .ok view) :
    r.feeUnits = .ok (view.fee.map (·.baseAmount.toNat)) := by
  rw [feeUnits, h]
  rfl

theorem feeUnits_legacyStream {r : Record} {s : Legacy.Stream}
    (hcontent : r.content = .legacyStream s) :
    r.feeUnits = .ok (s.metadata.fee.map (·.exactUnits)) := by
  have hfee : (StreamView.ofLegacy s).fee = s.metadata.fee.map .ofLegacy := rfl
  have hunits : (fun fee : Legacy.Fee => (FeeView.ofLegacy fee).baseAmount.toNat) =
      (·.exactUnits) := funext Legacy.Fee.toNat_baseUnits
  rw [feeUnits_eq (stream_of_legacyStream hcontent), hfee, Option.map_map]
  exact congrArg (fun f => Except.ok (s.metadata.fee.map f)) hunits

/-- Migration writes the amount that was seen before. -/
theorem feeUnits_migrate {r : Record} {s : Legacy.Stream} (hcontent : r.content = .legacyStream s) :
    ∃ migrated, r.migrate = .ok migrated ∧ migrated.feeUnits = r.feeUnits := by
  refine ⟨_, migrate_legacyStream hcontent, ?_⟩
  rw [feeUnits_eq (stream_of_legacyStream hcontent), ← s.fee_ofCurrent_migratedStream]
  rfl

end Record

/-- Every first-generation fee is converted exactly: to what exact arithmetic gives, seen so in the
record and in what it is migrated to; nothing is rounded but the exact product, once; and more of a
currency never comes to less. -/
theorem Legacy.Fee.baseUnits_exact :
    (∀ fee : Legacy.Fee, fee.baseUnits.toNat = fee.exactUnits) ∧
    (∀ (r : Record) (s : Legacy.Stream), r.content = .legacyStream s →
      r.feeUnits = .ok (s.metadata.fee.map (·.exactUnits)) ∧
        ∃ migrated, r.migrate = .ok migrated ∧
          migrated.feeUnits = .ok (s.metadata.fee.map (·.exactUnits))) ∧
    (∀ (x : Binary32) (code : Int32),
      Dyadic.toPrecision doublePrecision ((x.significand <<< x.shift) * Currency.scaleOfCode code) =
        (x.significand <<< x.shift) * Currency.scaleOfCode code) ∧
    ∀ fee other : Legacy.Fee, fee.currency = other.currency → fee.amount.isFinite = true →
      other.amount.isFinite = true → fee.amount.value ≤ other.amount.value →
        fee.baseUnits ≤ other.baseUnits := by
  refine ⟨toNat_baseUnits, fun r s hcontent => ?_, Binary32.toPrecision_product, ?_⟩
  · obtain ⟨migrated, hmigrate, hunits⟩ := Record.feeUnits_migrate hcontent
    rw [Record.feeUnits_legacyStream hcontent] at hunits
    exact ⟨Record.feeUnits_legacyStream hcontent, migrated, hmigrate, hunits⟩
  · intro fee other hcurrency _ hfinite hle
    rw [UInt64.le_iff_toNat_le, toNat_baseUnits, toNat_baseUnits]
    exact exactUnits_mono hcurrency hfinite hle

/-- A stream that costs twelve and a half cents. -/
def eighthStream : Record where
  generation := .v1
  standing := .unsigned
  variant := .stream
  content := .legacyStream { metadata := { fee := some { currency := 3, amount := ⟨0x3e000000⟩ } } }
  signature := none

/-- One and a half coins. -/
def coinAndHalf : Legacy.Fee := { currency := 1, amount := ⟨0x3fc00000⟩ }

/-- A million million coins. -/
def vastFee : Legacy.Fee := { currency := 1, amount := ⟨0x5368d4a5⟩ }

/-- Half a cent goes up, in what is seen and in what is migrated, and what is more than the largest
amount comes to it. -/
theorem baseUnits_exact_eighthStream :
    eighthStream.feeUnits = .ok (some 13) ∧
      (∃ migrated, eighthStream.migrate = .ok migrated ∧ migrated.feeUnits = .ok (some 13)) ∧
      coinAndHalf.amount.value ≤ vastFee.amount.value ∧
      coinAndHalf.baseUnits ≤ vastFee.baseUnits ∧ vastFee.exactUnits = 2 ^ 64 - 1 := by
  obtain ⟨hunits, hrecords, -, hmono⟩ := Legacy.Fee.baseUnits_exact
  have heighth : Legacy.Fee.exactUnits { currency := 3, amount := ⟨0x3e000000⟩ } = 13 := by
    rw [← hunits]
    decide +kernel
  have hvast : vastFee.exactUnits = 2 ^ 64 - 1 := by
    rw [← hunits]
    decide +kernel
  have hle : coinAndHalf.amount.value ≤ vastFee.amount.value := by decide +kernel
  obtain ⟨hseen, hmigrated⟩ := hrecords eighthStream _ rfl
  simp only [Option.map_some, heighth] at hseen hmigrated
  exact ⟨hseen, hmigrated, hle, hmono _ _ rfl (by decide) (by decide) hle, hvast⟩

end ChainClaim
