import ChainClaim.Numbers
import Mathlib.Algebra.Group.Nat.Defs
import Mathlib.Data.List.Induction

/-!
# Outcomes and numbers

Two kinds of facts that all modules use: a sequence of steps that succeeds is taken apart into the
results of its steps, and digits are taken for the number that they write.
-/

/-!
## Sequences of steps that can fail

A sequence of steps succeeds exactly if each step does, so a success is taken apart into the results
of its steps, front to back.
-/

namespace ChainClaim.Outcome

variable {ε α β : Type}

theorem bind_eq_ok {x : Except ε α} {f : α → Except ε β} {b : β} :
    x >>= f = .ok b ↔ ∃ a, x = .ok a ∧ f a = .ok b := by
  cases x with
  | error e => exact ⟨nofun, nofun⟩
  | ok a =>
    constructor
    · intro h
      exact ⟨a, rfl, h⟩
    · rintro ⟨_, ha, h⟩
      cases ha
      exact h

@[simp] theorem ok_bind (a : α) (f : α → Except ε β) : (Except.ok a >>= f) = f a := rfl

theorem map_eq_ok {x : Except ε α} {f : α → β} {b : β} :
    x.map f = .ok b ↔ ∃ a, x = .ok a ∧ f a = b := by
  cases x with
  | error e => exact ⟨nofun, nofun⟩
  | ok a =>
    constructor
    · intro h
      exact ⟨a, rfl, Except.ok.inj h⟩
    · rintro ⟨_, ha, rfl⟩
      cases ha
      rfl

theorem map_eq_error {x : Except ε α} {f : α → β} {e : ε} :
    x.map f = .error e ↔ x = .error e := by
  cases x with
  | error e' =>
    constructor <;> (intro h; cases h; rfl)
  | ok a => exact ⟨nofun, nofun⟩

end ChainClaim.Outcome

/-!
## Numbers

What byte strings and dyadic fractions keep of a number: its digits give it back modulo the range
that they cover, and rounding leaves it as it is if it fits but for zeros behind it.
-/

namespace ChainClaim

namespace Bytes

theorem toNat_append_singleton (bs : Bytes) (b : UInt8) :
    toNat (bs ++ [b]) = toNat bs * 256 + b.toNat := by
  simp [toNat]

/-- The number in front weighs 256 for each digit behind it. Induction on those, from the last one. -/
theorem toNat_append (a b : Bytes) : toNat (a ++ b) = toNat a * 256 ^ b.length + toNat b := by
  induction b using List.reverseRecOn with
  | nil => simp [toNat]
  | append_singleton b last ih =>
    rw [← List.append_assoc, toNat_append_singleton, toNat_append_singleton, ih, List.length_append,
      List.length_singleton, Nat.pow_succ, Nat.add_mul, Nat.mul_assoc, Nat.add_assoc]

/-- Reading back the digits gives the number modulo the range they cover. -/
theorem toNat_ofNat (width n : Nat) : toNat (ofNat width n) = n % 256 ^ width := by
  induction width generalizing n with
  | zero => simp [ofNat, toNat, Nat.mod_one]
  | succ width ih =>
    -- the last digit is the rest by 256, and those before it write the quotient
    rw [ofNat, toNat_append_singleton, ih, Nat.pow_succ, UInt8.toNat_ofNat',
      Nat.mul_comm (256 ^ width) 256, Nat.mod_mul]
    omega

/-- The digits of the number that a byte string writes are its bytes, those that are zero in front
included. Induction on the bytes, from the last one. -/
theorem ofNat_toNat {bs : Bytes} {width : Nat} (h : bs.length = width) :
    ofNat width (toNat bs) = bs := by
  induction bs using List.reverseRecOn generalizing width with
  | nil =>
    subst h
    rfl
  | append_singleton bs b ih =>
    have hb : b.toNat < 256 := b.toNat_lt
    -- a digit weighs less than the base, so dividing by it takes just this digit off
    have hdiv : (toNat bs * 256 + b.toNat) / 256 = toNat bs := by omega
    have hlast : UInt8.ofNat (toNat bs * 256 + b.toNat) = b := by
      apply UInt8.toNat_inj.mp
      rw [UInt8.toNat_ofNat']
      omega
    rw [← h, List.length_append, List.length_singleton, ofNat, toNat_append_singleton, hdiv, hlast,
      ih rfl]

end Bytes

namespace Dyadic

/-- A number that fits the precision but for zeros behind it is left as it is. -/
theorem toPrecision_mul_two_pow {precision n : Nat} (h : n < 2 ^ precision) (zeros : Nat) :
    toPrecision precision (n * 2 ^ zeros) = n * 2 ^ zeros := by
  rcases Nat.eq_zero_or_pos n with rfl | hn
  · simp [toPrecision]
  have hpos : 0 < n * 2 ^ zeros := Nat.mul_pos hn (Nat.two_pow_pos zeros)
  -- the zeros shift the logarithm, so what is cut off is zeros only
  have hlog : (n * 2 ^ zeros).log2 < precision + zeros := by
    apply (Nat.log2_lt (by omega)).mpr
    rw [Nat.pow_add]
    exact Nat.mul_lt_mul_of_pos_right h (Nat.two_pow_pos zeros)
  rw [toPrecision]
  split
  · rfl
  next hwide =>
    -- as many digits as are cut off are zeros, so there is no rest that is rounded
    have hdvd : 2 ^ ((n * 2 ^ zeros).log2 + 1 - precision) ∣ n * 2 ^ zeros :=
      Nat.dvd_mul_left_of_dvd (Nat.pow_dvd_pow 2 (by omega)) n
    have hunit := Nat.two_pow_pos ((n * 2 ^ zeros).log2 + 1 - precision)
    simp only [Nat.one_shiftLeft, Nat.mod_eq_zero_of_dvd hdvd]
    rw [if_neg (by omega), Nat.div_mul_cancel hdvd]

theorem roundHalfUp_eq (n places : Nat) :
    roundHalfUp n places = (2 * n + 2 ^ places) / 2 ^ (places + 1) := by
  rw [roundHalfUp, Nat.one_shiftLeft, Nat.shiftRight_eq_div_pow]

end Dyadic

end ChainClaim
