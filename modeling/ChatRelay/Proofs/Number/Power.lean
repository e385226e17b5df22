/-
  Powers of two in floating point.

  A power of two is held exactly as long as its exponent fits
  (`ofRatio_twoTo`), so the powers of the number two are finite up to the
  exponent 1023 and no further (`power_two_eq_none_iff`).
-/
import ChatRelay.Number.Arithmetic
import Mathlib.Algebra.Order.Ring.Nat
import Mathlib.Data.Nat.Log
import Mathlib.Tactic.NormNum

namespace ChatRelay

theorem twoTo_eq (n : Nat) : twoTo n = 2 ^ n := rfl

theorem twoTo_pos (n : Nat) : 0 < twoTo n := Nat.two_pow_pos n

theorem twoTo_add (m n : Nat) : twoTo (m + n) = twoTo m * twoTo n := Nat.pow_add 2 m n

namespace Binary64

/-- The number whose exponent bits are `e`, without a sign and fraction bits. -/
theorem exponentBits_ofSigned {e : Nat} (he : e < 2048) :
    (ofSigned false (e * twoTo 52)).exponentBits = e := by
  have hlt : e * 2 ^ 52 < 2 ^ 64 := by omega
  simp only [exponentBits, ofSigned, Bool.false_eq_true, if_false, Nat.zero_add, twoTo_eq,
    UInt64.toNat_ofNat_of_lt' hlt]
  omega

theorem magnitude_twoTo (n : Nat) : magnitude (twoTo n) 1 = n := by
  have hone : (1 : Nat).log2 = 0 := by decide
  simp [magnitude, hone, twoTo_eq]

theorem roundDiv_of_dvd {num den : Nat} (hden : 0 < den) (h : den ∣ num) :
    roundDiv num den = num / den := by
  simp [roundDiv, Nat.mod_eq_zero_of_dvd h, hden]

/-- **A power of two is exact, or infinite.** -/
theorem ofRatio_twoTo (n : Nat) :
    ofRatio false (twoTo n) 1 = ofSigned false (min 2047 (n + 1023) * twoTo 52) := by
  have hne : twoTo n ≠ 0 := (twoTo_pos n).ne'
  have hq : max (-1074) ((n : Int) - 52) = (n : Int) - 52 := by omega
  -- The significand is 2^52, whichever way the exponent is moved.
  have hm : roundDiv (twoTo n * twoTo (-((n : Int) - 52)).toNat)
      (1 * twoTo ((n : Int) - 52).toNat) = twoTo 52 := by
    have hsplit : twoTo n * twoTo (-((n : Int) - 52)).toNat =
        twoTo 52 * twoTo ((n : Int) - 52).toNat := by
      rw [← twoTo_add, ← twoTo_add]
      congr 1
      omega
    rw [Nat.one_mul, hsplit, roundDiv_of_dvd (twoTo_pos _) (Nat.dvd_mul_left _ _),
      Nat.mul_div_cancel _ (twoTo_pos _)]
  have he : ((n : Int) - 52 + 1074).toNat = n + 1022 := by omega
  simp only [ofRatio, hne, if_false, magnitude_twoTo, hq, hm, he, infiniteBits]
  refine congrArg (ofSigned false) ?_
  rw [twoTo_eq]
  omega

theorem power_two (n : Nat) :
    (ofInt 2).power n = ofSigned false (min 2047 (n + 1023) * twoTo 52) := by
  have htwo : (ofInt 2).twoExponent? = some 1 := by decide
  have hsign : (ofInt 2).isNegative = false := by decide
  have hexp : ((1 : Int) * n).toNat = n := by omega
  have hneg : (-((1 : Int) * n)).toNat = 0 := by omega
  rw [power, htwo]
  simp only [hsign, Bool.false_and, ofTwoExponent, hexp, hneg]
  exact ofRatio_twoTo n

theorem isFinite_power_two (n : Nat) : ((ofInt 2).power n).isFinite = true ↔ n < 1024 := by
  have hbits : (ofSigned false (min 2047 (n + 1023) * twoTo 52)).exponentBits =
      min 2047 (n + 1023) := exponentBits_ofSigned (by omega)
  rw [power_two, isFinite, hbits, bne_iff_ne]
  omega

end Binary64

namespace Number

/-- **The powers of two overflow from the exponent 1024 on.** -/
theorem power_two_eq_none_iff (n : Nat) : power (.real (.ofInt 2)) n = none ↔ 1024 ≤ n := by
  have htwo : (Binary64.ofInt 2).isFinite = true := by decide
  have hfinite := Binary64.isFinite_power_two n
  cases hp : ((Binary64.ofInt 2).power n).isFinite with
  | true => simpa [power, htwo, hp] using hfinite
  | false => simpa [power, htwo, hp] using hfinite

end Number

end ChatRelay
