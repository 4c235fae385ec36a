import HostProbe.Binary64.Arithmetic
import HostProbe.Time.Span
import Mathlib.Tactic.Ring

namespace HostProbe

theorem roundDiv_le (tie : Tie) (num den : Nat) : roundDiv tie num den ≤ num / den + 1 := by
  unfold roundDiv
  dsimp only
  split
  · exact Nat.le_succ _
  split
  · exact Nat.le_refl _
  split
  · exact Nat.le_refl _
  · split <;> omega

namespace Binary64

variable {x y : Binary64} {k l : Nat}

def Within (k : Nat) (x : Binary64) : Prop := x.magnitude ≤ (k + 1) * hiddenBit

theorem Within.mono (h : x.Within k) (hk : k ≤ l) : x.Within l :=
  Nat.le_trans h (Nat.mul_le_mul_right _ (Nat.succ_le_succ hk))

theorem Within.magnitude_lt (h : x.Within k) (hk : k < 2046) : x.magnitude < infinite := by
  have hm : (k + 1) * hiddenBit ≤ 2046 * hiddenBit := Nat.mul_le_mul_right _ hk
  have hi : 2046 * hiddenBit < infinite := by decide
  exact Nat.lt_of_le_of_lt (Nat.le_trans h hm) hi

theorem not_isNaN (h : x.magnitude < infinite) : x.isNaN = false :=
  decide_eq_false (Nat.not_lt.2 (Nat.le_of_lt h))

theorem not_isInfinite (h : x.magnitude < infinite) : x.isInfinite = false :=
  decide_eq_false (Nat.ne_of_lt h)

theorem magnitude_ofMagnitude {m : Nat} (h : m < signBit) (negative : Bool) :
    (ofMagnitude negative m).magnitude = m := by
  have hs : signBit + signBit = 2 ^ 64 := by decide
  have hlt : (if negative then signBit + m else m) < 2 ^ 64 := by
    split <;> omega
  rw [magnitude, ofMagnitude, UInt64.toNat_ofNat_of_lt' hlt]
  split
  · rw [Nat.add_mod_left, Nat.mod_eq_of_lt h]
  · exact Nat.mod_eq_of_lt h

/-- Where the exponent is the greatest that the bound allows, only the leading bit is set. -/
theorem Within.units_le (h : x.Within k) : x.units ≤ hiddenBit <<< k := by
  have hpos : 0 < hiddenBit := by decide
  have hdm := Nat.div_add_mod x.magnitude hiddenBit
  have hmod := Nat.mod_lt x.magnitude hpos
  rw [Within] at h
  rw [units, significand, shift, Nat.shiftLeft_eq, Nat.shiftLeft_eq]
  generalize x.magnitude / hiddenBit = q at hdm ⊢
  cases q with
  | zero =>
      have hm : x.magnitude ≤ hiddenBit := by omega
      rw [Nat.zero_sub, Nat.zero_mul, Nat.sub_zero, Nat.pow_zero, Nat.mul_one]
      exact Nat.le_trans hm (Nat.le_mul_of_pos_right _ (Nat.two_pow_pos k))
  | succ p =>
      have hp : hiddenBit * (p + 1) = p * hiddenBit + hiddenBit := by ring
      have hs : x.magnitude - p * hiddenBit = hiddenBit + x.magnitude % hiddenBit := by omega
      rw [Nat.add_sub_cancel, hs]
      rcases Nat.lt_or_ge p k with hl | hl
      · calc (hiddenBit + x.magnitude % hiddenBit) * 2 ^ p
          _ ≤ 2 * hiddenBit * 2 ^ p := Nat.mul_le_mul_right _ (by omega)
          _ = hiddenBit * 2 ^ (p + 1) := by ring
          _ ≤ hiddenBit * 2 ^ k := Nat.mul_le_mul_left _ (Nat.pow_le_pow_right (by decide) hl)
      · have hle : (k + 1) * hiddenBit ≤ hiddenBit * (p + 1) :=
          (Nat.mul_le_mul_right _ (Nat.add_le_add_right hl 1)).trans_eq (Nat.mul_comm _ _)
        have hk : p ≤ k := by
          have hle : (p + 1) * hiddenBit ≤ (k + 1) * hiddenBit := by
            rw [Nat.mul_comm]
            omega
          exact Nat.le_of_succ_le_succ (Nat.le_of_mul_le_mul_right hle hpos)
        obtain rfl : p = k := Nat.le_antisymm hk hl
        exact Nat.mul_le_mul_right _ (by omega)

/-- Rounding looks at no more than 53 bits of a quotient. -/
theorem quotient_lt (num den : Nat) : num / den <<< ((num / den).log2 - 52) < 2 * hiddenBit := by
  have hq : num / den < 2 ^ ((num / den).log2 + 1) := Nat.lt_log2_self
  have hh : 2 * hiddenBit = 2 ^ 53 := by decide
  rw [Nat.shiftLeft_eq, ← Nat.div_div_eq_div_mul, Nat.div_lt_iff_lt_mul (Nat.two_pow_pos _), hh,
    ← Nat.pow_add]
  exact Nat.lt_of_lt_of_le hq (Nat.pow_le_pow_right (by decide) (by omega))

theorem le_quotient {num den : Nat} (h : 52 < (num / den).log2) :
    hiddenBit ≤ num / den <<< ((num / den).log2 - 52) := by
  have hne : num / den ≠ 0 := by
    intro hz
    rw [hz] at h
    exact absurd h (by decide)
  have hh : hiddenBit = 2 ^ 52 := by decide
  rw [Nat.shiftLeft_eq, ← Nat.div_div_eq_div_mul, Nat.le_div_iff_mul_le (Nat.two_pow_pos _), hh,
    ← Nat.pow_add, Nat.add_sub_cancel' (Nat.le_of_lt h)]
  exact Nat.log2_self_le hne

theorem nearest_le {num den : Nat} (h : num * one / den < hiddenBit <<< k) :
    nearest num den ≤ (k + 1) * hiddenBit := by
  have hh : hiddenBit = 2 ^ 52 := by decide
  have hdiv := quotient_lt (num * one) den
  refine Nat.le_trans (Nat.min_le_left _ _) ?_
  refine Nat.le_trans (Nat.add_le_add_left (roundDiv_le _ _ _) _) ?_
  rw [Nat.shiftLeft_eq] at h
  rcases Nat.lt_or_ge 52 (num * one / den).log2 with hl | hl
  · have hk : (num * one / den).log2 - 52 < k := by
      have hle := le_quotient hl
      rw [Nat.shiftLeft_eq, ← Nat.div_div_eq_div_mul,
        Nat.le_div_iff_mul_le (Nat.two_pow_pos _)] at hle
      have hlt := Nat.lt_of_mul_lt_mul_left (Nat.lt_of_le_of_lt hle h)
      exact (Nat.pow_lt_pow_iff_right (by decide)).1 hlt
    calc _ ≤ ((num * one / den).log2 - 52) * hiddenBit + 2 * hiddenBit :=
          Nat.add_le_add_left hdiv _
      _ = ((num * one / den).log2 - 52 + 2) * hiddenBit := by ring
      _ ≤ (k + 1) * hiddenBit := Nat.mul_le_mul_right _ (by omega)
  · -- The significand is not shifted.
    rw [Nat.sub_eq_zero_of_le hl, Nat.shiftLeft_zero] at hdiv ⊢
    rw [Nat.zero_mul, Nat.zero_add]
    cases k with
    | zero => omega
    | succ k =>
        have hk : 2 * hiddenBit ≤ (k + 1 + 1) * hiddenBit := Nat.mul_le_mul_right _ (by omega)
        omega

theorem within_ofRatio {num den : Nat} (h : num * one / den < hiddenBit <<< k) (negative : Bool) :
    (ofRatio negative num den).Within k := by
  have hi : infinite < signBit := by decide
  have hm : nearest num den < signBit := Nat.lt_of_le_of_lt (Nat.min_le_right _ _) hi
  rw [Within, ofRatio, magnitude_ofMagnitude hm]
  exact nearest_le h

theorem within_ofNat {n : Nat} (h : n * one < hiddenBit <<< k) : (ofNat n).Within k :=
  within_ofRatio ((Nat.div_one _).trans_lt h) false

theorem one_pos : 0 < one := by
  rw [one, Nat.one_shiftLeft]
  exact Nat.two_pow_pos 1074

theorem within_ofUnits {value : Int} (h : value.natAbs < hiddenBit <<< k) (zeroNegative : Bool) :
    (ofUnits zeroNegative value).Within k := by
  unfold ofUnits
  split
  · rw [Within, magnitude_ofMagnitude (by decide)]
    exact Nat.zero_le _
  · refine within_ofRatio ?_ _
    rwa [Nat.mul_div_cancel _ one_pos]

theorem Within.neg (h : x.Within k) : x.neg.Within k := by
  have hm : x.magnitude < signBit := Nat.mod_lt _ (by decide)
  rw [Within, Binary64.neg, magnitude_ofMagnitude hm]
  exact h

theorem natAbs_value (x : Binary64) : x.value.natAbs = x.units := by
  unfold value
  split
  · rw [Int.natAbs_neg, Int.natAbs_natCast]
  · exact Int.natAbs_natCast _

theorem one_eq : one = hiddenBit <<< 1022 := by
  have hh : hiddenBit = 1 <<< 52 := by decide
  rw [one, hh, ← Nat.shiftLeft_add]

theorem mul_shiftLeft_lt {m n : Nat} (h : k + l < m + n) :
    hiddenBit <<< k * hiddenBit <<< l < hiddenBit <<< m * hiddenBit <<< n := by
  have hh (a b : Nat) : hiddenBit <<< a * hiddenBit <<< b = hiddenBit * hiddenBit * 2 ^ (a + b) := by
    rw [Nat.shiftLeft_eq, Nat.shiftLeft_eq]
    ring
  rw [hh, hh]
  exact Nat.mul_lt_mul_of_pos_left (Nat.pow_lt_pow_right (by decide) h) (by decide)

section Operations

variable (hx : x.Within k) (hk : k < 2046)
include hx hk

theorem Within.add (hy : y.Within k) : (x.add y).Within (k + 2) := by
  have hxf := hx.magnitude_lt hk
  have hyf := hy.magnitude_lt hk
  have hxu := hx.units_le
  have hyu := hy.units_le
  have hpos : 0 < hiddenBit <<< k := by
    rw [Nat.shiftLeft_eq]
    exact Nat.mul_pos (by decide) (Nat.two_pow_pos k)
  have hdouble : hiddenBit <<< (k + 2) = 4 * hiddenBit <<< k := by
    rw [Nat.shiftLeft_eq, Nat.shiftLeft_eq]
    ring
  have hsum := Int.natAbs_add_le x.value y.value
  rw [natAbs_value, natAbs_value] at hsum
  rw [Binary64.add, not_isNaN hxf, not_isNaN hyf, not_isInfinite hxf, not_isInfinite hyf]
  exact within_ofUnits (by omega) _

theorem Within.sub (hy : y.Within k) : (x.sub y).Within (k + 2) := hx.add hk hy.neg

theorem Within.mul (hy : y.Within l) (hl : l < 2046) {m : Nat} (hm : k + l < m + 1022) :
    (x.mul y).Within m := by
  have hxf := hx.magnitude_lt hk
  have hyf := hy.magnitude_lt hl
  rw [Binary64.mul, not_isNaN hxf, not_isNaN hyf, not_isInfinite hxf, not_isInfinite hyf]
  refine within_ofRatio ?_ _
  rw [Nat.mul_div_mul_right _ _ one_pos, Nat.div_lt_iff_lt_mul one_pos]
  rw [one_eq]
  exact Nat.lt_of_le_of_lt (Nat.mul_le_mul hx.units_le hy.units_le) (mul_shiftLeft_lt hm)

/-- Division by a number that is not below one. -/
theorem Within.div (hy : y.magnitude < infinite) (hone : one ≤ y.units) : (x.div y).Within (k + 1) := by
  have hxf := hx.magnitude_lt hk
  have hne : y.magnitude ≠ 0 := by
    intro hz
    rw [units, significand, shift, hz, Nat.zero_sub, Nat.zero_shiftLeft] at hone
    exact Nat.not_le.2 one_pos hone
  rw [Binary64.div, not_isNaN hxf, not_isNaN hy, not_isInfinite hxf, not_isInfinite hy]
  simp only [Bool.or_self, Bool.false_eq_true, if_false, if_neg hne]
  refine within_ofRatio ?_ _
  have hlt : hiddenBit <<< k < hiddenBit <<< (k + 1) := by
    rw [Nat.shiftLeft_eq, Nat.shiftLeft_eq]
    exact Nat.mul_lt_mul_of_pos_left (Nat.pow_lt_pow_succ (by decide)) (by decide)
  calc x.units * one / y.units
    _ ≤ x.units * one / one := Nat.div_le_div_left hone one_pos
    _ = x.units := Nat.mul_div_cancel _ one_pos
    _ < hiddenBit <<< (k + 1) := Nat.lt_of_le_of_lt hx.units_le hlt

end Operations

theorem within_ofNat_word {n : Nat} (h : n < 0x10000000000000000) : (ofNat n).Within 1086 := by
  have hword : 2 ^ 64 * one = hiddenBit <<< (1022 + 64) := by
    rw [one_eq, Nat.shiftLeft_add, Nat.shiftLeft_eq _ 64, Nat.mul_comm]
  exact within_ofNat (Nat.lt_of_lt_of_eq (Nat.mul_lt_mul_of_pos_right h one_pos) hword)

end Binary64

namespace Time.Span

theorem seconds_lt (s : Span) : s.seconds < 0x10000000000000000 :=
  Nat.div_lt_of_lt_mul (Nat.lt_of_lt_of_eq s.fits (Nat.mul_comm _ _))

theorem fraction_lt (s : Span) : s.fraction < second := Nat.mod_lt _ (by decide)

theorem within_toBinary64 (s : Span) : s.toBinary64.Within 1089 := by
  have hseconds := Binary64.within_ofNat_word s.seconds_lt
  have hfraction := Binary64.within_ofNat_word (Nat.lt_trans s.fraction_lt (by decide))
  have hsecond := (Binary64.within_ofNat_word (n := second) (by decide)).magnitude_lt (by decide)
  exact (hseconds.mono (Nat.le_succ _)).add (by decide)
    (hfraction.div (by decide) hsecond (by decide +kernel))

end Time.Span

end HostProbe
