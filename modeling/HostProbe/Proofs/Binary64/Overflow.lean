import HostProbe.Proofs.Binary64.Order
import Mathlib.Data.Nat.Log

namespace HostProbe

theorem div_le_roundDiv (tie : Tie) (num den : Nat) : num / den ≤ roundDiv tie num den := by
  unfold roundDiv
  dsimp only
  split
  · exact Nat.le_refl _
  split
  · exact Nat.le_succ _
  · cases tie with
    | up => exact Nat.le_succ _
    | even =>
        dsimp only
        split <;> omega

theorem roundDiv_mono (tie : Tie) {num num' den : Nat} (h : num ≤ num') :
    roundDiv tie num den ≤ roundDiv tie num' den := by
  rcases Nat.lt_or_eq_of_le (Nat.div_le_div_right (c := den) h) with hlt | heq
  · calc roundDiv tie num den
      _ ≤ num / den + 1 := roundDiv_le tie num den
      _ ≤ num' / den := hlt
      _ ≤ roundDiv tie num' den := div_le_roundDiv tie num' den
  · have hm : num % den ≤ num' % den := by
      have h₁ := Nat.div_add_mod num den
      have h₂ := Nat.div_add_mod num' den
      rw [heq] at h₁
      omega
    unfold roundDiv
    dsimp only
    rw [heq]
    cases tie <;> dsimp only <;> split_ifs <;> omega

namespace Binary64

variable {x y : Binary64}

theorem nearest_le_infinite (num den : Nat) : nearest num den ≤ infinite := Nat.min_le_right _ _

theorem nearest_lt_signBit (num den : Nat) : nearest num den < signBit :=
  Nat.lt_of_le_of_lt (nearest_le_infinite num den) (by decide)

/-- A greater quotient has no lesser exponent. With the same one the significands are compared, and
with another one each of them is less than twice the least. -/
theorem nearest_mono {num num' : Nat} (den : Nat) (h : num ≤ num') :
    nearest num den ≤ nearest num' den := by
  have hn : num * one ≤ num' * one := Nat.mul_le_mul_right _ h
  have hq : num * one / den ≤ num' * one / den := Nat.div_le_div_right hn
  have hlog : (num * one / den).log2 ≤ (num' * one / den).log2 := by
    rw [Nat.log2_eq_log_two, Nat.log2_eq_log_two]
    exact Nat.log_mono_right hq
  refine min_le_min_right _ ?_
  rcases Nat.eq_or_lt_of_le (Nat.sub_le_sub_right hlog 52) with hs | hs
  · rw [hs]
    exact Nat.add_le_add_left (roundDiv_mono _ hn) _
  · have hlow := quotient_lt (num * one) den
    have hhigh : hiddenBit ≤ num' * one / den <<< ((num' * one / den).log2 - 52) :=
      le_quotient (by omega)
    calc _ ≤ ((num * one / den).log2 - 52) * hiddenBit +
          (num * one / den <<< ((num * one / den).log2 - 52) + 1) :=
        Nat.add_le_add_left (roundDiv_le _ _ _) _
      _ ≤ ((num * one / den).log2 - 52 + 1) * hiddenBit + hiddenBit := by
        rw [Nat.succ_mul]
        omega
      _ ≤ ((num' * one / den).log2 - 52) * hiddenBit + hiddenBit :=
        Nat.add_le_add_right (Nat.mul_le_mul_right _ hs) _
      _ ≤ _ := Nat.add_le_add_left (hhigh.trans (div_le_roundDiv _ _ _)) _

theorem magnitude_lt_signBit (x : Binary64) : x.magnitude < signBit := Nat.mod_lt _ (by decide)

theorem negative_ofMagnitude {m : Nat} (h : m < signBit) (negative : Bool) :
    (ofMagnitude negative m).negative = negative := by
  have hs : signBit + signBit = 2 ^ 64 := by decide
  have hlt : (if negative then signBit + m else m) < 2 ^ 64 := by
    split <;> omega
  rw [Binary64.negative, ofMagnitude, UInt64.toNat_ofNat_of_lt' hlt]
  cases negative with
  | true => exact decide_eq_true (Nat.le_add_right _ _)
  | false => exact decide_eq_false (Nat.not_le.2 h)

/-- A number is its sign and its magnitude. -/
theorem ofMagnitude_magnitude (x : Binary64) : ofMagnitude x.negative x.magnitude = x := by
  have hx := x.bits.toNat_lt
  have hs : signBit + signBit = 2 ^ 64 := by decide
  have hn : (if x.negative = true then signBit + x.magnitude else x.magnitude) = x.bits.toNat := by
    rw [magnitude]
    rcases Nat.lt_or_ge x.bits.toNat signBit with h | h
    · rw [negative, decide_eq_false (Nat.not_le.2 h), if_neg Bool.false_ne_true, Nat.mod_eq_of_lt h]
    · rw [negative, decide_eq_true h, if_pos rfl, Nat.mod_eq_sub_mod h, Nat.mod_eq_of_lt (by omega)]
      omega
  rw [ofMagnitude, hn, UInt64.ofNat_toNat]

theorem eq_infinity_iff : x = infinity ↔ x.negative = false ∧ x.magnitude = infinite := by
  constructor
  · rintro rfl
    decide
  · rintro ⟨hn, hm⟩
    rw [← x.ofMagnitude_magnitude, hn, hm, infinity]

theorem isNaN_or (x : Binary64) :
    x.isNaN = true ∨ x.isInfinite = true ∨ x.isFinite = true := by
  simp only [isNaN, isInfinite, isFinite, decide_eq_true_eq]
  omega

theorem negative_neg (x : Binary64) : x.neg.negative = !x.negative :=
  negative_ofMagnitude x.magnitude_lt_signBit _

theorem magnitude_neg (x : Binary64) : x.neg.magnitude = x.magnitude :=
  magnitude_ofMagnitude x.magnitude_lt_signBit _

theorem value_neg (x : Binary64) : x.neg.value = -x.value := by
  rw [value, value, negative_neg, units_eq, units_eq, magnitude_neg]
  cases x.negative <;> simp

section Difference

theorem sub_of_isNaN (hy : y.isNaN = true) : x.sub y = nan := by
  have hn : y.neg.isNaN = true := by rwa [isNaN, magnitude_neg]
  rw [sub, add, hn, Bool.or_true, if_pos rfl]

variable (hx : x.isFinite = true)
include hx

theorem sub_of_isInfinite (hy : y.isInfinite = true) : x.sub y = y.neg := by
  have hm : y.neg.magnitude = infinite := by
    rw [magnitude_neg]
    exact of_decide_eq_true hy
  have hn : y.neg.isNaN = false := decide_eq_false (by omega)
  have hi : y.neg.isInfinite = true := decide_eq_true hm
  rw [sub, add, not_isNaN (isFinite_iff.1 hx), not_isInfinite (isFinite_iff.1 hx), hn, hi]
  rfl

theorem sub_of_isFinite (hy : y.isFinite = true) :
    x.sub y = ofUnits (x.negative && !y.negative) (x.value - y.value) := by
  have hn : y.neg.magnitude < infinite := by
    rw [magnitude_neg]
    exact isFinite_iff.1 hy
  rw [sub, add, not_isNaN (isFinite_iff.1 hx), not_isInfinite (isFinite_iff.1 hx), not_isNaN hn,
    not_isInfinite hn, value_neg, negative_neg, Int.sub_eq_add_neg]
  rfl

end Difference

theorem ofUnits_of_pos {value : Int} (h : 0 < value) (zeroNegative : Bool) :
    ofUnits zeroNegative value = ofMagnitude false (nearest value.toNat one) := by
  have hn : value.natAbs = value.toNat := by omega
  rw [ofUnits, if_neg (Int.ne_of_gt h), ofRatio, decide_eq_false (Int.not_lt.2 (Int.le_of_lt h)), hn]

theorem ofUnits_of_nonpos {value : Int} (h : value ≤ 0) (zeroNegative : Bool) :
    (ofUnits zeroNegative value).negative = true ∨ (ofUnits zeroNegative value).magnitude = 0 := by
  unfold ofUnits
  split
  · exact .inr (magnitude_ofMagnitude (by decide) _)
  · rw [decide_eq_true (show value < 0 by omega)]
    exact .inl (negative_ofMagnitude (nearest_lt_signBit _ _) _)

/-- A product with a number above zero is infinite from a bound of the other factor on. -/
theorem mul_eq_infinity_iff (hy : y.isFinite = true) (hn : y.negative = false)
    (hz : y.magnitude ≠ 0) : x.mul y = infinity ↔ x.negative = false ∧ (x.magnitude = infinite ∨
      x.magnitude < infinite ∧ nearest (x.units * y.units) (one * one) = infinite) := by
  have hyf := isFinite_iff.1 hy
  rw [mul, not_isNaN hyf, not_isInfinite hyf, hn]
  rcases x.isNaN_or with hx | hx | hx
  · have hm : infinite < x.magnitude := of_decide_eq_true hx
    rw [hx, Bool.true_or, if_pos rfl]
    refine iff_of_false (by decide) ?_
    omega
  · have hm : x.magnitude = infinite := of_decide_eq_true hx
    have hne : ¬ (x.magnitude = 0 ∨ y.magnitude = 0) := by
      rintro (h | h)
      · rw [h] at hm
        exact absurd hm (by decide)
      · exact hz h
    rw [isNaN, hm, hx, if_neg (by decide), Bool.true_or, if_pos rfl, ← hm, if_neg hne, hm,
      eq_infinity_iff, negative_ofMagnitude (by decide), magnitude_ofMagnitude (by decide)]
    simp
  · have hm := isFinite_iff.1 hx
    rw [not_isNaN hm, not_isInfinite hm, eq_infinity_iff]
    simp only [Bool.or_self, Bool.false_eq_true, if_false, ofRatio, Bool.bne_false,
      negative_ofMagnitude (nearest_lt_signBit _ _), magnitude_ofMagnitude (nearest_lt_signBit _ _),
      hm, Nat.ne_of_lt hm, false_or, true_and]

theorem atLeastZero_eq_infinity_iff : x.atLeastZero = infinity ↔ x = infinity := by
  constructor
  · intro h
    unfold atLeastZero at h
    split at h
    · exact h
    · exact absurd h (by decide)
  · rintro rfl
    decide

/-- What is at least zero is a number, and it is not below zero. -/
theorem atLeastZero_nonneg (x : Binary64) :
    x.atLeastZero.isNaN = false ∧ lt x.atLeastZero zero = false := by
  unfold atLeastZero
  split
  · next h =>
      obtain ⟨_, hn, hv⟩ := lt_iff.1 h
      refine ⟨hn, ?_⟩
      rw [← Bool.not_eq_true, lt_iff]
      omega
  · decide

theorem isFinite_or_eq_infinity (hn : x.isNaN = false) (hz : lt x zero = false) :
    x.isFinite = true ∨ x = infinity := by
  rcases x.isNaN_or with h | h | h
  · rw [hn] at h
    cases h
  · have hm : x.magnitude = infinite := of_decide_eq_true h
    refine .inr (eq_infinity_iff.2 ⟨?_, hm⟩)
    cases hneg : x.negative with
    | false => rfl
    | true =>
        have hx : x = ofMagnitude true infinite := by rw [← x.ofMagnitude_magnitude, hneg, hm]
        rw [hx] at hz
        exact absurd hz (by decide)
  · exact .inl h

end Binary64

end HostProbe
