import HostProbe.Proofs.Binary64.Overflow

namespace HostProbe.Binary64

variable {m n : Nat}

theorem magnitude_ofRatio (negative : Bool) (num den : Nat) :
    (ofRatio negative num den).magnitude = nearest num den :=
  magnitude_ofMagnitude (nearest_lt_signBit _ _) _

theorem negative_ofRatio (negative : Bool) (num den : Nat) :
    (ofRatio negative num den).negative = negative :=
  negative_ofMagnitude (nearest_lt_signBit _ _) _

/-- A quotient of equal numbers is 1, without rounding. -/
theorem nearest_self (h : 0 < n) : nearest n n = 1023 * hiddenBit := by
  have hquotient : n * one / n = one := Nat.mul_div_cancel_left _ h
  have hlog (k : Nat) : (1 <<< k).log2 = k := by
    rw [Nat.one_shiftLeft, Nat.log2_two_pow]
  have hexponent : one.log2 - 52 = 1022 := by rw [one, hlog]
  have hnum : n * one = hiddenBit * n <<< 1022 := by
    rw [one_eq, Nat.shiftLeft_eq, Nat.shiftLeft_eq, Nat.mul_left_comm]
  have hden (k : Nat) : 0 < n <<< k := by
    rw [Nat.shiftLeft_eq]
    exact Nat.mul_pos h (Nat.two_pow_pos k)
  have hsignificand : roundDiv .even (n * one) (n <<< 1022) = hiddenBit := by
    rw [roundDiv, hnum, Nat.mul_div_cancel _ (hden _), Nat.mul_mod_left, Nat.mul_zero,
      if_pos (hden _)]
  rw [nearest, hquotient, hexponent, hsignificand]
  decide

theorem magnitude_ofNat_one : (ofNat 1).magnitude = 1023 * hiddenBit := by
  rw [ofNat, magnitude_ofRatio, nearest_self Nat.one_pos]

theorem units_mono {x y : Binary64} (h : x.magnitude ≤ y.magnitude) : x.units ≤ y.units := by
  rw [units_eq, units_eq]
  exact unitsAt_strictMono.monotone h

theorem magnitude_ofNat_mono (h : m ≤ n) : (ofNat m).magnitude ≤ (ofNat n).magnitude := by
  rw [ofNat, ofNat, magnitude_ofRatio, magnitude_ofRatio]
  exact nearest_mono 1 h

theorem magnitude_ofNat_pos (h : 0 < n) : 0 < (ofNat n).magnitude := by
  have hone : 0 < (ofNat 1).magnitude := by
    rw [magnitude_ofNat_one]
    decide
  exact Nat.lt_of_lt_of_le hone (magnitude_ofNat_mono h)

/-- The share of a part in a whole lies between 0 and 1. -/
theorem div_ofNat_le (h : m ≤ n) (hpos : 0 < n) (hlt : n < 0x10000000000000000) :
    le zero ((ofNat m).div (ofNat n)) = true ∧ le ((ofNat m).div (ofNat n)) (ofNat 1) = true := by
  have hm := (within_ofNat_word (Nat.lt_of_le_of_lt h hlt)).magnitude_lt (by decide)
  have hn := (within_ofNat_word hlt).magnitude_lt (by decide)
  have hne : (ofNat n).magnitude ≠ 0 := Nat.ne_of_gt (magnitude_ofNat_pos hpos)
  have hsign (k : Nat) : (ofNat k).negative = false := negative_ofRatio false k 1
  have hdiv : (ofNat m).div (ofNat n) = ofRatio false (ofNat m).units (ofNat n).units := by
    rw [div, not_isNaN hm, not_isNaN hn, not_isInfinite hm, not_isInfinite hn, if_neg hne, hsign,
      hsign]
    rfl
  have hunits : 0 < (ofNat n).units :=
    Nat.pos_of_ne_zero fun hz => hne (units_eq_zero_iff.1 hz)
  have hquotient : (ofRatio false (ofNat m).units (ofNat n).units).magnitude ≤ 1023 * hiddenBit := by
    rw [magnitude_ofRatio, ← nearest_self hunits]
    exact nearest_mono _ (units_mono (magnitude_ofNat_mono h))
  have hinfinite : 1023 * hiddenBit < infinite := by decide
  have hfinite := Nat.lt_of_le_of_lt hquotient hinfinite
  have hone := not_isNaN (magnitude_ofNat_one.trans_lt hinfinite)
  rw [hdiv, le_iff, le_iff, not_isNaN hfinite, value_zero, value, value, negative_ofRatio, hsign,
    if_neg Bool.false_ne_true, if_neg Bool.false_ne_true]
  refine ⟨⟨by decide, rfl, Int.natCast_nonneg _⟩, rfl, hone, ?_⟩
  exact Int.ofNat_le.2 (units_mono (hquotient.trans_eq magnitude_ofNat_one.symm))

end HostProbe.Binary64
