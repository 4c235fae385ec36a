import HostProbe.Proofs.Binary64

namespace HostProbe

namespace Binary64

def unitsAt (m : Nat) : Nat := (m - (m / hiddenBit - 1) * hiddenBit) * 2 ^ (m / hiddenBit - 1)

theorem units_eq (x : Binary64) : x.units = unitsAt x.magnitude := Nat.shiftLeft_eq ..

theorem unitsAt_of_lt {m : Nat} (h : m < hiddenBit) : unitsAt m = m := by
  rw [unitsAt, Nat.div_eq_of_lt h]
  simp

theorem unitsAt_of_le {m : Nat} (h : hiddenBit ≤ m) :
    unitsAt m = (hiddenBit + m % hiddenBit) * 2 ^ (m / hiddenBit - 1) := by
  have hpos : 0 < m / hiddenBit := Nat.div_pos h (by decide)
  obtain ⟨q, hq⟩ : ∃ q, m / hiddenBit = q + 1 := ⟨m / hiddenBit - 1, by omega⟩
  have hm : (q + 1) * hiddenBit + m % hiddenBit = m := by
    rw [← hq, Nat.mul_comm]
    exact Nat.div_add_mod m hiddenBit
  have hsub : m - q * hiddenBit = hiddenBit + m % hiddenBit := by
    rw [Nat.succ_mul] at hm
    omega
  rw [unitsAt, hq, Nat.add_sub_cancel, hsub]

theorem unitsAt_strictMono : StrictMono unitsAt := by
  refine strictMono_nat_of_lt_succ fun m => ?_
  have hpos : 0 < hiddenBit := by decide
  rcases Nat.lt_or_ge (m + 1) hiddenBit with hlt | hge
  · rw [unitsAt_of_lt hlt, unitsAt_of_lt (Nat.lt_of_succ_lt hlt)]
    exact Nat.lt_succ_self m
  rcases Nat.lt_or_ge m hiddenBit with hm | hm
  · -- The least normal number.
    have he : m + 1 = hiddenBit := Nat.le_antisymm hm hge
    rw [unitsAt_of_lt hm, he, unitsAt_of_le (Nat.le_refl _), Nat.mod_self, Nat.div_self hpos]
    omega
  · rw [unitsAt_of_le hm, unitsAt_of_le hge]
    have hdiv := Nat.succ_div (a := m) (b := hiddenBit)
    have hq : 0 < m / hiddenBit := Nat.div_pos hm hpos
    by_cases hd : hiddenBit ∣ m + 1
    · -- The exponent grows and the significand starts anew.
      rw [if_pos hd] at hdiv
      obtain ⟨q, hq⟩ : ∃ q, m / hiddenBit = q + 1 := ⟨m / hiddenBit - 1, by omega⟩
      have hmod : m % hiddenBit < hiddenBit := Nat.mod_lt m hpos
      rw [Nat.mod_eq_zero_of_dvd hd, hdiv, hq, Nat.add_sub_cancel, Nat.add_sub_cancel, Nat.add_zero,
        Nat.pow_succ, Nat.mul_comm (2 ^ q) 2, ← Nat.mul_assoc]
      exact Nat.mul_lt_mul_of_pos_right (by omega) (Nat.two_pow_pos q)
    · simp only [hd, if_false, Nat.add_zero] at hdiv
      have hmod : (m + 1) % hiddenBit = m % hiddenBit + 1 := by
        have h₁ := Nat.div_add_mod m hiddenBit
        have h₂ := Nat.div_add_mod (m + 1) hiddenBit
        rw [hdiv] at h₂
        omega
      rw [hmod, hdiv]
      exact Nat.mul_lt_mul_of_pos_right (by omega) (Nat.two_pow_pos _)

variable {x y : Binary64}

theorem units_lt_iff : x.units < y.units ↔ x.magnitude < y.magnitude := by
  rw [units_eq, units_eq, unitsAt_strictMono.lt_iff_lt]

theorem units_eq_zero_iff : x.units = 0 ↔ x.magnitude = 0 := by
  rw [units_eq]
  exact unitsAt_strictMono.injective.eq_iff (b := 0)

theorem rank_lt_iff : x.rank < y.rank ↔ x.value < y.value := by
  have hxy := units_lt_iff (x := x) (y := y)
  have hyx := units_lt_iff (x := y) (y := x)
  have hx := units_eq_zero_iff (x := x)
  have hy := units_eq_zero_iff (x := y)
  rw [rank, rank, value, value]
  cases x.negative <;> cases y.negative <;> simp only [Bool.false_eq_true, if_true, if_false] <;> omega

theorem rank_le_iff : x.rank ≤ y.rank ↔ x.value ≤ y.value := by
  rw [← Int.not_lt, rank_lt_iff, Int.not_lt]

/-- A NaN is neither below nor above any number; all others stand in the order of their values. -/
theorem lt_iff : lt x y = true ↔ x.isNaN = false ∧ y.isNaN = false ∧ x.value < y.value := by
  simp only [lt, Bool.and_eq_true, Bool.not_eq_true', decide_eq_true_eq, rank_lt_iff, and_assoc]

theorem le_iff : le x y = true ↔ x.isNaN = false ∧ y.isNaN = false ∧ x.value ≤ y.value := by
  simp only [le, Bool.and_eq_true, Bool.not_eq_true', decide_eq_true_eq, rank_le_iff, and_assoc]

theorem isFinite_iff : x.isFinite = true ↔ x.magnitude < infinite := decide_eq_true_iff

theorem value_zero : zero.value = 0 := by decide +kernel

theorem negative_of_value_pos (h : 0 < x.value) : x.negative = false := by
  by_contra hn
  rw [value, if_pos (Bool.of_not_eq_false hn)] at h
  omega

theorem value_of_pos (h : 0 < x.value) : x.value = x.units := by
  rw [value, negative_of_value_pos h, if_neg Bool.false_ne_true]

theorem magnitude_of_nonneg (h : x.negative = false) : x.magnitude = x.bits.toNat :=
  Nat.mod_eq_of_lt (Nat.lt_of_not_le (of_decide_eq_false h))

end Binary64

end HostProbe
