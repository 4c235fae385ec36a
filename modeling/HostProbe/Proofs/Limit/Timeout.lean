import HostProbe.Proofs.Binary64.Ratio
import HostProbe.Proofs.Settings.File

namespace HostProbe

structure NearestEven (num den n : Int) : Prop where
  nearest (k : Int) : (num - n * den).natAbs ≤ (num - k * den).natAbs
  even (k : Int) (hk : k ≠ n) (h : (num - k * den).natAbs = (num - n * den).natAbs) : n % 2 = 0

section Nearest

variable {num den n n' k : Int}

theorem mul_natAbs_le (num den n k : Int) :
    (n - k).natAbs * den.natAbs ≤ (num - k * den).natAbs + (num - n * den).natAbs := by
  have h := Int.natAbs_sub_le (num - k * den) (num - n * den)
  rwa [show num - k * den - (num - n * den) = (n - k) * den by ring, Int.natAbs_mul] at h

/-- No two whole numbers are both nearer than half of the distance between neighbours. -/
theorem NearestEven.of_half (h : 2 * (num - n * den).natAbs ≤ den.natAbs)
    (he : 2 * (num - n * den).natAbs = den.natAbs → n % 2 = 0) : NearestEven num den n := by
  have hother {k : Int} (hk : k ≠ n) :
      den.natAbs ≤ (num - k * den).natAbs + (num - n * den).natAbs := by
    have hpos : 0 < (n - k).natAbs := Int.natAbs_pos.2 (sub_ne_zero.2 hk.symm)
    exact (Nat.le_mul_of_pos_left _ hpos).trans (mul_natAbs_le num den n k)
  constructor
  · intro k
    by_cases hk : k = n
    · rw [hk]
    · have := hother hk
      omega
  · intro k hk heq
    have := hother hk
    exact he (by omega)

theorem NearestEven.unique (hd : den ≠ 0) (h : NearestEven num den n)
    (h' : NearestEven num den n') : n = n' := by
  by_contra hne
  have heq := Nat.le_antisymm (h.nearest n') (h'.nearest n)
  have hn := h.even n' (Ne.symm hne) heq.symm
  have hn' := h'.even n hne heq
  -- Two even numbers as near as each other have an odd one between them that is nearer.
  have htwo : 2 ≤ (n - n').natAbs := by omega
  have hfar := (Nat.mul_le_mul_right den.natAbs htwo).trans (mul_natAbs_le num den n n')
  have hnear := h.nearest (num / den)
  have hmod : num - num / den * den = num % den := by
    rw [Int.emod_def, Int.mul_comm]
  rw [hmod] at hnear
  have hlt := Int.emod_lt num hd
  have hnonneg := Int.emod_nonneg num hd
  omega

theorem nearestEven_roundDiv (num : Nat) {den : Nat} (h : 0 < den) :
    NearestEven num den (roundDiv .even num den) := by
  have hlow : (num : Int) - (num / den : Nat) * (den : Int) = (num % den : Nat) := by
    have hdm := Nat.div_add_mod num den
    rw [Nat.mul_comm] at hdm
    rw [← Nat.cast_mul]
    omega
  have hhigh : (num : Int) - (num / den + 1 : Nat) * (den : Int) = (num % den : Nat) - den := by
    rw [← hlow, Nat.cast_succ]
    ring
  have hmod := Nat.mod_lt num h
  unfold roundDiv
  dsimp only
  split
  · exact .of_half (by rw [hlow]; omega) (by rw [hlow]; omega)
  split
  · exact .of_half (by rw [hhigh]; omega) (by rw [hhigh]; omega)
  · -- Both neighbours are half of the distance away.
    split
    · next he => exact .of_half (by rw [hlow]; omega) fun _ => by omega
    · next he => exact .of_half (by rw [hhigh]; omega) fun _ => by omega

theorem roundDiv_mul_self (n : Nat) {den : Nat} (h : 0 < den) :
    roundDiv .even (n * den) den = n := by
  rw [roundDiv, Nat.mul_div_cancel _ h, Nat.mul_mod_left, Nat.mul_zero, if_pos h]

end Nearest

namespace Timeout

open Binary64

variable {x y : Binary64} {t u : Timeout}

theorem of_eq_error_iff {why : Refusal} : of x = .error why ↔ ¬ InRange x ∧ why = .timeout x := by
  rw [InRange, ← admits_iff, of]
  split
  · next h => simp [h]
  · next h => simp [h, eq_comm]

theorem exists_of_iff : (∃ t, of x = .ok t) ↔ InRange x :=
  refusal?_eq_none_iff.symm.trans refusal?_eq_none_iff_inRange

theorem InRange.number (h : InRange x) :
    x.isNaN = false ∧ x.isInfinite = false ∧ x.magnitude ≠ 0 ∧ x.negative = false := by
  obtain ⟨hx, hpos, _⟩ := h
  have hm := isFinite_iff.1 hx
  refine ⟨not_isNaN hm, not_isInfinite hm, ?_, negative_of_value_pos hpos⟩
  rw [value_of_pos hpos, Int.natCast_pos, Nat.pos_iff_ne_zero] at hpos
  exact fun hz => hpos (units_eq_zero_iff.2 hz)

/-- The bit patterns from the least number above zero to that of 300. -/
theorem inRange_iff_bits : InRange x ↔ 0 < x.bits.toNat ∧ x.bits.toNat ≤ 0x4072c00000000000 := by
  have hmost : (⟨0x4072c00000000000⟩ : Binary64).value = 300 * one := by decide +kernel
  have hrank : (⟨0x4072c00000000000⟩ : Binary64).rank = 0x4072c00000000000 := by decide
  rw [InRange, ← hmost, ← rank_le_iff, hrank, isFinite_iff, rank]
  constructor
  · rintro ⟨_, hpos, hle⟩
    have hneg := negative_of_value_pos hpos
    rw [hneg, magnitude_of_nonneg hneg, if_neg Bool.false_ne_true] at hle
    rw [value_of_pos hpos, Int.natCast_pos, Nat.pos_iff_ne_zero, ne_eq, units_eq_zero_iff,
      magnitude_of_nonneg hneg] at hpos
    omega
  · rintro ⟨hpos, hle⟩
    have hsign : 0x4072c00000000000 < signBit := by decide
    have hinfinite : 0x4072c00000000000 < infinite := by decide
    have hneg : x.negative = false := decide_eq_false (by omega)
    have hm := magnitude_of_nonneg hneg
    have hunits : 0 < x.units := Nat.pos_of_ne_zero fun h => by
      rw [units_eq_zero_iff, hm] at h
      omega
    rw [hneg, hm, value, hneg, if_neg Bool.false_ne_true, if_neg Bool.false_ne_true]
    omega

theorem inRange_seconds (t : Timeout) : InRange t.seconds := admits_iff.1 t.admitted

theorem value_seconds (t : Timeout) : t.seconds.value = t.seconds.units :=
  value_of_pos t.inRange_seconds.2.1

theorem nanos_mono (h : t.seconds.value ≤ u.seconds.value) : t.nanos ≤ u.nanos := by
  rw [value_seconds, value_seconds, Int.ofNat_le] at h
  exact roundDiv_mono .even (Nat.mul_le_mul_right _ h)

theorem nanos_le (t : Timeout) : t.nanos ≤ 300 * Time.second := by
  have hle : t.seconds.units ≤ 300 * one := by
    have h := t.inRange_seconds.2.2
    rw [value_seconds] at h
    exact_mod_cast h
  calc t.nanos
    _ ≤ roundDiv .even (300 * Time.second * one) one := by
      refine roundDiv_mono .even ?_
      rw [Nat.mul_right_comm]
      exact Nat.mul_le_mul_right _ hle
    _ = 300 * Time.second := roundDiv_mul_self _ Binary64.one_pos

/-- The conversion of a timeout does not fail. -/
theorem exists_span_eq (t : Timeout) : ∃ s, t.span = .ok s ∧ s.nanos = t.nanos := by
  obtain ⟨hx, hpos, _⟩ := t.inRange_seconds
  have hneg : lt t.seconds zero = false := by
    rw [← Bool.not_eq_true, lt_iff, value_zero]
    omega
  have hlt : t.nanos < Time.spanLimit := Nat.lt_of_le_of_lt t.nanos_le (by decide)
  refine ⟨⟨t.nanos, hlt⟩, ?_, rfl⟩
  rw [span, Time.Span.ofSeconds, hneg, if_neg Bool.false_ne_true, if_pos hx]
  exact dif_pos hlt

theorem nearestEven_nanos (t : Timeout) :
    NearestEven (t.seconds.value * Time.second) one t.nanos := by
  rw [value_seconds, ← Int.natCast_mul]
  exact nearestEven_roundDiv _ Binary64.one_pos

inductive Obtained : Binary64 → Timeout → Prop where
  | ofNumber {x : Binary64} {t : Timeout} (h : of x = .ok t) : Obtained x t
  | decoded {text : String} {d : Datum} {x : Binary64} {t : Timeout} (hd : Datum.IsJson text d)
      (hx : d.Number x) (h : readJson read text = .ok t) : Obtained x t
  | ofPing {s : Settings} {t : Timeout} (h : s.pingTimeout = .ok t) : Obtained s.ping.timeout t
  | ofScan {s : Settings} {t : Timeout} (h : s.scanTimeout = .ok t) : Obtained s.scan.timeout t

theorem Obtained.seconds_eq (h : Obtained x t) : t.seconds = x := by
  have hof {x : Binary64} {t : Timeout} (h : of x = .ok t) : t.seconds = x :=
    (of_eq_ok_iff.1 h).2.2.2
  cases h with
  | ofNumber h => exact hof h
  | decoded hd hx h =>
      obtain ⟨d', x', hd', hx', hof'⟩ := (decodes.ok_iff _ _).1 h
      cases hd.1.symm.trans hd'.1
      cases (Datum.readReal_eq_ok_iff.2 hx).symm.trans (Datum.readReal_eq_ok_iff.2 hx')
      exact hof hof'
  | ofPing h => exact hof h
  | ofScan h => exact hof h

/-- A number is taken for a timeout just if it is above 0 and at most 300, and so has one of the bit
patterns from 1 on to that of 300. However a timeout was had, it is as many seconds as it was asked
for by; it converts to a span, which is the one whole number of nanoseconds nearest to them with
ties to even, at most 300 s and no less for more seconds. -/
theorem span_exact :
    (∀ x, (∃ t, of x = .ok t) ↔ InRange x) ∧
    (∀ x, InRange x ↔ 0 < x.bits.toNat ∧ x.bits.toNat ≤ 0x4072c00000000000) ∧
    (∀ x, ¬ InRange x → of x = .error (.timeout x)) ∧
    (∀ x, x.isNaN = true ∨ x.isInfinite = true ∨ x.magnitude = 0 ∨ x.negative = true →
      of x = .error (.timeout x)) ∧
    (∀ x t, Obtained x t → InRange x ∧ t.seconds = x ∧ ∃ s, t.span = .ok s ∧ s.nanos = t.nanos ∧
      (∀ n : Int, NearestEven (x.value * Time.second) one n ↔ n = s.nanos) ∧
      s.nanos ≤ 300 * Time.second) ∧
    ∀ x t y u, Obtained x t → Obtained y u → x.value ≤ y.value → t.nanos ≤ u.nanos := by
  have herror {x : Binary64} (h : ¬ InRange x) : of x = .error (.timeout x) :=
    of_eq_error_iff.2 ⟨h, rfl⟩
  refine ⟨fun _ => exists_of_iff, fun _ => inRange_iff_bits, fun _ => herror, ?_, ?_, ?_⟩
  · intro x h
    refine herror fun hr => ?_
    obtain ⟨hnan, hinfinite, hzero, hneg⟩ := hr.number
    simp [hnan, hinfinite, hzero, hneg] at h
  · intro x t h
    cases h.seconds_eq
    obtain ⟨s, hs, hn⟩ := t.exists_span_eq
    refine ⟨t.inRange_seconds, rfl, s, hs, hn, ?_, hn ▸ t.nanos_le⟩
    have hone : (one : Int) ≠ 0 := Int.natCast_ne_zero.2 Binary64.one_pos.ne'
    intro n
    rw [hn]
    constructor
    · exact fun h => h.unique hone t.nearestEven_nanos
    · rintro rfl
      exact t.nearestEven_nanos
  · intro x t y u h h' hle
    cases h.seconds_eq
    cases h'.seconds_eq
    exact nanos_mono hle

/-- The 1024th part of a second lies in the middle between two nanoseconds. -/
theorem span_exact_middle : ∃ t s, of ⟨0x3f50000000000000⟩ = .ok t ∧ t.span = .ok s ∧
    s.nanos = 976562 := by
  obtain ⟨hok, hbits, _, _, hobtained, _⟩ := span_exact
  obtain ⟨t, ht⟩ := (hok ⟨0x3f50000000000000⟩).2 ((hbits _).2 (by decide))
  obtain ⟨_, _, s, hs, _, hnearest, _⟩ := hobtained _ t (.ofNumber ht)
  have hmiddle := (hnearest 976562).1 (.of_half (by decide +kernel) fun _ => by decide)
  exact ⟨t, s, ht, hs, (Int.ofNat_inj.1 hmiddle).symm⟩

end Timeout

end HostProbe
