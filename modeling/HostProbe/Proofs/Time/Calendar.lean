import HostProbe.Time.Calendar

namespace HostProbe.Time

def yearLength (year : Int) : Nat := (monthLengths year).foldr (· + ·) 0

theorem yearLength_eq (year : Int) : yearLength year = if isLeap year then 366 else 365 := by
  unfold yearLength monthLengths
  cases isLeap year <;> rfl

theorem yearStart_succ (year : Int) : yearStart (year + 1) = yearStart year + yearLength year := by
  rw [yearLength_eq]
  unfold yearStart
  by_cases h : year % 4 = 0 ∧ (year % 100 ≠ 0 ∨ year % 400 = 0)
  · rw [isLeap, decide_eq_true h, if_pos rfl]
    omega
  · rw [isLeap, decide_eq_false h, if_neg Bool.false_ne_true]
    omega

theorem yearStart_mono {a b : Int} (h : a ≤ b) : yearStart a ≤ yearStart b := by
  unfold yearStart
  omega

theorem lt_of_yearStart_lt {a b : Int} (h : yearStart a < yearStart b) : a < b :=
  Int.not_le.1 fun hle => Int.not_le.2 h (yearStart_mono hle)

/-- The mean length of a year leads to the year of a day or the one before or after it. -/
theorem yearOf_spec (day : Int) :
    yearStart (yearOf day) ≤ day ∧ day < yearStart (yearOf day + 1) := by
  have hlow : yearStart (day * 400 / 146097 - 1) ≤ day := by
    unfold yearStart
    omega
  have hhigh : day < yearStart (day * 400 / 146097 + 1 + 1) := by
    unfold yearStart
    omega
  unfold yearOf
  dsimp only
  split
  · next h =>
      rw [Int.sub_add_cancel]
      exact ⟨hlow, h⟩
  · split
    · next h => exact ⟨h, hhigh⟩
    · next h h' => exact ⟨Int.not_lt.1 h, Int.not_le.1 h'⟩

theorem monthOf_spec (month : Nat) (ns : List Nat) (rest : Nat) (h : rest < ns.foldr (· + ·) 0) :
    ∃ i before, i < ns.length ∧ before = (ns.take i).foldr (· + ·) 0 ∧ before ≤ rest ∧
      rest < before + ns.getD i 0 ∧ monthOf month ns rest = (month + i, rest - before + 1) := by
  induction ns generalizing month rest with
  | nil => exact absurd h (Nat.not_lt_zero rest)
  | cons n ns ih =>
      rw [monthOf]
      split
      · next hn =>
          refine ⟨0, 0, Nat.succ_pos _, rfl, Nat.zero_le rest, ?_, rfl⟩
          rwa [List.getD_cons_zero, Nat.zero_add]
      · next hn =>
          rw [List.foldr_cons] at h
          obtain ⟨i, before, hi, hb, hle, hlt, he⟩ := ih (month + 1) (rest - n) (by omega)
          refine ⟨i + 1, n + before, Nat.succ_lt_succ hi, ?_, by omega, ?_, ?_⟩
          · rw [List.take_succ_cons, List.foldr_cons, hb]
          · rw [List.getD_cons_succ]
            omega
          · rw [he, Nat.add_right_comm, Nat.sub_add_eq]
            rfl

/-- The date of a day: its year and the month in it, each with the days before it. -/
theorem ofDay_spec (day : Int) : ∃ month before d, Date.ofDay day = ⟨yearOf day, month, d + 1⟩ ∧
    1 ≤ month ∧ month ≤ 12 ∧ before = daysBefore (yearOf day) month ∧
    d < (monthLengths (yearOf day)).getD (month - 1) 0 ∧
    day = yearStart (yearOf day) + before + d := by
  obtain ⟨hlow, hhigh⟩ := yearOf_spec day
  rw [yearStart_succ] at hhigh
  have hrest : (day - yearStart (yearOf day)).toNat < yearLength (yearOf day) := by omega
  obtain ⟨i, before, hi, hb, hle, hlt, he⟩ := monthOf_spec 1 (monthLengths (yearOf day)) _ hrest
  have hi : i < 12 := hi
  refine ⟨1 + i, before, (day - yearStart (yearOf day)).toNat - before, ?_, by omega, by omega, ?_, ?_,
    ?_⟩
  · rw [Date.ofDay, he]
  · rw [hb, daysBefore, Nat.add_sub_cancel_left]
  · rw [Nat.add_sub_cancel_left]
    omega
  · omega

theorem Date.toDay_ofDay (day : Int) : (Date.ofDay day).toDay = day := by
  obtain ⟨month, before, d, he, _, _, hb, _, hday⟩ := ofDay_spec day
  rw [he, toDay, Nat.add_sub_cancel, ← hb]
  exact hday.symm

theorem Date.inCalendar_ofDay (day : Int) : (Date.ofDay day).inCalendar = true := by
  obtain ⟨month, before, d, he, h1, h12, _, hd, _⟩ := ofDay_spec day
  rw [he, inCalendar]
  exact decide_eq_true ⟨h1, h12, Nat.succ_pos d, hd⟩

theorem Date.year_ofDay (day : Int) : (Date.ofDay day).year = yearOf day := by
  obtain ⟨month, before, d, he, _⟩ := ofDay_spec day
  rw [he]

/-- Between the starts of two years come the days of the years between them. -/
theorem yearOf_mem {first last day : Int} (hl : yearStart first ≤ day)
    (hh : day < yearStart (last + 1)) : first ≤ yearOf day ∧ yearOf day ≤ last := by
  obtain ⟨hlow, hhigh⟩ := yearOf_spec day
  have hfirst := lt_of_yearStart_lt (Int.lt_of_le_of_lt hl hhigh)
  have hlast := lt_of_yearStart_lt (Int.lt_of_le_of_lt hlow hh)
  omega

end HostProbe.Time
