import HostProbe.Proofs.Text.Blank
import HostProbe.Proofs.Text.Numeral
import HostProbe.Proofs.Time.Calendar
import HostProbe.Time.Stamp.Text

namespace HostProbe.Time.Stamp

variable {n width : Nat} {rest : List Char}

theorem isBlank_digitChar {d : Nat} (hd : d < 10) : Text.isBlank (Nat.digitChar d) = false := by
  interval_cases d <;> rfl

theorem exists_decimals (width n : Nat) :
    ∃ d ds, decimals width n = (d :: ds).map Nat.digitChar ∧ Text.Pads 10 width n (d :: ds) := by
  obtain ⟨ds, hd, hp⟩ := Text.exists_pads (show 1 < 10 by decide) width n
  cases ds with
  | nil => exact absurd rfl hp.ne_nil
  | cons d ds => exact ⟨d, ds, hd, hp⟩

theorem number_decimals (hw : 0 < width) (hn : n < 10 ^ width) (rest : List Char) :
    number width (decimals width n ++ rest) = some (n, rest) := by
  obtain ⟨d, ds, hd, hp⟩ := exists_decimals width n
  have hdigits := Text.digits_map hp.digit (show 10 ≤ 16 by decide) rest
  have hblank := isBlank_digitChar (hp.digit d List.mem_cons_self)
  rw [hp.length_eq hw hn, List.map_cons, List.cons_append] at hdigits
  rw [hd, List.map_cons, List.cons_append, number, Text.trimLeft_cons hblank, hdigits, ← hp.number]

theorem number_two (hn : n < 100) (rest : List Char) : number 2 (two n ++ rest) = some (n, rest) :=
  number_decimals (show 0 < 2 by decide) hn rest

theorem signedNumber_decimals (negative : Bool) (width n : Nat) (h : Text.Stops 10 rest) :
    signedNumber negative (decimals width n ++ rest) =
      some (if negative then -(n : Int) else n, rest) := by
  obtain ⟨d, ds, hd, hp⟩ := exists_decimals width n
  rw [hd, signedNumber, Text.digitRun_map hp.digit (by decide) h, ← hp.number]

theorem mark_cons {c : Char} (h : Text.isBlank c = false) (rest : List Char) :
    mark c (c :: rest) = some rest := by
  rw [mark, Text.trimLeft_cons h]
  exact if_pos rfl

theorem year_digitChar {d : Nat} (hd : d < 10) (s : List Char) :
    year (Nat.digitChar d :: s) =
      (number 4 (Nat.digitChar d :: s)).map fun (n, rest) => ((n : Int), rest) := by
  interval_cases d <;> rfl

theorem year_yearText (y : Int) (rest : List Char) :
    year (yearText y ++ '-' :: rest) = some (y, '-' :: rest) := by
  have hstops : Text.Stops 10 ('-' :: rest) := Text.stops_cons rfl rest
  unfold yearText
  split
  · next h =>
      have hn : y.natAbs < 10 ^ 4 := by omega
      have hnumber := number_decimals (by decide) hn ('-' :: rest)
      obtain ⟨d, ds, hd, hp⟩ := exists_decimals 4 y.natAbs
      rw [hd, List.map_cons, List.cons_append] at hnumber ⊢
      rw [year_digitChar (hp.digit d List.mem_cons_self), hnumber]
      exact congrArg (fun m => some (m, '-' :: rest)) (Int.natAbs_of_nonneg h.1)
  · split
    · next h =>
        refine Eq.trans (signedNumber_decimals true 4 y.natAbs hstops) ?_
        rw [if_pos rfl, Int.ofNat_natAbs_of_nonpos (Int.le_of_lt h), Int.neg_neg]
    · next h =>
        refine Eq.trans (signedNumber_decimals false 4 y.natAbs hstops) ?_
        rw [if_neg Bool.false_ne_true, Int.natAbs_of_nonneg (Int.not_lt.1 h)]

theorem le_of_inCalendar {date : Date} (h : date.inCalendar = true) :
    date.month ≤ 12 ∧ date.day ≤ 31 := by
  obtain ⟨-, hmonth, -, hday⟩ := of_decide_eq_true h
  have hlengths : ∀ n ∈ monthLengths date.year, n ≤ 31 := by
    unfold monthLengths
    cases isLeap date.year <;> decide
  refine ⟨hmonth, Nat.le_trans hday ?_⟩
  rw [List.getD_eq_getElem?_getD]
  cases he : (monthLengths date.year)[date.month - 1]? with
  | none => exact Nat.zero_le 31
  | some n => exact hlengths n (List.mem_of_getElem? he)

theorem date?_written {date : Date} (hc : date.inCalendar = true)
    (hy : firstYear ≤ date.year ∧ date.year ≤ lastYear) (rest : List Char) :
    date? (yearText date.year ++ '-' :: (two date.month ++ '-' :: (two date.day ++ rest))) =
      some (date, rest) := by
  obtain ⟨hmonth, hday⟩ := le_of_inCalendar hc
  have hm := number_two (show date.month < 100 by omega) ('-' :: (two date.day ++ rest))
  have hd := number_two (show date.day < 100 by omega) rest
  have hmark (s : List Char) : mark '-' ('-' :: s) = some s := mark_cons rfl s
  simp only [date?, year_yearText, hmark, hm, hd, Option.bind_eq_bind, Option.bind_some]
  exact if_pos ⟨hc, hy⟩

theorem nanos?_decimals (hw : 0 < width) (hw' : width ≤ 9) (hn : n < 10 ^ width)
    (h : Text.Stops 10 rest) :
    nanos? ('.' :: (decimals width n ++ rest)) = some (n * Nat.pow 10 (9 - width), rest) := by
  obtain ⟨d, ds, hd, hp⟩ := exists_decimals width n
  have hl := hp.length_eq hw hn
  have hdigits := Text.digits_map_of_stops hp.digit (by decide) (hl ▸ hw') h
  rw [hd, nanos?, hdigits, ← hp.number, ← hl]
  dsimp only
  rw [Text.digitRun_of_stops h]

theorem nanos?_fractionText (hn : n < second) (rest : List Char) :
    nanos? (fractionText n ++ 'Z' :: rest) = some (n, 'Z' :: rest) := by
  have hstops : Text.Stops 10 ('Z' :: rest) := Text.stops_cons rfl rest
  have hsome {m : Nat} (h : m = n) : some (m, 'Z' :: rest) = some (n, 'Z' :: rest) := by rw [h]
  unfold second at hn
  unfold fractionText
  split
  · next h => exact hsome h.symm
  split
  · have hs := nanos?_decimals (by decide) (by decide) (show n / 1000000 < 10 ^ 3 by omega) hstops
    exact hs.trans (hsome (show n / 1000000 * 1000000 = n by omega))
  split
  · have hs := nanos?_decimals (by decide) (by decide) (show n / 1000 < 10 ^ 6 by omega) hstops
    exact hs.trans (hsome (show n / 1000 * 1000 = n by omega))
  · have hs := nanos?_decimals (by decide) (by decide) (show n < 10 ^ 9 by omega) hstops
    exact hs.trans (hsome (Nat.mul_one n))

/-- A sixtieth second is read as the leap second after the fifty-ninth. -/
theorem time?_written {h m s : Nat} (hh : h ≤ 23) (hm : m ≤ 59) (hs : s ≤ 60) (hn : n < second)
    (rest : List Char) :
    time? (two h ++ ':' :: (two m ++ ':' :: (two s ++ (fractionText n ++ 'Z' :: rest)))) =
      if s = 60 then some (h * 3600 + m * 60 + 59, second + n, 'Z' :: rest)
      else some (h * 3600 + m * 60 + s, n, 'Z' :: rest) := by
  have hmark (s : List Char) : mark ':' (':' :: s) = some s := mark_cons rfl s
  have hhour := number_two (show h < 100 by omega)
  have hminute := number_two (show m < 100 by omega)
  have hsecond := number_two (show s < 100 by omega)
  simp only [time?, hhour, hminute, hsecond, hmark, nanos?_fractionText hn, Option.bind_eq_bind,
    Option.bind_some]
  exact if_pos ⟨hh, hm, hs⟩

/-- The text has a place for the second that runs on at the end of a minute only, its sixtieth. -/
def Spellable (t : Stamp) : Prop := t.nanos < second ∨ t.seconds % 60 = 59

instance (t : Stamp) : Decidable t.Spellable := inferInstanceAs (Decidable (_ ∨ _))

theorem of?_parts {t : Stamp} (h : t.Spellable) : of? t.seconds t.nanos = some t :=
  dif_pos ⟨t.valid, h⟩

/-- The year of a stamp is one of the calendar's. -/
theorem year_date (t : Stamp) : firstYear ≤ t.date.year ∧ t.date.year ≤ lastYear := by
  obtain ⟨hlow, hhigh, _⟩ := t.valid
  rw [date, Date.year_ofDay]
  refine yearOf_mem ?_ ?_
  · omega
  · omega

def clock (t : Stamp) : List Char :=
  two (t.ofDay / 3600) ++ ':' :: (two (t.ofDay / 60 % 60) ++ ':' ::
    (two (t.ofDay % 60 + if second ≤ t.nanos then 1 else 0) ++
      (fractionText (t.nanos % second) ++ ['Z'])))

theorem ofDay_mod (t : Stamp) : t.ofDay < 86400 ∧ t.ofDay % 60 = t.seconds % 60 := by
  unfold ofDay
  omega

theorem time?_clock {t : Stamp} (h : t.Spellable) :
    time? t.clock = some (t.ofDay, t.nanos, ['Z']) := by
  obtain ⟨_, _, hnanos⟩ := t.valid
  obtain ⟨hday, hminute⟩ := t.ofDay_mod
  unfold Spellable at h
  unfold second at h hnanos
  have hfraction : t.nanos % second < second := Nat.mod_lt _ (by decide)
  have htime (leap : Nat) (hl : leap ≤ 1) := time?_written (show t.ofDay / 3600 ≤ 23 by omega)
    (show t.ofDay / 60 % 60 ≤ 59 by omega) (show t.ofDay % 60 + leap ≤ 60 by omega) hfraction []
  rw [clock]
  split
  · next hleap =>
      -- A leap second comes after the fifty-ninth and is written as the sixtieth.
      unfold second at hleap
      have hlast : t.ofDay % 60 + 1 = 60 := by omega
      rw [htime 1 (Nat.le_refl 1), if_pos hlast]
      unfold second
      congr 2
      · omega
      · congr 1
        omega
  · next hleap =>
      have hnot : t.ofDay % 60 + 0 ≠ 60 := by omega
      rw [htime 0 (Nat.zero_le 1), if_neg hnot, Nat.mod_eq_of_lt (Nat.not_le.1 hleap)]
      congr 2
      omega

theorem written_eq (t : Stamp) : t.written = yearText t.date.year ++ '-' ::
    (two t.date.month ++ '-' :: (two t.date.day ++ 'T' :: t.clock)) := rfl

/-- The day and the time of the day make up the moment. -/
theorem seconds_eq (t : Stamp) : (t.date.toDay - epoch) * 86400 + t.ofDay = t.seconds := by
  rw [date, Date.toDay_ofDay]
  unfold ofDay
  omega

theorem ofText?_written_of_spellable {t : Stamp} (h : t.Spellable) : ofText? t.written = some t := by
  have hc : t.date.inCalendar = true := Date.inCalendar_ofDay _
  have hdate := date?_written hc t.year_date ('T' :: t.clock)
  have hmark : timeMark ('T' :: t.clock) = some t.clock := rfl
  have hoffset : offset? ['Z'] = some (0, []) := rfl
  rw [written_eq, ofText?]
  simp only [hdate, hmark, time?_clock h, hoffset, Option.bind_eq_bind, Option.bind_some,
    t.seconds_eq, Int.sub_zero, of?_parts h]
  rfl

/-- What of the second runs on where the text has no place for it goes to the next second. -/
def carried (t : Stamp) : Stamp :=
  if h : t.Spellable then t
  else ⟨t.seconds + 1, t.nanos - second, by
    obtain ⟨hlow, hhigh, hnanos⟩ := t.valid
    unfold Spellable at h
    omega⟩

theorem carried_of_spellable {t : Stamp} (h : t.Spellable) : t.carried = t := dif_pos h

theorem spellable_carried (t : Stamp) : t.carried.Spellable := by
  unfold carried
  split
  · assumption
  · have hnanos := t.valid.2.2
    exact .inl (show t.nanos - second < second by omega)

theorem carried_eq_iff {t : Stamp} : t.carried = t ↔ t.Spellable :=
  ⟨fun h => h ▸ t.spellable_carried, carried_of_spellable⟩

theorem date_carried (t : Stamp) : t.carried.date = t.date := by
  unfold carried
  split
  · rfl
  · next h =>
      unfold Spellable at h
      have hday : (t.seconds + 1) / 86400 = t.seconds / 86400 := by omega
      simp only [date, hday]

/-- The carried second is in the same minute, where it is written as the one that runs on. -/
theorem clock_carried (t : Stamp) : t.carried.clock = t.clock := by
  unfold carried
  split
  · rfl
  · next h =>
      obtain ⟨_, _, hnanos⟩ := t.valid
      unfold Spellable second at h
      unfold second at hnanos
      have hofDay (hv) : ofDay ⟨t.seconds + 1, t.nanos - second, hv⟩ = t.ofDay + 1 := by
        show ((t.seconds + 1) % 86400).toNat = (t.seconds % 86400).toNat + 1
        omega
      have hminute := t.ofDay_mod.2
      have hhour : (t.ofDay + 1) / 3600 = t.ofDay / 3600 := by omega
      have hminutes : (t.ofDay + 1) / 60 = t.ofDay / 60 := by omega
      have hseconds : (t.ofDay + 1) % 60 = t.ofDay % 60 + 1 := by omega
      have hfraction : (t.nanos - second) % second = t.nanos % second := by
        unfold second
        omega
      have hunder : ¬ second ≤ t.nanos - second := by
        unfold second
        omega
      have hover : second ≤ t.nanos := by
        unfold second
        omega
      simp only [clock, hofDay, hhour, hminutes, hseconds, hfraction, if_pos hover, if_neg hunder,
        Nat.add_zero]

theorem written_carried (t : Stamp) : t.carried.written = t.written := by
  rw [written_eq, t.date_carried, t.clock_carried, ← written_eq]

theorem ofText?_written (t : Stamp) : ofText? t.written = some t.carried := by
  rw [← t.written_carried]
  exact ofText?_written_of_spellable t.spellable_carried

end HostProbe.Time.Stamp
