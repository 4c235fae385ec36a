import HostProbe.Address.Text
import Mathlib.Data.List.Forall2
import Mathlib.Data.List.Induction
import Mathlib.Tactic.IntervalCases

namespace HostProbe.Text

variable {radix n : Nat} {ds : List Nat} {rest : List Char}

def Stops (radix : Nat) (s : List Char) : Prop := ∀ c ∈ s.head?, digit? radix c = none

theorem stops_nil (radix : Nat) : Stops radix [] := nofun

theorem stops_cons {c : Char} (h : digit? radix c = none) (s : List Char) : Stops radix (c :: s) := by
  intro d hd
  cases hd
  exact h

theorem digit?_digitChar {d : Nat} (hd : d < radix) (hr : radix ≤ 16) :
    digit? radix (Nat.digitChar d) = some d := by
  have h : d < 16 := Nat.lt_of_lt_of_le hd hr
  interval_cases d <;> exact if_pos hd

inductive Digit (radix : Nat) : Char → Nat → Prop where
  | lower {d : Nat} (h : d < radix) : Digit radix (Nat.digitChar d) d
  | upper {d : Nat} (h : d < radix) : Digit radix (Nat.digitChar d).toUpper d

theorem digit?_eq_some_iff {c : Char} {d : Nat} (hr : radix ≤ 16) :
    digit? radix c = some d ↔ Digit radix c d := by
  constructor
  · intro h
    rw [← Char.ofNat_toNat c]
    simp only [digit?, Option.ite_none_right_eq_some, Option.some.injEq] at h
    generalize c.toNat = n at h
    split_ifs at h with hdigit hlower hupper
    · obtain ⟨hlt, rfl⟩ := h
      obtain ⟨hl, hu⟩ := hdigit
      interval_cases n <;> exact .lower hlt
    · obtain ⟨hlt, rfl⟩ := h
      obtain ⟨hl, hu⟩ := hlower
      interval_cases n <;> exact .lower hlt
    · obtain ⟨hlt, rfl⟩ := h
      obtain ⟨hl, hu⟩ := hupper
      interval_cases n <;> exact .upper hlt
    · omega
  · rintro (h | h)
    · exact digit?_digitChar h hr
    · have hd : d < 16 := Nat.lt_of_lt_of_le h hr
      interval_cases d <;> exact if_pos h

theorem digitRun_of_stops (h : Stops radix rest) : digitRun radix rest = ([], rest) := by
  cases rest with
  | nil => rfl
  | cons c rest => simp only [digitRun, h c rfl]

theorem digitRun_append {cs : List Char} (hr : radix ≤ 16) (hd : List.Forall₂ (Digit radix) cs ds)
    (h : Stops radix rest) : digitRun radix (cs ++ rest) = (ds, rest) := by
  induction hd with
  | nil => exact digitRun_of_stops h
  | cons hc _ ih => simp only [List.cons_append, digitRun, (digit?_eq_some_iff hr).2 hc, ih]

theorem exists_of_digitRun (hr : radix ≤ 16) (s : List Char) : ∃ cs,
    s = cs ++ (digitRun radix s).2 ∧ List.Forall₂ (Digit radix) cs (digitRun radix s).1 ∧
      Stops radix (digitRun radix s).2 := by
  induction s with
  | nil => exact ⟨[], rfl, .nil, stops_nil radix⟩
  | cons c s ih =>
      cases hc : digit? radix c with
      | none => exact ⟨[], by simp [digitRun, hc, stops_cons]⟩
      | some d =>
          obtain ⟨cs, hs, hd, hstop⟩ := ih
          refine ⟨c :: cs, ?_⟩
          simp only [digitRun, hc, List.cons_append, ← hs, true_and]
          exact ⟨.cons ((digit?_eq_some_iff hr).1 hc) hd, hstop⟩

theorem forall₂_digitChar (hd : ∀ d ∈ ds, d < radix) :
    List.Forall₂ (Digit radix) (ds.map Nat.digitChar) ds := by
  induction ds with
  | nil => exact .nil
  | cons d ds ih =>
      obtain ⟨hd, hds⟩ := List.forall_mem_cons.1 hd
      exact .cons (.lower hd) (ih hds)

theorem digitRun_map (hd : ∀ d ∈ ds, d < radix) (hr : radix ≤ 16) (h : Stops radix rest) :
    digitRun radix (ds.map Nat.digitChar ++ rest) = (ds, rest) :=
  digitRun_append hr (forall₂_digitChar hd) h

theorem digits_map (hd : ∀ d ∈ ds, d < radix) (hr : radix ≤ 16) (rest : List Char) :
    digits radix ds.length (ds.map Nat.digitChar ++ rest) = (ds, rest) := by
  induction ds with
  | nil => rfl
  | cons d ds ih =>
      obtain ⟨hd, hds⟩ := List.forall_mem_cons.1 hd
      simp only [List.length_cons, List.map_cons, List.cons_append, digits, digit?_digitChar hd hr,
        ih hds]

theorem digits_map_of_stops {limit : Nat} (hd : ∀ d ∈ ds, d < radix) (hr : radix ≤ 16)
    (hl : ds.length ≤ limit) (h : Stops radix rest) :
    digits radix limit (ds.map Nat.digitChar ++ rest) = (ds, rest) := by
  induction ds generalizing limit with
  | nil =>
      cases limit with
      | zero => rfl
      | succ limit =>
          cases rest with
          | nil => rfl
          | cons c rest => simp only [List.map_nil, List.nil_append, digits, h c rfl]
  | cons d ds ih =>
      obtain ⟨hd, hds⟩ := List.forall_mem_cons.1 hd
      obtain ⟨limit, rfl⟩ := Nat.exists_eq_add_of_le' (Nat.lt_of_lt_of_le (Nat.succ_pos _) hl)
      simp only [List.map_cons, List.cons_append, digits, digit?_digitChar hd hr,
        ih hds (Nat.le_of_succ_le_succ hl)]

structure Spells (radix n : Nat) (ds : List Nat) : Prop where
  chars : Nat.toDigits radix n = ds.map Nat.digitChar
  digit : ∀ d ∈ ds, d < radix
  number : number radix ds = n
  head : ∃ d tail, ds = d :: tail ∧ (d = 0 → tail = [])

theorem number_append (radix : Nat) (ds : List Nat) (d : Nat) :
    number radix (ds ++ [d]) = number radix ds * radix + d := by
  rw [number, List.foldl_append]
  rfl

theorem number_lt (hd : ∀ d ∈ ds, d < radix) : number radix ds < radix ^ ds.length := by
  induction ds using List.reverseRecOn with
  | nil => exact Nat.one_pos
  | append_singleton ds d ih =>
      obtain ⟨hds, hd⟩ := List.forall_mem_append.1 hd
      have hlast : d < radix := hd d (List.mem_singleton_self d)
      calc number radix (ds ++ [d])
        _ = number radix ds * radix + d := number_append radix ds d
        _ < (number radix ds + 1) * radix := by rw [Nat.add_mul, Nat.one_mul]; omega
        _ ≤ radix ^ ds.length * radix := Nat.mul_le_mul_right _ (ih hds)
        _ = radix ^ (ds ++ [d]).length := by
            rw [List.length_append, List.length_singleton, Nat.pow_succ]

theorem exists_spells (h : 1 < radix) (n : Nat) : ∃ ds, Spells radix n ds := by
  induction n using Nat.strongRecOn with
  | ind n ih =>
    rcases Nat.lt_or_ge n radix with hn | hn
    · refine ⟨[n], Nat.toDigits_of_lt_base hn, ?_, ?_, n, [], rfl, fun _ => rfl⟩
      · exact List.forall_mem_singleton.2 hn
      · simp only [number, List.foldl_cons, List.foldl_nil, Nat.zero_mul, Nat.zero_add]
    · have hpos : 0 < n / radix := Nat.div_pos hn (Nat.zero_lt_of_lt h)
      have hmod : n % radix < radix := Nat.mod_lt n (Nat.zero_lt_of_lt h)
      obtain ⟨ds, hc, hd, hm, d, tail, rfl, hz⟩ := ih (n / radix) (Nat.div_lt_self (by omega) h)
      refine ⟨d :: tail ++ [n % radix], ?_, ?_, ?_, d, tail ++ [n % radix], rfl, ?_⟩
      · rw [Nat.toDigits_of_base_le h hn, hc, List.map_append]
        rfl
      · exact List.forall_mem_append.2 ⟨hd, List.forall_mem_singleton.2 hmod⟩
      · rw [number_append, hm, Nat.mul_comm, Nat.div_add_mod]
      · -- A leading zero would make the number's quotient zero.
        rintro rfl
        rw [← hm, hz rfl, number, List.foldl_cons, List.foldl_nil, Nat.zero_mul] at hpos
        exact absurd hpos (Nat.lt_irrefl 0)

theorem Spells.digitRun (hs : Spells radix n ds) (hr : radix ≤ 16) (h : Stops radix rest) :
    digitRun radix (Nat.toDigits radix n ++ rest) = (ds, rest) := by
  rw [hs.chars]
  exact digitRun_map hs.digit hr h

theorem Spells.length_le {limit : Nat} (hs : Spells radix n ds) (h : 1 < radix) (hl : 0 < limit)
    (hn : n < radix ^ limit) : ds.length ≤ limit := by
  have hc : (Nat.toDigits radix n).length = ds.length := by rw [hs.chars, List.length_map]
  rw [← hc]
  exact (Nat.length_toDigits_le_iff h hl).2 hn

theorem number_zeros (radix count : Nat) (ds : List Nat) :
    number radix (List.replicate count 0 ++ ds) = number radix ds := by
  induction count with
  | zero => rfl
  | succ count ih =>
      rw [List.replicate_succ, List.cons_append, ← ih]
      simp only [number, List.foldl_cons, Nat.zero_mul, Nat.zero_add]

structure Pads (radix width n : Nat) (ds : List Nat) : Prop where
  digit : ∀ d ∈ ds, d < radix
  number : number radix ds = n
  ne_nil : ds ≠ []
  length_eq : 0 < width → n < radix ^ width → ds.length = width

def padded (radix width n : Nat) : List Char :=
  List.replicate (width - (Nat.toDigits radix n).length) '0' ++ Nat.toDigits radix n

theorem exists_pads (h : 1 < radix) (width n : Nat) :
    ∃ ds, padded radix width n = ds.map Nat.digitChar ∧ Pads radix width n ds := by
  obtain ⟨ds, hs⟩ := exists_spells h n
  have hlen : (Nat.toDigits radix n).length = ds.length := by rw [hs.chars, List.length_map]
  refine ⟨List.replicate (width - ds.length) 0 ++ ds, ?_, ?_, ?_, ?_, ?_⟩
  · rw [padded, hlen, hs.chars, List.map_append, List.map_replicate]
    rfl
  · refine List.forall_mem_append.2 ⟨fun d hd => ?_, hs.digit⟩
    rw [List.eq_of_mem_replicate hd]
    exact Nat.zero_lt_of_lt h
  · rw [number_zeros, hs.number]
  · obtain ⟨d, tail, rfl, _⟩ := hs.head
    exact List.append_ne_nil_of_right_ne_nil _ (List.cons_ne_nil d tail)
  · intro hw hn
    have hl := hs.length_le h hw hn
    rw [List.length_append, List.length_replicate, Nat.sub_add_cancel hl]

theorem hexPadded_eq (width n : Nat) : hexPadded width n = padded 16 width n := rfl

theorem Digit.eq_zero_iff {c : Char} {d : Nat} (hr : radix ≤ 16) (h : Digit radix c d) :
    d = 0 ↔ c = '0' := by
  constructor
  · rintro rfl
    cases h <;> rfl
  · rintro rfl
    have hd := (digit?_eq_some_iff hr).2 h
    simp only [digit?, Option.ite_none_right_eq_some, Option.some.injEq] at hd
    exact hd.2.symm

theorem head?_eq_zero_iff {cs : List Char} (hr : radix ≤ 16) (h : List.Forall₂ (Digit radix) cs ds) :
    ds.head? = some 0 ↔ cs.head? = some '0' := by
  cases h with
  | nil => simp
  | cons hc _ => simp [hc.eq_zero_iff hr]

structure IsNumeral (radix limit : Nat) (leadingZero : Bool) (cs : List Char) (n : Nat) : Prop where
  value : ∃ ds, List.Forall₂ (Digit radix) cs ds ∧ number radix ds = n
  least : cs ≠ []
  most : cs.length ≤ limit
  zero : leadingZero = false → cs.head? = some '0' → cs.length = 1

theorem Digit.lt {c : Char} {d : Nat} (h : Digit radix c d) : d < radix := by
  cases h <;> assumption

theorem lt_of_mem_digits {cs : List Char} (h : List.Forall₂ (Digit radix) cs ds) :
    ∀ d ∈ ds, d < radix := by
  induction h with
  | nil => exact nofun
  | cons hc _ ih => exact List.forall_mem_cons.2 ⟨hc.lt, ih⟩

theorem IsNumeral.digit_of_mem {limit : Nat} {leadingZero : Bool} {cs : List Char} {c : Char}
    (h : IsNumeral radix limit leadingZero cs n) (hc : c ∈ cs) : ∃ d, Digit radix c d := by
  obtain ⟨ds, hd, hn⟩ := h.value
  clear h hn
  induction hd with
  | nil => cases hc
  | cons hd _ ih =>
      rcases List.mem_cons.1 hc with rfl | hc
      · exact ⟨_, hd⟩
      · exact ih hc

theorem IsNumeral.lt {limit : Nat} {leadingZero : Bool} {cs : List Char}
    (h : IsNumeral radix limit leadingZero cs n) (hr : 0 < radix) : n < radix ^ limit := by
  obtain ⟨ds, hd, rfl⟩ := h.value
  have hlen : ds.length ≤ limit := hd.length_eq ▸ h.most
  exact Nat.lt_of_lt_of_le (number_lt (lt_of_mem_digits hd)) (Nat.pow_le_pow_right hr hlen)

theorem numeral_of_digitRun {limit : Nat} {leadingZero : Bool} {s : List Char}
    (h : digitRun radix s = (ds, rest)) : numeral radix limit leadingZero s =
      if ds = [] ∨ limit < ds.length ∨
        leadingZero = false ∧ ds.head? = some 0 ∧ 1 < ds.length then none
      else some (number radix ds, rest) := by
  cases ds with
  | nil => simp [numeral, h]
  | cons d ds =>
      simp only [numeral, h]
      by_cases hl : limit < (d :: ds).length
      · simp [List.length_cons ▸ hl]
      · simp [List.length_cons ▸ hl, and_assoc]

theorem numeral_eq_some_iff {limit : Nat} {leadingZero : Bool} {s : List Char} (hr : radix ≤ 16) :
    numeral radix limit leadingZero s = some (n, rest) ↔
      ∃ cs, s = cs ++ rest ∧ IsNumeral radix limit leadingZero cs n ∧ Stops radix rest := by
  constructor
  · intro h
    obtain ⟨cs, hs, hd, hstop⟩ := exists_of_digitRun hr s
    rw [numeral_of_digitRun Prod.mk.eta.symm, Option.ite_none_left_eq_some] at h
    obtain ⟨hfits, he⟩ := h
    cases he
    have hlen := hd.length_eq
    simp only [not_or, not_and, Nat.not_lt] at hfits
    obtain ⟨hne, hlimit, hzero⟩ := hfits
    refine ⟨cs, hs, ⟨⟨_, hd, rfl⟩, ?_, by omega, fun hl hc => ?_⟩, hstop⟩
    · rintro rfl
      exact hne (List.eq_nil_of_length_eq_zero hlen.symm)
    · have hone := hzero hl ((head?_eq_zero_iff hr hd).2 hc)
      have hpos := List.length_pos_of_ne_nil hne
      omega
  · rintro ⟨cs, rfl, ⟨⟨ds, hd, rfl⟩, hleast, hmost, hzero⟩, hstop⟩
    have hlen := hd.length_eq
    rw [numeral_of_digitRun (digitRun_append hr hd hstop), if_neg]
    rintro (rfl | hlimit | ⟨hl, hc, hone⟩)
    · exact hleast (List.eq_nil_of_length_eq_zero hlen)
    · omega
    · have := hzero hl ((head?_eq_zero_iff hr hd).1 hc)
      omega

theorem isNumeral_toDigits {limit : Nat} (h : 1 < radix) (hr : radix ≤ 16) (hl : 0 < limit)
    (hn : n < radix ^ limit) (leadingZero : Bool) :
    IsNumeral radix limit leadingZero (Nat.toDigits radix n) n := by
  obtain ⟨ds, hs⟩ := exists_spells h n
  have hlen := hs.length_le h hl hn
  have hd := forall₂_digitChar hs.digit
  rw [hs.chars]
  refine ⟨⟨ds, hd, hs.number⟩, ?_, by simpa using hlen, fun _ hc => ?_⟩
  · obtain ⟨d, tail, rfl, _⟩ := hs.head
    exact List.cons_ne_nil _ _
  · obtain ⟨d, tail, rfl, hz⟩ := hs.head
    have hzero := (head?_eq_zero_iff hr hd).2 hc
    rw [hz (Option.some.inj hzero)]
    rfl

/-- After digits and other characters comes what came after the digits, or one of the others. -/
theorem head?_digitRun_append {s : List Char} {c : Char} (hs : c ∉ s) (hr : rest.head? ≠ some c)
    (hstop : Stops radix rest) : (digitRun radix (s ++ rest)).2.head? ≠ some c := by
  induction s with
  | nil =>
      cases rest with
      | nil => exact hr
      | cons d rest =>
          simp only [List.nil_append, digitRun, hstop d rfl]
          exact hr
  | cons d s ih =>
      obtain ⟨hd, hs⟩ := not_or.1 (mt List.mem_cons.2 hs)
      rw [List.cons_append, digitRun]
      split
      · exact fun he => hd (Option.some.inj he).symm
      · exact ih hs

end HostProbe.Text
