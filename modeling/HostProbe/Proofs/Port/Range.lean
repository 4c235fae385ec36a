import HostProbe.Proofs.Port
import Mathlib.Data.List.Chain

namespace HostProbe.PortRange

open Datum

namespace Counter

variable {c c' : Counter} {ns ns' : List UInt16}

inductive Yields : Counter → List UInt16 → Prop where
  | spent {c : Counter} (h : c.step? = none) : Yields c []
  | next {c c' : Counter} {n : UInt16} {ns : List UInt16} (h : c.step? = some (n, c'))
      (hs : Yields c' ns) : Yields c (n :: ns)

theorem Yields.unique (h : Yields c ns) (h' : Yields c ns') : ns = ns' := by
  induction h generalizing ns' with
  | spent h =>
      cases h' with
      | spent => rfl
      | next h' => simp [h] at h'
  | next h _ ih =>
      cases h' with
      | spent h' => simp [h] at h'
      | next h' hs' =>
          cases h.symm.trans h'
          rw [ih hs']

theorem step?_of_lt {first last : UInt16} (h : first < last) :
    step? ⟨first, last, false⟩ = some (first, ⟨first + 1, last, false⟩) := by
  have hle : ¬ last < first := UInt16.not_lt.2 (UInt16.le_of_lt h)
  simp [step?, h, hle]

theorem step?_self (last : UInt16) :
    step? ⟨last, last, false⟩ = some (last, ⟨last, last, true⟩) := by
  simp [step?]

theorem yields_range' {first last : UInt16} {n : Nat} (h : first.toNat + n = last.toNat) :
    Yields ⟨first, last, false⟩ ((List.range' first.toNat (n + 1)).map UInt16.ofNat) := by
  rw [List.range'_succ, List.map_cons, UInt16.ofNat_toNat]
  induction n generalizing first with
  | zero =>
      obtain rfl : first = last := UInt16.toNat_inj.1 h
      exact .next (step?_self first) (.spent rfl)
  | succ n ih =>
      have hlast := last.toNat_lt
      have hnext : (first + 1).toNat = first.toNat + 1 := by
        rw [UInt16.toNat_add]
        exact Nat.mod_eq_of_lt (by simp; omega)
      have hlt : first < last := UInt16.lt_iff_toNat_lt.2 (by omega)
      refine .next (step?_of_lt hlt) ?_
      rw [← hnext, List.range'_succ, List.map_cons, UInt16.ofNat_toNat]
      exact ih (by omega)

end Counter

variable {r : PortRange} {first last : Nat}

theorem count_eq (r : PortRange) : r.first.number + r.count = r.last.number + 1 := by
  have h := r.ordered
  rw [count]
  omega

theorem yields_counter (r : PortRange) : r.counter.Yields (r.ports.map Port.word) := by
  have hword : r.ports.map Port.word = (List.range' r.first.number r.count).map UInt16.ofNat := by
    rw [← r.map_number_ports, List.map_map]
    rfl
  have h : r.first.word.toNat + (r.last.number - r.first.number) = r.last.word.toNat := by
    rw [Port.toNat_word, Port.toNat_word, Nat.add_sub_cancel' r.ordered]
  have hy := Counter.yields_range' h
  rw [Port.toNat_word] at hy
  rw [hword]
  exact hy

theorem mem_ports_iff {p : Port} :
    p ∈ r.ports ↔ r.first.number ≤ p.number ∧ p.number ≤ r.last.number := by
  rw [← List.mem_map_of_injective Port.number_injective, r.map_number_ports, List.mem_range'_1,
    r.count_eq, Nat.lt_succ_iff]

theorem head?_ports (r : PortRange) : r.ports.head? = some r.first := by
  apply Option.map_injective Port.number_injective
  rw [← List.head?_map, r.map_number_ports]
  simp [count, List.head?_range']

theorem getLast?_ports (r : PortRange) : r.ports.getLast? = some r.last := by
  apply Option.map_injective Port.number_injective
  have h := r.count_eq
  rw [← List.getLast?_map, r.map_number_ports, List.getLast?_range']
  rw [if_neg (show r.count ≠ 0 from Nat.succ_ne_zero _), Option.map_some, h]
  rfl

theorem isChain_ports (r : PortRange) : r.ports.IsChain fun p q => q.number = p.number + 1 := by
  rw [← List.isChain_map Port.number (R := fun m n => n = m + 1), r.map_number_ports]
  exact List.isChain_range' _ _ _

structure Enumerates (r : PortRange) (ports : List Port) : Prop where
  head : ports.head? = some r.first
  last : ports.getLast? = some r.last
  rises : ports.IsChain fun p q => q.number = p.number + 1
  counter (ns : List UInt16) : r.counter.Yields ns ↔ ns = ports.map Port.word
  length : ports.length = r.count
  ordered : r.first.word ≤ r.last.word
  difference : (r.last.word.toUInt64 - r.first.word.toUInt64 + 1).toNat = r.count
  contains (p : Port) : r.contains p = true ↔ p ∈ ports

theorem word_le (r : PortRange) : r.first.word ≤ r.last.word := by
  rw [UInt16.le_iff_toNat_le, Port.toNat_word, Port.toNat_word]
  exact r.ordered

theorem toNat_difference (r : PortRange) :
    (r.last.word.toUInt64 - r.first.word.toUInt64 + 1).toNat = r.count := by
  have hle : r.first.word.toUInt64 ≤ r.last.word.toUInt64 := by
    simpa [UInt64.le_iff_toNat_le] using UInt16.le_iff_toNat_le.1 r.word_le
  have hlast := r.last.bounded
  rw [UInt64.toNat_add, UInt64.toNat_sub_of_le _ _ hle]
  simp only [UInt16.toNat_toUInt64, Port.toNat_word, count]
  exact Nat.mod_eq_of_lt (by simp; omega)

theorem enumerates (r : PortRange) : r.Enumerates r.ports where
  head := r.head?_ports
  last := r.getLast?_ports
  rises := r.isChain_ports
  counter _ := ⟨fun h => h.unique r.yields_counter, fun h => h ▸ r.yields_counter⟩
  length := r.length_ports
  ordered := r.word_le
  difference := r.toNat_difference
  contains p := by rw [contains, decide_eq_true_iff, mem_ports_iff]

inductive Obtained : (first last : Nat) → PortRange → Prop where
  | ofPorts {first last : Port} {r : PortRange} (h : of first last = .ok r) :
      Obtained first.number last.number r
  | ofNumbers {first last : Nat} {r : PortRange} (h : ofNumbers first last = .ok r) :
      Obtained first last r
  | decoded {text : String} {d : Datum} {ends : Port × Port} {r : PortRange} (hd : IsJson text d)
      (he : Encodes d ends) (h : readJson read text = .ok r) :
      Obtained ends.1.number ends.2.number r
  | common : Obtained 1 1023 common
  | registered : Obtained 1024 49151 registered
  | dynamic : Obtained 49152 65535 dynamic
  | all : Obtained 1 65535 all

def IsPort (n : Nat) : Prop := 1 ≤ n ∧ n ≤ 65535

/-- Why two numbers are not the ends of a range: the first is looked at, then the last, and then
their order. -/
inductive Refuses (first last : Nat) : Refusal → Prop where
  | first (h : ¬ IsPort first) : Refuses first last (.port first)
  | last (h : IsPort first) (hl : ¬ IsPort last) : Refuses first last (.port last)
  | order (h : IsPort first) (hl : IsPort last) (ho : last < first) :
      Refuses first last (.portRange first last)

theorem isPort_number (p : Port) : IsPort p.number := ⟨p.positive, p.bounded⟩

theorem of_eq_ok_ports_iff {first last : Port} :
    of first last = .ok r ↔ first.number ≤ last.number ∧ r.first = first ∧ r.last = last :=
  @of_eq_ok_iff (first, last) r

theorem of_eq_error_iff {first last : Port} {why : Refusal} :
    of first last = .error why ↔ Refuses first.number last.number why := by
  by_cases h : first.number ≤ last.number
  · rw [of, dif_pos h]
    refine iff_of_false (fun he => by cases he) ?_
    rintro (hn | ⟨_, hn⟩ | ⟨_, _, ho⟩)
    · exact hn (isPort_number first)
    · exact hn (isPort_number last)
    · omega
  · rw [of, dif_neg h]
    constructor
    · intro he
      cases he
      exact .order (isPort_number first) (isPort_number last) (Nat.lt_of_not_le h)
    · rintro (hn | ⟨_, hn⟩ | _)
      · exact absurd (isPort_number first) hn
      · exact absurd (isPort_number last) hn
      · rfl

theorem ofNumbers_of_ports (hf : IsPort first) (hl : IsPort last) :
    ofNumbers first last = of ⟨first, hf.1, hf.2⟩ ⟨last, hl.1, hl.2⟩ := by
  have hp {n : Nat} (h : IsPort n) : Port.of n = .ok ⟨n, h.1, h.2⟩ := dif_pos h
  simp [ofNumbers, hp hf, hp hl, bind, Except.bind]

theorem ofNumbers_of_not_first (hf : ¬ IsPort first) : ofNumbers first last = .error (.port first) := by
  have hp : Port.of first = .error (.port first) := dif_neg hf
  simp [ofNumbers, hp, bind, Except.bind]

theorem ofNumbers_of_not_last (hf : IsPort first) (hl : ¬ IsPort last) :
    ofNumbers first last = .error (.port last) := by
  have hp : Port.of first = .ok ⟨first, hf.1, hf.2⟩ := dif_pos hf
  have hn : Port.of last = .error (.port last) := dif_neg hl
  simp [ofNumbers, hp, hn, bind, Except.bind]

theorem ofNumbers_eq_ok_iff : ofNumbers first last = .ok r ↔
    IsPort first ∧ IsPort last ∧ r.first.number = first ∧ r.last.number = last := by
  constructor
  · intro h
    by_cases hf : IsPort first
    · by_cases hl : IsPort last
      · rw [ofNumbers_of_ports hf hl] at h
        obtain ⟨_, hfirst, hlast⟩ := of_eq_ok_ports_iff.1 h
        exact ⟨hf, hl, congrArg Port.number hfirst, congrArg Port.number hlast⟩
      · simp [ofNumbers_of_not_last hf hl] at h
    · simp [ofNumbers_of_not_first hf] at h
  · rintro ⟨hf, hl, rfl, rfl⟩
    rw [ofNumbers_of_ports hf hl]
    exact of_eq_ok_ports_iff.2 ⟨r.ordered, rfl, rfl⟩

theorem ofNumbers_eq_error_iff {why : Refusal} :
    ofNumbers first last = .error why ↔ Refuses first last why := by
  by_cases hf : IsPort first
  · by_cases hl : IsPort last
    · rw [ofNumbers_of_ports hf hl, of_eq_error_iff]
    · rw [ofNumbers_of_not_last hf hl]
      constructor
      · intro he
        cases he
        exact .last hf hl
      · rintro (hn | _ | ⟨_, hn, _⟩)
        · exact absurd hf hn
        · rfl
        · exact absurd hn hl
  · rw [ofNumbers_of_not_first hf]
    constructor
    · intro he
      cases he
      exact .first hf
    · rintro (_ | ⟨hn, _⟩ | ⟨hn, _, _⟩)
      · rfl
      · exact absurd hn hf
      · exact absurd hn hf

theorem Obtained.ends_eq (h : Obtained first last r) :
    r.first.number = first ∧ r.last.number = last := by
  cases h with
  | ofPorts h =>
      obtain ⟨_, hfirst, hlast⟩ := of_eq_ok_ports_iff.1 h
      exact ⟨congrArg Port.number hfirst, congrArg Port.number hlast⟩
  | ofNumbers h => exact (ofNumbers_eq_ok_iff.1 h).2.2
  | decoded hd he h =>
      obtain ⟨d', ends', hd', he', hof⟩ := (decodes.ok_iff _ _).1 h
      cases hd.1.symm.trans hd'.1
      cases (readEnds_eq_ok_iff.2 he).symm.trans (readEnds_eq_ok_iff.2 he')
      obtain ⟨_, hfirst, hlast⟩ := of_eq_ok_iff.1 hof
      exact ⟨congrArg Port.number hfirst, congrArg Port.number hlast⟩
  | common | registered | dynamic | all => exact ⟨rfl, rfl⟩

/-- A range, however it was had, runs from one port number to another that is not less, and lists,
runs through, counts and contains just the ports between them; it has the ends that it was asked for
by. Two ports, or two numbers, are taken for a range exactly when they can be its ends. -/
theorem range_enumerates :
    (∀ r : PortRange, IsPort r.first.number ∧ IsPort r.last.number ∧
      r.first.number ≤ r.last.number ∧ r.Enumerates r.ports) ∧
    (∀ first last r, Obtained first last r → r.first.number = first ∧ r.last.number = last) ∧
    (∀ first last r, of first last = .ok r ↔
      first.number ≤ last.number ∧ r.first = first ∧ r.last = last) ∧
    (∀ first last why, of first last = .error why ↔ Refuses first.number last.number why) ∧
    (∀ first last, (∃ r, ofNumbers first last = .ok r) ↔
      IsPort first ∧ IsPort last ∧ first ≤ last) ∧
    ∀ first last why, ofNumbers first last = .error why ↔ Refuses first last why := by
  refine ⟨fun r => ?_, fun _ _ _ => Obtained.ends_eq, fun _ _ _ => of_eq_ok_ports_iff,
    fun _ _ _ => of_eq_error_iff, ?_, fun _ _ _ => ofNumbers_eq_error_iff⟩
  · exact ⟨isPort_number r.first, isPort_number r.last, r.ordered, r.enumerates⟩
  · intro first last
    constructor
    · rintro ⟨r, h⟩
      obtain ⟨hf, hl, rfl, rfl⟩ := ofNumbers_eq_ok_iff.1 h
      exact ⟨hf, hl, r.ordered⟩
    · rintro ⟨hf, hl, ho⟩
      rw [ofNumbers_of_ports hf hl]
      exact ⟨_, dif_pos ho⟩

/-- The two greatest numbers: the run ends at the last of all without starting again at zero. -/
theorem range_enumerates_uppermost : ∃ r, ofNumbers 65534 65535 = .ok r ∧
    r.counter.Yields [65534, 65535] ∧ r.count = 2 := by
  obtain ⟨hall, hends, -, -, hnumbers, -⟩ := range_enumerates
  obtain ⟨r, h⟩ := (hnumbers 65534 65535).2 (by simp [IsPort])
  obtain ⟨hfirst, hlast⟩ := hends 65534 65535 r (.ofNumbers h)
  obtain ⟨-, -, -, hr⟩ := hall r
  have hcount : r.count = 2 := by rw [count, hfirst, hlast]
  have hports : r.ports.map Port.word = [65534, 65535] := by
    have hmap := r.map_number_ports
    rw [hcount, hfirst] at hmap
    calc r.ports.map Port.word
      _ = (r.ports.map Port.number).map UInt16.ofNat := by rw [List.map_map]; rfl
      _ = [65534, 65535] := by rw [hmap]; rfl
  exact ⟨r, h, (hr.counter _).2 hports.symm, hcount⟩

end HostProbe.PortRange
