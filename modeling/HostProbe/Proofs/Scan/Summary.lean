import HostProbe.Proofs.Datum.Decoding
import HostProbe.Scan.Summary

namespace HostProbe.Scan

/-- A finding counts in one class. -/
theorem Finding.counts_once (f : Finding) : (if f.isOpen = true then 1 else 0) +
    (if f.isClosed = true then 1 else 0) + (if f.isFiltered = true then 1 else 0) = 1 := by
  obtain ⟨port, status, responseTime, service, errorMessage, scannedAt⟩ := f
  cases status <;> rfl

theorem Finding.countP_add (findings : List Finding) :
    findings.countP Finding.isOpen + findings.countP Finding.isClosed +
      findings.countP Finding.isFiltered = findings.length := by
  induction findings with
  | nil => rfl
  | cons f findings ih =>
      have hone := f.counts_once
      simp only [List.countP_cons, List.length_cons]
      omega

namespace Summary

open Datum

/-- The counts are those of the findings. They add up to all of them, and no more than all have a
definite answer. -/
structure Consistent (s : Summary) : Prop where
  total_eq : s.total.toNat = s.findings.length
  open_eq : s.isOpen.toNat = s.findings.countP Finding.isOpen
  closed_eq : s.closed.toNat = s.findings.countP Finding.isClosed
  filtered_eq : s.filtered.toNat = s.findings.countP Finding.isFiltered
  sum_eq : s.isOpen.toNat + s.closed.toNat + s.filtered.toNat = s.total.toNat
  answered_le : (s.isOpen + s.closed).toNat ≤ s.total.toNat

section Made

variable (target portRange : String) (startedAt completedAt : Time.Stamp) (duration : Time.Span)
  {findings : List Finding}

theorem consistent_ofFindings (h : findings.length < 2 ^ 64) :
    (ofFindings target portRange startedAt completedAt duration findings).Consistent := by
  have hadd := Finding.countP_add findings
  have hcount {n : Nat} (hn : n ≤ findings.length) : (UInt64.ofNat n).toNat = n :=
    UInt64.toNat_ofNat_of_lt' (Nat.lt_of_le_of_lt hn h)
  have ho := hcount (List.countP_le_length (p := Finding.isOpen))
  have hc := hcount (List.countP_le_length (p := Finding.isClosed))
  have hf := hcount (List.countP_le_length (p := Finding.isFiltered))
  have ht := hcount (Nat.le_refl _)
  refine ⟨ht, ho, hc, hf, ?_, ?_⟩
  · change (UInt64.ofNat _).toNat + (UInt64.ofNat _).toNat + (UInt64.ofNat _).toNat =
      (UInt64.ofNat _).toNat
    rw [ho, hc, hf, ht, hadd]
  · change (UInt64.ofNat _ + UInt64.ofNat _).toNat ≤ (UInt64.ofNat _).toNat
    rw [UInt64.toNat_add, ho, hc, ht]
    exact Nat.le_trans (Nat.mod_le _ _) (by omega)

end Made

theorem consistent_iff {s : Summary} (h : s.findings.length < 2 ^ 64) : s.Consistent ↔
    s = ofFindings s.target s.portRange s.startedAt s.completedAt s.duration s.findings := by
  constructor
  · intro hs
    have hcount {x : UInt64} {n : Nat} (hx : x.toNat = n) : x = UInt64.ofNat n := by
      rw [← hx, UInt64.ofNat_toNat]
    obtain ⟨target, portRange, total, isOpen, closed, filtered, duration, startedAt, completedAt,
      findings⟩ := s
    obtain rfl : total = UInt64.ofNat findings.length := hcount hs.total_eq
    obtain rfl : isOpen = UInt64.ofNat (findings.countP Finding.isOpen) := hcount hs.open_eq
    obtain rfl : closed = UInt64.ofNat (findings.countP Finding.isClosed) := hcount hs.closed_eq
    obtain rfl : filtered = UInt64.ofNat (findings.countP Finding.isFiltered) :=
      hcount hs.filtered_eq
    rfl
  · intro hs
    rw [hs]
    exact consistent_ofFindings _ _ _ _ _ h

def Count (d : Datum) (n : UInt64) : Prop := d.Whole 64 n.toNat

theorem readCount_eq_ok_iff {d : Datum} {n : UInt64} : readCount d = .ok n ↔ Count d n := by
  rw [readCount, Reading.map_eq_ok_iff, Count]
  exact (whole_iff (fun _ => UInt64.ofNat_toNat) fun _ h => UInt64.toNat_ofNat_of_lt' h).symm

def fieldNames : List String :=
  ["target", "port_range", "total_ports", "open_ports", "closed_ports", "filtered_ports",
    "scan_duration", "started_at", "completed_at", "results"]

structure Told (ms : List (Datum × Datum)) (p : Parts) : Prop where
  target : Tells ms "target" (Given fun d x => d = .text x) p.target
  portRange : Tells ms "port_range" (Given fun d x => d = .text x) p.portRange
  total : Tells ms "total_ports" (Given Count) p.total
  isOpen : Tells ms "open_ports" (Given Count) p.isOpen
  closed : Tells ms "closed_ports" (Given Count) p.closed
  filtered : Tells ms "filtered_ports" (Given Count) p.filtered
  duration : Tells ms "scan_duration" (Given fun d x => Time.Span.read d = .ok x) p.duration
  startedAt : Tells ms "started_at" (Given fun d x => Time.Stamp.read d = .ok x) p.startedAt
  completedAt : Tells ms "completed_at" (Given fun d x => Time.Stamp.read d = .ok x) p.completedAt
  findings : Tells ms "results" (Given fun d x => readList Finding.read d = .ok x) p.findings

def parts (s : Summary) : Parts :=
  ⟨some s.target, some s.portRange, some s.total, some s.isOpen, some s.closed, some s.filtered,
    some s.duration, some s.startedAt, some s.completedAt, some s.findings⟩

theorem names_shape : shape.names = fieldNames := rfl

theorem plain_shape : shape.Plain := ⟨by decide, rfl, rfl, rfl⟩

theorem slot_target : Slot shape "target" (Given fun d x => d = .text x) Parts.target :=
  .of_field rfl (fun _ _ => rfl) (given_iff fun _ _ => readText_eq_ok_iff) rfl (by simp [shape])

theorem slot_portRange : Slot shape "port_range" (Given fun d x => d = .text x) Parts.portRange :=
  .of_field rfl (fun _ _ => rfl) (given_iff fun _ _ => readText_eq_ok_iff) rfl (by simp [shape])

theorem slot_total : Slot shape "total_ports" (Given Count) Parts.total :=
  .of_field rfl (fun _ _ => rfl) (given_iff fun _ _ => readCount_eq_ok_iff) rfl (by simp [shape])

theorem slot_open : Slot shape "open_ports" (Given Count) Parts.isOpen :=
  .of_field rfl (fun _ _ => rfl) (given_iff fun _ _ => readCount_eq_ok_iff) rfl (by simp [shape])

theorem slot_closed : Slot shape "closed_ports" (Given Count) Parts.closed :=
  .of_field rfl (fun _ _ => rfl) (given_iff fun _ _ => readCount_eq_ok_iff) rfl (by simp [shape])

theorem slot_filtered : Slot shape "filtered_ports" (Given Count) Parts.filtered :=
  .of_field rfl (fun _ _ => rfl) (given_iff fun _ _ => readCount_eq_ok_iff) rfl (by simp [shape])

theorem slot_duration :
    Slot shape "scan_duration" (Given fun d x => Time.Span.read d = .ok x) Parts.duration :=
  .of_field rfl (fun _ _ => rfl) (given_iff fun _ _ => Iff.rfl) rfl (by simp [shape])

theorem slot_startedAt :
    Slot shape "started_at" (Given fun d x => Time.Stamp.read d = .ok x) Parts.startedAt :=
  .of_field rfl (fun _ _ => rfl) (given_iff fun _ _ => Iff.rfl) rfl (by simp [shape])

theorem slot_completedAt :
    Slot shape "completed_at" (Given fun d x => Time.Stamp.read d = .ok x) Parts.completedAt :=
  .of_field rfl (fun _ _ => rfl) (given_iff fun _ _ => Iff.rfl) rfl (by simp [shape])

theorem slot_findings :
    Slot shape "results" (Given fun d x => readList Finding.read d = .ok x) Parts.findings :=
  .of_field rfl (fun _ _ => rfl) (given_iff fun _ _ => Iff.rfl) rfl (by simp [shape])

theorem shape_read_eq_ok_iff {d : Datum} {p : Parts} :
    shape.read d = .ok p ↔ ∃ ms, RecordOf fieldNames d ms ∧ Told ms p := by
  refine plain_shape.read_eq_ok_iff names_shape ?_ ?_ ?_
  · intro ms p h
    exact ⟨slot_target.told h, slot_portRange.told h, slot_total.told h, slot_open.told h,
      slot_closed.told h, slot_filtered.told h, slot_duration.told h, slot_startedAt.told h,
      slot_completedAt.told h, slot_findings.told h⟩
  · intro ms p ht h
    simp only [fieldNames, List.mem_cons, List.not_mem_nil, or_false, forall_eq_or_imp, forall_eq]
    exact ⟨slot_target.readable ht h.target, slot_portRange.readable ht h.portRange,
      slot_total.readable ht h.total, slot_open.readable ht h.isOpen,
      slot_closed.readable ht h.closed, slot_filtered.readable ht h.filtered,
      slot_duration.readable ht h.duration, slot_startedAt.readable ht h.startedAt,
      slot_completedAt.readable ht h.completedAt, slot_findings.readable ht h.findings⟩
  · intro ms p p' ht h h'
    obtain ⟨target, portRange, total, isOpen, closed, filtered, duration, startedAt, completedAt,
      findings⟩ := p
    cases slot_target.unique ht h.target h'.target
    cases slot_portRange.unique ht h.portRange h'.portRange
    cases slot_total.unique ht h.total h'.total
    cases slot_open.unique ht h.isOpen h'.isOpen
    cases slot_closed.unique ht h.closed h'.closed
    cases slot_filtered.unique ht h.filtered h'.filtered
    cases slot_duration.unique ht h.duration h'.duration
    cases slot_startedAt.unique ht h.startedAt h'.startedAt
    cases slot_completedAt.unique ht h.completedAt h'.completedAt
    cases slot_findings.unique ht h.findings h'.findings
    rfl

theorem read_eq_ok_iff {d : Datum} {s : Summary} :
    read d = .ok s ↔ ∃ ms, RecordOf fieldNames d ms ∧ Told ms s.parts := by
  rw [← shape_read_eq_ok_iff, read, Reading.bind_eq_ok_iff]
  constructor
  · rintro ⟨⟨target, portRange, total, isOpen, closed, filtered, duration, startedAt, completedAt,
      findings⟩, hp, h⟩
    simp only [Reading.bind_eq_ok_iff, required_eq_ok_iff, Except.ok.injEq] at h
    obtain ⟨_, rfl, _, rfl, _, rfl, _, rfl, _, rfl, _, rfl, _, rfl, _, rfl, _, rfl, _, rfl, rfl⟩ := h
    exact hp
  · exact fun h => ⟨_, h, rfl⟩

/-- A summary made of findings is consistent. One that is decoded is what its text tells, with the
counts as they stand there, so that it is consistent only where it is the one that would be made of
its findings. -/
theorem summary_counts (text : String) (s : Summary) (h : s.findings.length < 2 ^ 64) :
    let made := ofFindings s.target s.portRange s.startedAt s.completedAt s.duration s.findings
    made.Consistent ∧ (s.Consistent ↔ s = made) ∧
    (readJson read text = .ok s ↔
      ∃ d, Datum.ofJson text = (d, true) ∧ ∃ ms, RecordOf fieldNames d ms ∧ Told ms s.parts) := by
  refine ⟨consistent_ofFindings _ _ _ _ _ h, consistent_iff h, ?_⟩
  rw [readJson_eq_ok_iff]
  simp only [read_eq_ok_iff]

def bothStates : List Finding :=
  [.of ⟨7001, by decide, by decide⟩ .isOpen .origin,
    .of ⟨7002, by decide, by decide⟩ .unfiltered .origin]

def overstated : String :=
  "\x7b\"target\":\"10.0.0.1\",\"port_range\":\"1-2\",\"total_ports\":1,\"open_ports\":2,
    \"closed_ports\":0,\"filtered_ports\":0,\"scan_duration\":\x7b\"secs\":0,\"nanos\":0\x7d,
    \"started_at\":\"2024-01-01T00:00:00Z\",\"completed_at\":\"2024-01-01T00:00:00Z\",
    \"results\":[]\x7d"

theorem exists_overstated : ∃ s, readJson read overstated = .ok s ∧
    s.total = 1 ∧ s.isOpen = 2 ∧ s.findings = [] := by
  have h : (readJson read overstated).toOption.map (fun s => (s.total, s.isOpen, s.findings)) =
      some (1, 2, []) := by
    rw [overstated, readJson_ofList]
    decide +kernel
  obtain ⟨s, hs, hparts⟩ := Option.map_eq_some_iff.1 h
  simp only [Prod.mk.injEq] at hparts
  exact ⟨s, Reading.eq_ok_of_toOption hs, hparts⟩

theorem summary_counts_overstated :
    (ofFindings "10.0.0.1" "7001-7002" .origin .origin .zero bothStates).Consistent ∧
    ∃ s d ms, readJson read overstated = .ok s ∧ Datum.ofJson overstated = (d, true) ∧
      RecordOf fieldNames d ms ∧ Told ms s.parts := by
  constructor
  · exact (summary_counts "" (ofFindings "10.0.0.1" "7001-7002" .origin .origin .zero bothStates)
      (by decide)).1
  · obtain ⟨s, hs, -, -, hnone⟩ := exists_overstated
    have hlen : s.findings.length < 2 ^ 64 := by
      rw [hnone]
      decide
    obtain ⟨d, hd, ms, hms, ht⟩ := (summary_counts overstated s hlen).2.2.1 hs
    exact ⟨s, d, ms, hs, hd, hms, ht⟩

theorem not_forall_decoded_consistent :
    ¬ ∀ text s, readJson read text = .ok s → s.Consistent := by
  intro h
  obtain ⟨s, hr, ht, ho, _⟩ := exists_overstated
  have hsum := (h overstated s hr).sum_eq
  rw [ht, ho, show (2 : UInt64).toNat = 2 from rfl, show (1 : UInt64).toNat = 1 from rfl] at hsum
  omega

end Summary

end HostProbe.Scan
