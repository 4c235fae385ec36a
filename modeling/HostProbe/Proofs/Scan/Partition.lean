import HostProbe.Proofs.Binary64.Ratio
import HostProbe.Proofs.Scan.Summary
import Mathlib.Algebra.Order.Field.Rat

namespace HostProbe.Scan

theorem Finding.isOpen_iff (f : Finding) : f.isOpen = true ↔ f.status = .isOpen := beq_iff_eq

theorem Finding.isClosed_iff (f : Finding) : f.isClosed = true ↔ f.status = .closed := beq_iff_eq

theorem Finding.isFiltered_iff (f : Finding) : f.isFiltered = true ↔
    f.status ∈ [.filtered, .unfiltered, .openFiltered, .closedFiltered] := by
  rw [isFiltered]
  cases f.status <;> decide

namespace Summary

structure Partitions (s : Summary) : Prop where
  openFindings : s.openFindings.Sublist s.findings
  closedFindings : s.closedFindings.Sublist s.findings
  filteredFindings : s.filteredFindings.Sublist s.findings
  count_open (f : Finding) :
    s.openFindings.count f = if f.status = .isOpen then s.findings.count f else 0
  count_closed (f : Finding) :
    s.closedFindings.count f = if f.status = .closed then s.findings.count f else 0
  count_filtered (f : Finding) : s.filteredFindings.count f =
    if f.status ∈ [.filtered, .unfiltered, .openFiltered, .closedFiltered] then s.findings.count f
    else 0

theorem count_filter_of_iff {p : Finding → Bool} {f : Finding} {P : Prop} [Decidable P]
    (h : p f = true ↔ P) (findings : List Finding) :
    (findings.filter p).count f = if P then findings.count f else 0 := by
  split
  · next hp => exact List.count_filter (h.2 hp)
  · next hp =>
      rw [List.count_eq_zero]
      intro hm
      exact hp (h.1 (List.of_mem_filter hm))

theorem partitions (s : Summary) : s.Partitions where
  openFindings := List.filter_sublist
  closedFindings := List.filter_sublist
  filteredFindings := List.filter_sublist
  count_open f := count_filter_of_iff f.isOpen_iff _
  count_closed f := count_filter_of_iff f.isClosed_iff _
  count_filtered f := count_filter_of_iff f.isFiltered_iff _

structure Tallies (s : Summary) : Prop where
  openFindings : s.openFindings.length = s.isOpen.toNat
  closedFindings : s.closedFindings.length = s.closed.toNat
  filteredFindings : s.filteredFindings.length = s.filtered.toNat
  total : s.findings.length = s.total.toNat
  sum : s.isOpen.toNat + s.closed.toNat + s.filtered.toNat = s.total.toNat
  share : ((s.isOpen + s.closed).toNat / s.total.toNat : ℚ) ∈ Set.Icc 0 1
  rate : Binary64.le .zero s.successRate = true ∧ Binary64.le s.successRate (.ofNat 1) = true
  rate_nil : s.findings = [] → s.successRate = .zero

theorem Consistent.tallies {s : Summary} (h : s.Consistent) : s.Tallies where
  openFindings := by rw [Summary.openFindings, ← List.countP_eq_length_filter, h.open_eq]
  closedFindings := by rw [Summary.closedFindings, ← List.countP_eq_length_filter, h.closed_eq]
  filteredFindings := by
    rw [Summary.filteredFindings, ← List.countP_eq_length_filter, h.filtered_eq]
  total := h.total_eq.symm
  sum := h.sum_eq
  share := by
    have hle : ((s.isOpen + s.closed).toNat : ℚ) ≤ s.total.toNat := Nat.cast_le.2 h.answered_le
    exact ⟨div_nonneg (Nat.cast_nonneg _) (Nat.cast_nonneg _),
      div_le_one_of_le₀ hle (Nat.cast_nonneg _)⟩
  rate := by
    unfold successRate
    split
    · decide +kernel
    · next hz =>
        refine Binary64.div_ofNat_le h.answered_le ?_ s.total.toNat_lt
        exact Nat.pos_of_ne_zero fun h => hz (UInt64.toNat_inj.1 h)
  rate_nil := by
    intro hn
    have hz : s.total = 0 := UInt64.toNat_inj.1 (by rw [h.total_eq, hn]; rfl)
    rw [successRate, if_pos hz]

/-- A summary keeps the findings it is made of and parts them in three: the open ones, the closed
ones and those of the other four states. It counts them so, and the three counts add up. -/
theorem summary_partitions (target portRange : String) (startedAt completedAt : Time.Stamp)
    (duration : Time.Span) (findings : List Finding) :
    let s := ofFindings target portRange startedAt completedAt duration findings
    s.findings = findings ∧ s.Partitions ∧ (findings.length < 2 ^ 64 → s.Tallies) :=
  ⟨rfl, partitions _, fun h => (consistent_ofFindings _ _ _ _ _ h).tallies⟩

def ofEveryState : List Finding :=
  [.isOpen, .closedFiltered, .closed, .unfiltered, .openFiltered, .filtered].map fun status =>
    .of ⟨443, by decide, by decide⟩ status .origin

theorem summary_partitions_ofEveryState :
    let s := ofFindings "10.0.0.1" "443-443" .origin .origin .zero ofEveryState
    s.Partitions ∧ s.Tallies ∧ s.filtered = 4 := by
  obtain ⟨_, hpartitions, htallies⟩ :=
    summary_partitions "10.0.0.1" "443-443" .origin .origin .zero ofEveryState
  exact ⟨hpartitions, htallies (by decide), rfl⟩

end Summary

end HostProbe.Scan
