import HostProbe.Limit.HopLimit
import HostProbe.Limit.PacketSize
import HostProbe.Limit.Timeout
import HostProbe.Proofs.Binary64.Order
import HostProbe.Proofs.Datum.Decoding

namespace HostProbe

open Datum

namespace Timeout

open Binary64

/-- A budget is a number above 0 and not above 300. -/
theorem admits_iff {x : Binary64} :
    admits x = true ↔ x.isFinite = true ∧ 0 < x.value ∧ x.value ≤ 300 * one := by
  have hmost : (ofNat 300).value = 300 * one := by decide +kernel
  have hrank : (ofNat 300).rank < infinite := by decide +kernel
  rw [admits, Bool.and_eq_true, lt_iff, le_iff, value_zero, hmost]
  constructor
  · rintro ⟨⟨_, _, hpos⟩, _, _, hle⟩
    have hr := Int.lt_of_le_of_lt (rank_le_iff.2 (hle.trans hmost.symm.le)) hrank
    rw [rank, negative_of_value_pos hpos] at hr
    exact ⟨isFinite_iff.2 (Int.ofNat_lt.1 hr), hpos, hle⟩
  · rintro ⟨hx, hpos, hle⟩
    have hnan := not_isNaN (isFinite_iff.1 hx)
    exact ⟨⟨rfl, hnan, hpos⟩, hnan, by decide +kernel, hle⟩

theorem of_eq_ok_iff {x : Binary64} {t : Timeout} : of x = .ok t ↔
    x.isFinite = true ∧ 0 < x.value ∧ x.value ≤ 300 * one ∧ t.seconds = x := by
  rw [of, dite_eq_ok_iff]
  constructor
  · rintro ⟨h, rfl⟩
    obtain ⟨hx, hpos, hle⟩ := admits_iff.1 h
    exact ⟨hx, hpos, hle, rfl⟩
  · rintro ⟨hx, hpos, hle, rfl⟩
    exact ⟨admits_iff.2 ⟨hx, hpos, hle⟩, rfl⟩

theorem decodes : Decodes read Number of fun x t =>
    x.isFinite = true ∧ 0 < x.value ∧ x.value ≤ 300 * one ∧ t.seconds = x :=
  .of_parts (fun _ => rfl) (fun _ _ => readReal_eq_ok_iff) (fun _ _ => Number.sound)
    fun _ _ => of_eq_ok_iff

end Timeout

namespace PacketSize

theorem of_eq_ok_iff {n : Nat} {s : PacketSize} : of n = .ok s ↔ 8 ≤ n ∧ n ≤ 1500 ∧ s.bytes = n := by
  rw [of, dite_eq_ok_iff]
  constructor
  · rintro ⟨h, rfl⟩
    exact ⟨h.1, h.2, rfl⟩
  · rintro ⟨hl, hm, rfl⟩
    exact ⟨⟨hl, hm⟩, rfl⟩

theorem decodes : Decodes read (Whole 32) of fun n s => 8 ≤ n ∧ n ≤ 1500 ∧ s.bytes = n :=
  .of_nat (fun _ => rfl) fun _ _ => of_eq_ok_iff

theorem readJson_datum (s : PacketSize) : readJson read s.datum.json = .ok s := by
  have hlt : s.bytes < 65536 := Nat.lt_of_le_of_lt s.most (by decide)
  exact readJson_natCast (fun _ => rfl) hlt (of_eq_ok_iff.2 ⟨s.least, s.most, rfl⟩)

end PacketSize

namespace HopLimit

theorem of_eq_ok_iff {n : Nat} {h : HopLimit} : of n = .ok h ↔ 1 ≤ n ∧ n ≤ 255 ∧ h.hops = n := by
  rw [of, dite_eq_ok_iff]
  constructor
  · rintro ⟨h, rfl⟩
    exact ⟨h.1, h.2, rfl⟩
  · rintro ⟨hl, hm, rfl⟩
    exact ⟨⟨hl, hm⟩, rfl⟩

theorem decodes : Decodes read (Whole 32) of fun n h => 1 ≤ n ∧ n ≤ 255 ∧ h.hops = n :=
  .of_nat (fun _ => rfl) fun _ _ => of_eq_ok_iff

theorem readJson_datum (h : HopLimit) : readJson read h.datum.json = .ok h := by
  have hlt : h.hops < 65536 := Nat.lt_of_le_of_lt h.bounded (by decide)
  exact readJson_natCast (fun _ => rfl) hlt (of_eq_ok_iff.2 ⟨h.positive, h.bounded, rfl⟩)

end HopLimit

end HostProbe
