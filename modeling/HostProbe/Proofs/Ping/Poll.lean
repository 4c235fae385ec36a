import HostProbe.Proofs.Ping.Budget
import HostProbe.Proofs.Ping.Hearing

namespace HostProbe.Ping

namespace Socket

def microsecond : Nat := 1000

def millisecond : Nat := 1000000

/-- So many milliseconds last for a whole wait, and the last of them is needed. -/
structure Covers (nanos millis : Nat) : Prop where
  le : nanos ≤ millis * millisecond
  lt : millis * millisecond < nanos + millisecond

section Slice

variable {nanos : Nat} (h : nanos ≤ Watch.slice)
include h

/-- The greatest number of milliseconds is far beyond a slice. -/
theorem pollMillis_eq : pollMillis nanos = (nanos / 1000 + 999) / 1000 := by
  have hslice : Watch.slice = 50000000 := rfl
  exact Nat.min_eq_left (by omega)

/-- The whole microseconds of a wait are rounded up. -/
theorem covers_micros : Covers (nanos - nanos % microsecond) (pollMillis nanos) := by
  rw [pollMillis_eq h]
  constructor
  · simp only [microsecond, millisecond]
    omega
  · simp only [microsecond, millisecond]
    omega

theorem pollMillis_eq_zero_iff : pollMillis nanos = 0 ↔ nanos < microsecond := by
  rw [pollMillis_eq h, microsecond]
  omega

/-- What a wait has beyond its whole microseconds is lost, unless there are others to round up. -/
theorem covers_iff : Covers nanos (pollMillis nanos) ↔
    nanos % millisecond = 0 ∨ microsecond ≤ nanos % millisecond := by
  have hmicros := covers_micros h
  have hmillis := pollMillis_eq h
  constructor
  · intro hc
    have hle := hc.le
    simp only [microsecond, millisecond] at hle ⊢
    omega
  · intro hn
    refine ⟨?_, Nat.lt_of_lt_of_le hmicros.lt (Nat.add_le_add_right (Nat.sub_le _ _) _)⟩
    simp only [microsecond, millisecond] at hn ⊢
    omega

end Slice

end Socket

open Socket

/-- A probe polls in rounds before the end of its time, each time for what is left of it or a slice.
-/
theorem Request.exists_round_of_poll {r : Request} {k : Conditions} {millis : Nat}
    (h : .poll millis ∈ Step.calls (r.probe k).steps) :
    ∃ x ∈ k.rounds r.version (r.packet k), x.elapsed < r.timeout.nanos ∧
      millis = pollMillis (min (r.timeout.nanos - x.elapsed) Watch.slice) := by
  have hearing : ∃ mode, .poll millis ∈ r.hearing k mode := by
    rcases (r.goes k).mem_iff.1 h with hc | ⟨hc, _⟩ | ⟨hc, _⟩ | ⟨mode, _, _, hc⟩
    · simp [Opening.mem_creations_iff] at hc
    · simp at hc
    · rcases hc with hc | hc | hc
      · simp [limiting] at hc
      · have hstage : Call.listening < 9 := (r.block_seeking k).lt_high _ hc
        exact absurd hstage (by decide)
      · cases hc
    · refine ⟨mode, hc.resolve_left fun ha => ?_⟩
      cases mode <;> simp [asking] at ha
  obtain ⟨mode, hm⟩ := hearing
  obtain ⟨heard, hheard, he⟩ := r.exists_hearing_eq k mode
  rw [he, List.mem_flatMap] at hm
  obtain ⟨x, hx, hasks⟩ := hm
  exact ⟨x, hheard.subset hx, SystemRound.eq_of_poll_mem_asks hasks⟩

/-- Rounds that poll for no time at all come to an end within a microsecond. -/
theorem Source.Takes.mul_lt_of_poll_zero {σ : Type} {src : Source σ} {w : Watch} {s : σ} {d n : Nat}
    (h : src.Takes d) (hz : pollMillis (w.wait (src.elapsed s)) = 0)
    (hr : src.Reaches w s (n + 1)) : n * d < microsecond := by
  have hwait := (pollMillis_eq_zero_iff (w.wait_le_slice _)).1 hz
  unfold Reaches at hr
  rw [rounds_add] at hr
  obtain ⟨hbefore, hlast⟩ := List.forall_mem_append.1 hr
  have hidle : w.Idle (src.round w (src.state w s n)) := hlast _ List.mem_cons_self
  have hused := h.add_mul_le_elapsed hbefore
  have hleft : src.elapsed (src.state w s n) < w.timeout.nanos := hidle.asks.elapsed
  have hslice : microsecond ≤ Watch.slice := by decide
  unfold Watch.wait at hwait
  omega

/-- Whatever is left of its time, a probe polls for milliseconds that cover the whole microseconds
of its wait. They cover all of the wait just when it has no rest beyond its milliseconds or one of a
microsecond at least; and there are none of them just when less than a microsecond is left. Rounds
without a wait are then few, if each takes some time. -/
theorem polls_cover_micros (rest : Nat) (r : Request) (k : Conditions) :
    (Covers (min rest Watch.slice) (pollMillis (min rest Watch.slice)) ↔
      min rest Watch.slice % millisecond = 0 ∨ microsecond ≤ min rest Watch.slice % millisecond) ∧
    (pollMillis (min rest Watch.slice) = 0 ↔ rest < microsecond) ∧
    Covers (min rest Watch.slice - min rest Watch.slice % microsecond)
      (pollMillis (min rest Watch.slice)) ∧
    (∀ millis, .poll millis ∈ Step.calls (r.probe k).steps →
      ∃ x ∈ k.rounds r.version (r.packet k), x.elapsed < r.timeout.nanos ∧
        millis = pollMillis (min (r.timeout.nanos - x.elapsed) Watch.slice)) ∧
    ∀ (σ : Type) (src : Source σ) (w : Watch) (s : σ) (d n : Nat), src.Takes d →
      pollMillis (w.wait (src.elapsed s)) = 0 → src.Reaches w s (n + 1) → n * d < microsecond := by
  have hle := Nat.min_le_right rest Watch.slice
  have hslice : microsecond ≤ Watch.slice := by decide
  have hzero : min rest Watch.slice < microsecond ↔ rest < microsecond := by omega
  exact ⟨covers_iff hle, (pollMillis_eq_zero_iff hle).trans hzero, covers_micros hle,
    fun _ => Request.exists_round_of_poll, fun _ _ _ _ _ _ h hz => h.mul_lt_of_poll_zero hz⟩

def Conditions.late : Conditions :=
  { Conditions.answering none none 15 with
    rounds := fun _ _ => [⟨false, 1999999500, .ok false, .error (.bare .wouldBlock), .zero⟩] }

def Source.hasty : Source Nat where
  elapsed := id
  cancelled := fun _ => false
  clock := fun _ => .zero
  wait := fun s _ => (.ok false, s + 1)
  receive := fun s _ => (.ok none, s)

theorem Source.takes_hasty : hasty.Takes 1 where
  wait_ge := fun s _ _ => Nat.le_refl (s + 1)
  receive_ge := fun s _ => Nat.le_refl s

theorem polls_cover_micros_late :
    pollMillis (min 500 Watch.slice) = 0 ∧
    (∃ x ∈ Conditions.late.rounds .v4 (Request.nearby.packet .late),
      x.elapsed < Request.nearby.timeout.nanos ∧
        0 = pollMillis (min (Request.nearby.timeout.nanos - x.elapsed) Watch.slice)) ∧
    Source.hasty.Reaches Watch.loopback 1999999997 (2 + 1) ∧ 2 * 1 < microsecond := by
  obtain ⟨-, hzero, -, hpolls, hspins⟩ := polls_cover_micros 500 .nearby .late
  have hidle {s : Nat} (h : s < Watch.loopback.timeout.nanos) :
      Watch.loopback.Idle (Source.hasty.round Watch.loopback s) := .silent ⟨rfl, h⟩ rfl
  have hreaches : Source.hasty.Reaches Watch.loopback 1999999997 (2 + 1) :=
    List.forall_mem_cons.2 ⟨hidle (by decide +kernel), List.forall_mem_cons.2
      ⟨hidle (by decide +kernel), List.forall_mem_singleton.2 (hidle (by decide +kernel))⟩⟩
  exact ⟨hzero.2 (by decide), hpolls 0 (by decide +kernel), hreaches,
    hspins Nat .hasty .loopback 1999999997 1 2 Source.takes_hasty (by decide +kernel) hreaches⟩

/-- A poll for the last half of a microsecond does not wait at all. -/
theorem not_forall_poll_covers :
    ¬ (∀ rest, 0 < rest → Covers (min rest Watch.slice) (pollMillis (min rest Watch.slice))) ∧
    .poll 0 ∈ Step.calls (Request.nearby.probe .late).steps := by
  refine ⟨fun h => ?_, by decide +kernel⟩
  have hle : 500 ≤ pollMillis (min 500 Watch.slice) * millisecond := (h 500 (by decide)).le
  exact absurd hle (by decide)

end HostProbe.Ping
