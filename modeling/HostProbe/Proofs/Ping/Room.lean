import HostProbe.Proofs.Icmp.Prefix
import HostProbe.Proofs.Ping.Calls

namespace HostProbe

namespace Ping

def Datagram.cut (n : Nat) (d : Datagram) : Datagram := { d with bytes := d.bytes.take n }

def Round.cut (n : Nat) (r : Round) : Round :=
  { r with received := r.received.map (Option.map (Datagram.cut n)) }

namespace Watch

variable {w : Watch} {r : Round} {n : Nat}

/-- What a wait receives counts as a whole, though there is only so much room for it. -/
theorem receives_iff {d : Datagram} {v : Icmp.Verdict} : w.Receives r d v ↔
    w.Asks r ∧ r.ready = .ok true ∧ r.received = .ok (some d) ∧
      w.matcher.classify d.bytes = v := by
  have hv := w.matcher.classify_take (n := room) (by decide) d.bytes
  constructor
  · intro h
    exact ⟨h.toAsks, h.ready, h.received, hv ▸ h.verdict⟩
  · rintro ⟨ha, hr, hd, h⟩
    exact ⟨ha, hr, hd, hv.trans h⟩

theorem judge_take (h : 136 ≤ n) (w : Watch) (clock : Binary64) (sender : Numeric)
    (bytes : List UInt8) : (w.judge clock sender (bytes.take n)).2 = (w.judge clock sender bytes).2 := by
  rw [judge, judge, w.matcher.classify_take h]
  cases w.matcher.classify bytes <;> rfl

section Cut

variable (h : 136 ≤ n)
include h

omit h in
theorem Asks.cut (ha : w.Asks r) : w.Asks (r.cut n) := ⟨ha.cancelled, ha.elapsed⟩

theorem Receives.cut {d : Datagram} {v : Icmp.Verdict} (hr : w.Receives r d v) :
    w.Receives (r.cut n) (d.cut n) v := by
  obtain ⟨ha, hready, hd, hv⟩ := receives_iff.1 hr
  refine receives_iff.2 ⟨ha.cut, hready, ?_, ?_⟩
  · rw [Round.cut, hd]
    rfl
  · exact (w.matcher.classify_take h d.bytes).trans hv

theorem Decides.cut {result : Except Failure Binary64} (hd : w.Decides r result) :
    w.Decides (r.cut n) result := by
  cases hd with
  | cancelled hc => exact .cancelled hc
  | expired hc he => exact .expired hc he
  | waitFailed ha hf => exact .waitFailed ha.cut hf
  | @receiveFailed ha f hr hf =>
      have hcut : (r.cut n).received = .error f := by
        rw [Round.cut, hf]
        rfl
      exact .receiveFailed ha.cut hr hcut
  | echoReply hr => exact .echoReply (hr.cut h)
  | timeExceeded hr => exact .timeExceeded (hr.cut h)
  | @unreachable d code hr => exact Decides.unreachable (d := d.cut n) (hr.cut h)

theorem Idle.cut (hi : w.Idle r) : w.Idle (r.cut n) := by
  cases hi with
  | silent ha hr => exact .silent ha.cut hr
  | nothing ha hr hn =>
      have hcut : (r.cut n).received = .ok none := by
        rw [Round.cut, hn]
        rfl
      exact .nothing ha.cut hr hcut
  | unrelated hr => exact .unrelated (hr.cut h)

theorem result_run_cut (b : Buffer) (rounds : List Round) :
    (w.run b (rounds.map (Round.cut n))).result = (w.run b rounds).result := by
  induction rounds with
  | nil => rfl
  | cons r rounds ih =>
      rw [List.map_cons]
      rcases w.decides_or_idle r with ⟨result, hd⟩ | hi
      · rw [run_of_decides hd, run_of_decides (hd.cut h)]
      · rw [run_of_idle hi, run_of_idle (hi.cut h)]
        exact ih

theorem calls_run_cut (b : Buffer) (rounds : List Round) :
    Step.calls (w.run b (rounds.map (Round.cut n))).steps = Step.calls (w.run b rounds).steps := by
  have hplay (r : Round) : Step.calls (w.play b (r.cut n)).steps = Step.calls (w.play b r).steps := by
    rw [calls_play, calls_play]
    rfl
  induction rounds with
  | nil => rfl
  | cons r rounds ih =>
      rw [List.map_cons]
      rcases w.decides_or_idle r with ⟨result, hd⟩ | hi
      · rw [run_of_decides hd, run_of_decides (hd.cut h)]
        exact hplay r
      · rw [run_of_idle hi, run_of_idle (hi.cut h)]
        simp only [Traced.after, Step.calls_append, hplay, ih]

end Cut

/-- A verdict hangs on no more than the first 136 bytes of a frame. So a wait judges each datagram
by all of its bytes, whatever does not fit into its room, and comes to the same end with the same
calls when every datagram is cut to at least as many bytes. -/
theorem start_decides :
    (∀ (m : Icmp.Matcher) (frame : List UInt8) (n : Nat), 136 ≤ n →
      m.classify (frame.take n) = m.classify frame) ∧
    (∀ (w : Watch) (b : Buffer) (r : Round) (d : Datagram), w.Asks r → r.ready = .ok true →
      r.received = .ok (some d) → (w.play b r).decision =
        (w.judge r.clock (d.sender.getD w.destination) d.bytes).2) ∧
    ∀ (w : Watch) (rounds : List Round) (n : Nat), 136 ≤ n →
      (w.await (rounds.map (Round.cut n))).result = (w.await rounds).result ∧
      Step.calls (w.await (rounds.map (Round.cut n))).steps = Step.calls (w.await rounds).steps := by
  refine ⟨fun m frame n h => m.classify_take h frame, ?_, ?_⟩
  · intro w b r d ha hready hd
    have hr : w.Receives r d _ := receives_iff.2 ⟨ha, hready, hd, rfl⟩
    rw [hr.decision_play, w.judge_take (by decide)]
  · intro w rounds n h
    exact ⟨result_run_cut h .empty rounds, calls_run_cut h .empty rounds⟩

open Icmp (Matcher)

def distant : List UInt8 :=
  Rehearsal.header 15 ++ [11, 0, 0, 0, 0, 0, 0, 0] ++ Rehearsal.header 15 ++ [8, 0, 0, 0, 0, 7, 0, 0]

theorem start_decides_distant :
    let watch : Watch := { loopback with matcher := .of .v4 .ipv4Header 7 0 }
    let frame := distant ++ List.replicate 4096 0
    let round : Round := { stray with received := .ok (some ⟨frame, none⟩) }
    watch.matcher.classify frame = .timeExceeded ∧
    (watch.play .empty round).decision = some (.error .timeExceeded) ∧
    (watch.await [round.cut 136]).result = (watch.await [round]).result := by
  intro watch frame round
  obtain ⟨hclassify, hplay, hawait⟩ := start_decides
  have hstart : frame.take 136 = distant := List.take_left' (by decide +kernel)
  have hv : watch.matcher.classify frame = .timeExceeded := by
    rw [← hclassify watch.matcher frame 136 (Nat.le_refl _), hstart]
    decide +kernel
  refine ⟨hv, ?_, (hawait watch [round] 136 (Nat.le_refl _)).1⟩
  rw [hplay watch .empty round ⟨frame, none⟩ ⟨rfl, by decide +kernel⟩ rfl rfl, judge, hv]

/-- No smaller room is enough for every verdict. -/
theorem room_least : ∀ n < 136, ∃ m : Matcher,
    m.classify (distant.take n) ≠ m.classify distant := by
  have h : ∀ n < 136, ∃ identifier ∈ [7, 8],
      (Matcher.of .v4 .ipv4Header identifier 0).classify (distant.take n) ≠
        (Matcher.of .v4 .ipv4Header identifier 0).classify distant := by decide +kernel
  intro n hn
  obtain ⟨identifier, _, hi⟩ := h n hn
  exact ⟨_, hi⟩

end Watch

end Ping

end HostProbe
