import HostProbe.Ping.Watch

namespace HostProbe.Ping

namespace Buffer

/-- Of what was received into it, a buffer shows nothing but that. -/
theorem take_write (b : Buffer) (bytes : List UInt8) :
    (b.write bytes).bytes.take (min bytes.length Watch.room) = bytes.take Watch.room := by
  refine List.take_left' ?_
  rw [List.length_take, Nat.min_comm]

end Buffer

namespace Watch

variable {w : Watch} {r : Round}

structure Asks (w : Watch) (r : Round) : Prop where
  cancelled : r.cancelled = false
  elapsed : r.elapsed < w.timeout.nanos

structure Receives (w : Watch) (r : Round) (d : Datagram) (v : Icmp.Verdict) : Prop
    extends w.Asks r where
  ready : r.ready = .ok true
  received : r.received = .ok (some d)
  verdict : w.matcher.classify (d.bytes.take room) = v

inductive Decides (w : Watch) (r : Round) : Except Failure Binary64 → Prop where
  | cancelled (h : r.cancelled = true) : Decides w r (.error .cancelled)
  | expired (h : r.cancelled = false) (he : w.timeout.nanos ≤ r.elapsed) :
      Decides w r (.error (.timeout w.timeout.seconds))
  | waitFailed (h : w.Asks r) {f : Fault} (hf : r.ready = .error f) :
      Decides w r (.error (.ofFault "Failed waiting for echo reply" f))
  | receiveFailed (h : w.Asks r) {f : Fault} (hr : r.ready = .ok true) (hf : r.received = .error f) :
      Decides w r (.error (.ofFault "Failed to receive echo reply" f))
  | echoReply {d : Datagram} {sent : Binary64} (h : w.Receives r d (.echoReply sent)) :
      Decides w r (.ok (roundTrip sent r.clock))
  | timeExceeded {d : Datagram} (h : w.Receives r d .timeExceeded) :
      Decides w r (.error .timeExceeded)
  | unreachable {d : Datagram} {code : UInt8} (h : w.Receives r d (.unreachable code)) :
      Decides w r (.error (.unreachable
        s!"{(d.sender.getD w.destination).text} reported code {code.toNat}"))

inductive Idle (w : Watch) (r : Round) : Prop where
  | silent (h : w.Asks r) (hr : r.ready = .ok false)
  | nothing (h : w.Asks r) (hr : r.ready = .ok true) (hn : r.received = .ok none)
  | unrelated {d : Datagram} (h : w.Receives r d .unrelated)

theorem decides_or_idle (w : Watch) (r : Round) : (∃ result, w.Decides r result) ∨ w.Idle r := by
  by_cases hc : r.cancelled = true
  · exact .inl ⟨_, .cancelled hc⟩
  have hc : r.cancelled = false := Bool.eq_false_iff.2 hc
  rcases Nat.lt_or_ge r.elapsed w.timeout.nanos with he | he
  · have ha : w.Asks r := ⟨hc, he⟩
    rcases hr : r.ready with f | _ | _
    · exact .inl ⟨_, .waitFailed ha hr⟩
    · exact .inr (.silent ha hr)
    · rcases hd : r.received with f | _ | d
      · exact .inl ⟨_, .receiveFailed ha hr hd⟩
      · exact .inr (.nothing ha hr hd)
      · cases hv : w.matcher.classify (d.bytes.take room) with
        | echoReply sent => exact .inl ⟨_, .echoReply ⟨ha, hr, hd, hv⟩⟩
        | timeExceeded => exact .inl ⟨_, .timeExceeded ⟨ha, hr, hd, hv⟩⟩
        | unreachable code => exact .inl ⟨_, .unreachable ⟨ha, hr, hd, hv⟩⟩
        | unrelated => exact .inr (.unrelated ⟨ha, hr, hd, hv⟩)
  · exact .inl ⟨_, .expired hc he⟩

/-- The buffer before a round shows neither in its steps nor in its decision. -/
theorem hear_congr (w : Watch) (b b' : Buffer) (r : Round) :
    (w.hear b r).steps = (w.hear b' r).steps ∧ (w.hear b r).decision = (w.hear b' r).decision := by
  unfold hear
  rcases r.ready with f | _ | _
  · exact ⟨rfl, rfl⟩
  · exact ⟨rfl, rfl⟩
  · rcases r.received with f | _ | d
    · exact ⟨rfl, rfl⟩
    · exact ⟨rfl, rfl⟩
    · dsimp only
      rw [Buffer.take_write, Buffer.take_write]
      exact ⟨rfl, rfl⟩

theorem play_congr (w : Watch) (b b' : Buffer) (r : Round) :
    (w.play b r).steps = (w.play b' r).steps ∧ (w.play b r).decision = (w.play b' r).decision := by
  unfold play
  split
  · exact ⟨rfl, rfl⟩
  split
  · exact ⟨rfl, rfl⟩
  · exact w.hear_congr b b' r

theorem Asks.play_eq (h : w.Asks r) (b : Buffer) : w.play b r = w.hear b r := by
  rw [play, if_neg (Bool.eq_false_iff.1 h.cancelled), if_neg (Nat.not_le.2 h.elapsed)]

theorem Receives.decision_play {d : Datagram} {v : Icmp.Verdict} (h : w.Receives r d v)
    (b : Buffer) : (w.play b r).decision = (w.judge r.clock (d.sender.getD w.destination)
      (d.bytes.take room)).2 := by
  rw [h.play_eq, hear, h.ready, h.received]
  dsimp only
  rw [Buffer.take_write]

theorem Decides.decision_play {result : Except Failure Binary64} (h : w.Decides r result)
    (b : Buffer) : (w.play b r).decision = some result := by
  cases h with
  | cancelled h => rw [play, if_pos h]
  | expired h he => rw [play, if_neg (Bool.eq_false_iff.1 h), if_pos he]
  | waitFailed h hf => rw [h.play_eq, hear, hf]
  | receiveFailed h hr hf => rw [h.play_eq, hear, hr, hf]
  | echoReply h => rw [h.decision_play, judge, h.verdict]
  | timeExceeded h => rw [h.decision_play, judge, h.verdict]
  | unreachable h => rw [h.decision_play, judge, h.verdict]

theorem Idle.decision_play (h : w.Idle r) (b : Buffer) : (w.play b r).decision = none := by
  cases h with
  | silent h hr => rw [h.play_eq, hear, hr]
  | nothing h hr hn => rw [h.play_eq, hear, hr, hn]
  | unrelated h => rw [h.decision_play, judge, h.verdict]

def asked (w : Watch) (r : Round) : List SourceCall :=
  if r.cancelled ∨ w.timeout.nanos ≤ r.elapsed then []
  else match r.ready with
    | .ok true => [.wait (w.wait r.elapsed), .receive room]
    | _ => [.wait (w.wait r.elapsed)]

theorem calls_play (w : Watch) (b : Buffer) (r : Round) :
    Step.calls (w.play b r).steps = w.asked r := by
  unfold play asked
  by_cases hc : r.cancelled = true
  · rw [if_pos hc, if_pos (.inl hc)]
    rfl
  by_cases he : w.timeout.nanos ≤ r.elapsed
  · rw [if_neg hc, if_pos he, if_pos (.inr he)]
    rfl
  rw [if_neg hc, if_neg he, if_neg (not_or.2 ⟨hc, he⟩), hear]
  rcases r.ready with f | _ | _
  · rfl
  · rfl
  · rcases r.received with f | _ | d
    · rfl
    · rfl
    · rfl

/-- A wait does not hang on what was in its buffer. -/
theorem run_congr (w : Watch) (b b' : Buffer) (rounds : List Round) :
    w.run b rounds = w.run b' rounds := by
  induction rounds generalizing b b' with
  | nil => rfl
  | cons r rounds ih =>
      obtain ⟨hs, hd⟩ := w.play_congr b b' r
      rw [run, run, hs, hd, ih (w.play b r).buffer (w.play b' r).buffer]

theorem run_of_decides {result : Except Failure Binary64} (h : w.Decides r result) (b : Buffer)
    (rounds : List Round) : w.run b (r :: rounds) = ⟨(w.play b r).steps, result⟩ := by
  rw [run, h.decision_play]

theorem run_of_idle (h : w.Idle r) (b : Buffer) (rounds : List Round) :
    w.run b (r :: rounds) = (w.run b rounds).after (w.play b r).steps := by
  rw [run, h.decision_play]
  exact congrArg (Traced.after _) (w.run_congr _ _ _)

section Before

variable {before : List Round} (hb : ∀ x ∈ before, w.Idle x)
include hb

theorem run_append_of_idle (b : Buffer) (rounds : List Round) : w.run b (before ++ rounds) =
    (w.run b rounds).after (before.flatMap fun x => (w.play b x).steps) := by
  induction before with
  | nil => rfl
  | cons x before ih =>
      obtain ⟨hx, hb⟩ := List.forall_mem_cons.1 hb
      rw [List.cons_append, run_of_idle hx, ih hb, List.flatMap_cons]
      simp only [Traced.after, List.append_assoc]

theorem run_append_of_decides {result : Except Failure Binary64} (h : w.Decides r result)
    (b : Buffer) (after : List Round) : w.run b (before ++ r :: after) =
      ⟨(before ++ [r]).flatMap fun x => (w.play b x).steps, result⟩ := by
  rw [run_append_of_idle hb, run_of_decides h, List.flatMap_append, List.flatMap_singleton]
  rfl

end Before

/-- Rounds without some of the idle ones. -/
inductive Thins (w : Watch) : List Round → List Round → Prop where
  | nil : Thins w [] []
  | keep (r : Round) {rounds less : List Round} (h : Thins w rounds less) :
      Thins w (r :: rounds) (r :: less)
  | drop {r : Round} (hi : w.Idle r) {rounds less : List Round} (h : Thins w rounds less) :
      Thins w (r :: rounds) less

theorem Thins.result_eq {rounds less : List Round} (h : w.Thins rounds less) (b : Buffer) :
    (w.run b less).result = (w.run b rounds).result := by
  induction h with
  | nil => rfl
  | keep r h ih =>
      rcases w.decides_or_idle r with ⟨result, hd⟩ | hi
      · rw [run_of_decides hd, run_of_decides hd]
      · rw [run_of_idle hi, run_of_idle hi]
        exact ih
  | drop hi h ih =>
      rw [run_of_idle hi]
      exact ih

/-- The rounds of a wait are all idle, or some of them are and the next decides. -/
theorem idle_or_decides (w : Watch) (rounds : List Round) : (∀ x ∈ rounds, w.Idle x) ∨
    ∃ before r after result, rounds = before ++ r :: after ∧ (∀ x ∈ before, w.Idle x) ∧
      w.Decides r result := by
  induction rounds with
  | nil => exact .inl (List.forall_mem_nil _)
  | cons r rounds ih =>
      rcases w.decides_or_idle r with ⟨result, hd⟩ | hi
      · exact .inr ⟨[], r, rounds, result, rfl, List.forall_mem_nil _, hd⟩
      · rcases ih with hall | ⟨before, x, after, result, rfl, hb, hd⟩
        · exact .inl (List.forall_mem_cons.2 ⟨hi, hall⟩)
        · exact .inr ⟨r :: before, x, after, result, rfl, List.forall_mem_cons.2 ⟨hi, hb⟩, hd⟩

theorem calls_flatMap (w : Watch) (b : Buffer) (rounds : List Round) :
    Step.calls (rounds.flatMap fun x => (w.play b x).steps) = rounds.flatMap w.asked := by
  induction rounds with
  | nil => rfl
  | cons r rounds ih =>
      rw [List.flatMap_cons, List.flatMap_cons, ← ih, ← w.calls_play b r]
      exact List.filterMap_append

/-- The first round that decides fixes what comes of a wait, and the source is asked nothing after
it. Idle rounds, what the buffer held and rounds to come change nothing; and rounds that are all
idle leave the wait to the end of its time. -/
theorem first_decision (w : Watch) (rounds : List Round) :
    ((∀ x ∈ rounds, w.Idle x) ∨ ∃ before r after result, rounds = before ++ r :: after ∧
      (∀ x ∈ before, w.Idle x) ∧ w.Decides r result) ∧
    (∀ before r after result, rounds = before ++ r :: after → (∀ x ∈ before, w.Idle x) →
      w.Decides r result → (w.await rounds).result = result ∧
      w.await rounds = w.await (before ++ [r]) ∧
      Step.calls (w.await rounds).steps = (before ++ [r]).flatMap w.asked) ∧
    (∀ less, w.Thins rounds less → (w.await less).result = (w.await rounds).result) ∧
    (∀ b b', w.run b rounds = w.run b' rounds) ∧
    ((∀ x ∈ rounds, w.Idle x) → ∀ late, late.cancelled = false → w.timeout.nanos ≤ late.elapsed →
      (w.await (rounds ++ [late])).result = (w.await rounds).result) := by
  refine ⟨w.idle_or_decides rounds, ?_, fun less h => h.result_eq _, fun b b' => w.run_congr b b' _, ?_⟩
  · rintro before r after result rfl hb hd
    have h := run_append_of_decides hb hd .empty
    refine ⟨?_, ?_, ?_⟩
    · rw [await, h]
    · rw [await, await, h, h]
    · rw [await, h]
      exact w.calls_flatMap _ _
  · intro hall late hc he
    have h := run_append_of_idle hall .empty []
    rw [List.append_nil] at h
    rw [await, await, run_append_of_decides hall (.expired hc he), h]
    rfl

def loopback : Watch := ⟨.of .v4 .bare 1 0, .v4 ⟨127, 0, 0, 1⟩, ⟨.ofNat 2, by decide +kernel⟩⟩

def lull (elapsed : Nat) : Round := ⟨false, elapsed, .ok false, .ok none, .zero⟩

def stray : Round := ⟨false, 1, .ok true, .ok (some ⟨[], none⟩), .zero⟩

def stop : Round := ⟨true, 2, .ok false, .ok none, .zero⟩

theorem first_decision_loopback :
    (loopback.await [lull 0, stray, stop, lull 3]).result = .error .cancelled ∧
    Step.calls (loopback.await [lull 0, stray, stop, lull 3]).steps =
      [.wait slice, .wait slice, .receive room] ∧
    (loopback.await [stop, lull 3]).result = .error .cancelled ∧
    (loopback.await [lull 0, lull 2000000000]).result = (loopback.await [lull 0]).result := by
  have hlull : loopback.Idle (lull 0) := .silent ⟨rfl, by decide +kernel⟩ rfl
  have hstray : loopback.Idle stray :=
    .unrelated (d := ⟨[], none⟩) ⟨⟨rfl, by decide +kernel⟩, rfl, rfl, rfl⟩
  have hbefore : ∀ x ∈ [lull 0, stray], loopback.Idle x :=
    List.forall_mem_cons.2 ⟨hlull, List.forall_mem_singleton.2 hstray⟩
  obtain ⟨_, hfirst, hthins, _⟩ := loopback.first_decision [lull 0, stray, stop, lull 3]
  obtain ⟨hresult, _, hcalls⟩ := hfirst [lull 0, stray] stop [lull 3] _ rfl hbefore (.cancelled rfl)
  have hless := hthins [stop, lull 3] (.drop hlull (.drop hstray (.keep _ (.keep _ .nil))))
  have hlate := (loopback.first_decision [lull 0]).2.2.2.2
    (List.forall_mem_singleton.2 hlull) (lull 2000000000) rfl (by decide +kernel)
  exact ⟨hresult, hcalls.trans (by decide +kernel), hless.trans hresult, hlate⟩

end Watch

end HostProbe.Ping
