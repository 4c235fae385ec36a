import HostProbe.Proofs.Ping.Watch
import Mathlib.Algebra.Order.Floor.Div
import Mathlib.GroupTheory.GroupAction.Ring

namespace HostProbe.Ping

/-- A source of datagrams, with the clocks beside it and the sign by which a wait is cancelled. The
state holds all that changes while the wait goes on; the time elapsed is in nanoseconds, as is that
for which the source is asked to wait. -/
structure Source (σ : Type) where
  elapsed : σ → Nat
  cancelled : σ → Bool
  clock : σ → Binary64
  wait : σ → Nat → Except Fault Bool × σ
  receive : σ → Nat → Except Fault (Option Datagram) × σ

namespace Watch

variable (w : Watch) {r : Round}

theorem wait_pos {elapsed : Nat} (h : elapsed < w.timeout.nanos) : 0 < w.wait elapsed := by
  have hs : 0 < slice := by decide
  unfold wait
  omega

theorem wait_le_slice (elapsed : Nat) : w.wait elapsed ≤ slice := Nat.min_le_right _ _

theorem add_wait_le {elapsed : Nat} (h : elapsed < w.timeout.nanos) :
    elapsed + w.wait elapsed ≤ w.timeout.nanos := by
  unfold wait
  omega

theorem Idle.asks {w : Watch} (h : w.Idle r) : w.Asks r := by
  cases h with
  | silent h _ => exact h
  | nothing h _ _ => exact h
  | unrelated h => exact h.toAsks

theorem asked_cases (r : Round) : w.asked r = [] ∧ ¬ w.Asks r ∨ w.Asks r ∧
    (w.asked r = [.wait (w.wait r.elapsed)] ∨
      w.asked r = [.wait (w.wait r.elapsed), .receive room]) := by
  unfold asked
  split
  · next h =>
      refine .inl ⟨rfl, fun ha => ?_⟩
      rcases h with hc | he
      · exact Bool.eq_false_iff.1 ha.cancelled hc
      · exact Nat.not_lt.2 he ha.elapsed
  · next h =>
      obtain ⟨hc, he⟩ := not_or.1 h
      refine .inr ⟨⟨Bool.eq_false_iff.2 hc, Nat.lt_of_not_le he⟩, ?_⟩
      split
      · exact .inr rfl
      · exact .inl rfl

theorem asked_prefix (r : Round) : w.asked r <+: [.wait (w.wait r.elapsed), .receive room] := by
  rcases w.asked_cases r with ⟨h, _⟩ | ⟨_, h | h⟩
  · rw [h]
    exact List.nil_prefix
  · rw [h]
    exact ⟨[.receive room], rfl⟩
  · rw [h]

theorem eq_wait_of_mem_asked {w : Watch} {nanos : Nat} (h : .wait nanos ∈ w.asked r) :
    nanos = w.wait r.elapsed ∧ w.Asks r := by
  rcases w.asked_cases r with ⟨hn, _⟩ | ⟨ha, _⟩
  · rw [hn] at h
    cases h
  · rcases List.mem_cons.1 ((w.asked_prefix r).subset h) with he | h
    · exact ⟨SourceCall.wait.inj he, ha⟩
    · cases List.mem_singleton.1 h

/-- What some rounds ask is asked first when others follow, and after it what those ask or nothing.
-/
theorem exists_calls_append (rounds more : List Round) : ∃ tail,
    Step.calls (w.await (rounds ++ more)).steps = Step.calls (w.await rounds).steps ++ tail ∧
      (tail = [] ∨ tail = Step.calls (w.await more).steps) := by
  rcases w.idle_or_decides rounds with hall | ⟨before, r, after, result, rfl, hb, hd⟩
  · have hrounds := run_append_of_idle hall .empty []
    rw [List.append_nil] at hrounds
    refine ⟨_, ?_, .inr rfl⟩
    rw [await, await, await, run_append_of_idle hall, hrounds]
    simp only [Traced.after, Step.calls, run, List.filterMap_append, List.append_nil]
  · refine ⟨[], ?_, .inl rfl⟩
    rw [List.append_nil, List.append_assoc, List.cons_append, await, await,
      run_append_of_decides hb hd, run_append_of_decides hb hd]

theorem calls_await_cancelled (h : r.cancelled = true) (rounds : List Round) :
    Step.calls (w.await (r :: rounds)).steps = [] := by
  rw [await, run_of_decides (.cancelled h), w.calls_play, asked, if_pos (.inl h)]

theorem calls_await_singleton (r : Round) : Step.calls (w.await [r]).steps = w.asked r := by
  rw [← w.calls_play .empty r]
  rcases w.decides_or_idle r with ⟨result, hd⟩ | hi
  · rw [await, run_of_decides hd]
  · rw [await, run_of_idle hi, run, Traced.after, List.append_nil]

theorem Decides.of_timeout {w : Watch} {x : Binary64} (h : w.Decides r (.error (.timeout x))) :
    x = w.timeout.seconds ∧ w.timeout.nanos ≤ r.elapsed := by
  generalize he : Except.error (Failure.timeout x) = result at h
  -- The mapping of faults makes no timeout.
  have hf (doing : String) (f : Fault) : Failure.timeout x ≠ .ofFault doing f := by
    unfold Failure.ofFault
    dsimp only
    split
    · exact Failure.noConfusion
    · split <;> exact Failure.noConfusion
  cases h with
  | expired _ hr => exact ⟨by cases he; rfl, hr⟩
  | waitFailed _ _ => exact absurd (Except.error.inj he) (hf _ _)
  | receiveFailed _ _ _ => exact absurd (Except.error.inj he) (hf _ _)
  | cancelled | echoReply | timeExceeded | unreachable => cases he

end Watch

namespace Source

variable {σ : Type} (src : Source σ) (w : Watch)

def round (s : σ) : Round where
  cancelled := src.cancelled s
  elapsed := src.elapsed s
  ready := (src.wait s (w.wait (src.elapsed s))).1
  received := (src.receive (src.wait s (w.wait (src.elapsed s))).2 Watch.room).1
  clock := src.clock (src.receive (src.wait s (w.wait (src.elapsed s))).2 Watch.room).2

def answered (s : σ) : SourceCall → σ
  | .wait nanos => (src.wait s nanos).2
  | .receive room => (src.receive s room).2

def next (s : σ) : σ := (w.asked (src.round w s)).foldl src.answered s

def state (s : σ) (n : Nat) : σ := (src.next w)^[n] s

def rounds : σ → Nat → List Round
  | _, 0 => []
  | s, n + 1 => src.round w s :: rounds (src.next w s) n

def Reaches (s : σ) (n : Nat) : Prop := ∀ r ∈ src.rounds w s n, w.Idle r

structure Ends (s : σ) (n : Nat) (result : Except Failure Binary64) : Prop where
  reaches : src.Reaches w s n
  decides : w.Decides (src.round w (src.state w s n)) result

def calls (s : σ) (n : Nat) : List SourceCall := Step.calls (w.await (src.rounds w s n)).steps

/-- It waits no longer than it is told to, and nothing else takes any time. -/
structure Punctual : Prop where
  wait_le (s : σ) (nanos : Nat) : src.elapsed (src.wait s nanos).2 ≤ src.elapsed s + nanos
  receive_eq (s : σ) (room : Nat) : src.elapsed (src.receive s room).2 = src.elapsed s

structure Takes (d : Nat) : Prop where
  wait_ge (s : σ) {nanos : Nat} (h : 0 < nanos) :
    src.elapsed s + d ≤ src.elapsed (src.wait s nanos).2
  receive_ge (s : σ) (room : Nat) : src.elapsed s ≤ src.elapsed (src.receive s room).2

variable {src w} {s : σ} {n : Nat}

theorem state_succ : src.state w s (n + 1) = src.next w (src.state w s n) :=
  Function.iterate_succ_apply' _ _ _

theorem rounds_add (s : σ) (n k : Nat) :
    src.rounds w s (n + k) = src.rounds w s n ++ src.rounds w (src.state w s n) k := by
  induction n generalizing s with
  | zero =>
      rw [Nat.zero_add]
      rfl
  | succ n ih =>
      rw [Nat.succ_add, rounds, rounds, ih, List.cons_append]
      rfl

theorem Reaches.succ (h : src.Reaches w s n) (hi : w.Idle (src.round w (src.state w s n))) :
    src.Reaches w s (n + 1) := by
  intro r hr
  rw [rounds_add] at hr
  rcases List.mem_append.1 hr with hr | hr
  · exact h r hr
  · rw [List.mem_singleton.1 hr]
    exact hi

theorem exists_ends_or_reaches (n : Nat) :
    (∃ k < n, ∃ result, src.Ends w s k result) ∨ src.Reaches w s n := by
  induction n with
  | zero => exact .inr (List.forall_mem_nil _)
  | succ n ih =>
      rcases ih with ⟨k, hk, hends⟩ | hreach
      · exact .inl ⟨k, Nat.lt_succ_of_lt hk, hends⟩
      · rcases w.decides_or_idle (src.round w (src.state w s n)) with ⟨result, hd⟩ | hi
        · exact .inl ⟨n, Nat.lt_succ_self n, result, hreach, hd⟩
        · exact .inr (hreach.succ hi)

theorem exists_ends (h : w.timeout.nanos ≤ src.elapsed (src.state w s n)) :
    ∃ k ≤ n, ∃ result, src.Ends w s k result := by
  rcases exists_ends_or_reaches n with ⟨k, hk, hends⟩ | hreach
  · exact ⟨k, Nat.le_of_lt hk, hends⟩
  · rcases w.decides_or_idle (src.round w (src.state w s n)) with ⟨result, hd⟩ | hi
    · exact ⟨n, Nat.le_refl n, result, hreach, hd⟩
    · exact absurd hi.asks.elapsed (Nat.not_lt.2 h)

theorem Ends.await_eq {result : Except Failure Binary64} (h : src.Ends w s n result) (k : Nat) :
    (w.await (src.rounds w s (n + 1 + k))).result = result := by
  rw [rounds_add, rounds_add, List.append_assoc]
  exact congrArg Traced.result (Watch.run_append_of_decides h.reaches h.decides .empty _)

theorem Punctual.elapsed_next_le (h : src.Punctual) (s : σ) :
    src.elapsed (src.next w s) ≤ max (src.elapsed s) w.timeout.nanos := by
  rcases w.asked_cases (src.round w s) with ⟨hn, _⟩ | ⟨ha, hn⟩
  · rw [next, hn]
    exact Nat.le_max_left _ _
  · have hwait := h.wait_le s (w.wait (src.elapsed s))
    have hleft := w.add_wait_le ha.elapsed
    have hwaited : src.elapsed (src.wait s (w.wait (src.elapsed s))).2 ≤ w.timeout.nanos :=
      Nat.le_trans hwait hleft
    refine Nat.le_trans ?_ (Nat.le_max_right _ _)
    rcases hn with hn | hn
    · rw [next, hn]
      exact hwaited
    · rw [next, hn]
      exact Nat.le_trans (Nat.le_of_eq (h.receive_eq _ _)) hwaited

theorem Punctual.elapsed_state_le (h : src.Punctual) (s : σ) (n : Nat) :
    src.elapsed (src.state w s n) ≤ max (src.elapsed s) w.timeout.nanos := by
  induction n with
  | zero => exact Nat.le_max_left _ _
  | succ n ih =>
      have hnext := h.elapsed_next_le (w := w) (src.state w s n)
      rw [state_succ]
      omega

theorem Takes.elapsed_next_ge {d : Nat} (h : src.Takes d) (ha : w.Asks (src.round w s)) :
    src.elapsed s + d ≤ src.elapsed (src.next w s) := by
  have hwait := h.wait_ge s (w.wait_pos ha.elapsed)
  rcases w.asked_cases (src.round w s) with ⟨_, hn⟩ | ⟨_, hn | hn⟩
  · exact absurd ha hn
  · rw [next, hn]
    exact hwait
  · rw [next, hn]
    exact Nat.le_trans hwait (h.receive_ge _ _)

theorem Takes.add_mul_le_elapsed {d : Nat} (h : src.Takes d) (hr : src.Reaches w s n) :
    src.elapsed s + n * d ≤ src.elapsed (src.state w s n) := by
  induction n with
  | zero => rw [Nat.zero_mul]; exact Nat.le_refl _
  | succ n ih =>
      unfold Reaches at hr
      rw [rounds_add] at hr
      obtain ⟨hbefore, hlast⟩ := List.forall_mem_append.1 hr
      have hidle : w.Idle (src.round w (src.state w s n)) := hlast _ List.mem_cons_self
      have hnext := h.elapsed_next_ge hidle.asks
      have hsofar := ih hbefore
      rw [state_succ, Nat.succ_mul]
      omega

theorem Takes.exists_ends {d : Nat} (h : src.Takes d) (hd : 0 < d) (s : σ) :
    ∃ n ≤ w.timeout.nanos ⌈/⌉ d, ∃ result, src.Ends w s n result := by
  rcases exists_ends_or_reaches (w.timeout.nanos ⌈/⌉ d) with ⟨k, hk, hends⟩ | hreach
  · exact ⟨k, Nat.le_of_lt hk, hends⟩
  · -- So many idle rounds would have used up the time.
    have hused := h.add_mul_le_elapsed hreach
    refine Source.exists_ends (Nat.le_trans ?_ (Nat.le_trans (Nat.le_add_left _ _) hused))
    rw [Nat.mul_comm]
    exact (ceilDiv_le_iff_le_mul hd).1 (Nat.le_refl _)

theorem exists_calls_of_cancelled (h : src.cancelled (src.state w s (n + 1)) = true) (k : Nat) :
    ∃ tail, src.calls w s (n + k) = src.calls w s n ++ tail ∧
      tail <+: [.wait (w.wait (src.elapsed (src.state w s n))), .receive Watch.room] := by
  obtain ⟨tail, htail, hmore⟩ :=
    w.exists_calls_append (src.rounds w s n) (src.rounds w (src.state w s n) k)
  rw [← rounds_add] at htail
  refine ⟨tail, htail, ?_⟩
  rcases hmore with rfl | rfl
  · exact List.nil_prefix
  cases k with
  | zero => exact List.nil_prefix
  | succ k =>
      obtain ⟨rest, hrest, hnone⟩ := w.exists_calls_append [src.round w (src.state w s n)]
        (src.rounds w (src.next w (src.state w s n)) k)
      -- The sign is there before the next round, which asks nothing.
      have hsilent : Step.calls (w.await (src.rounds w (src.next w (src.state w s n)) k)).steps =
          [] := by
        cases k with
        | zero => rfl
        | succ k => exact w.calls_await_cancelled (state_succ ▸ h) _
      rw [hsilent, or_self] at hnone
      rw [hnone, List.append_nil, w.calls_await_singleton] at hrest
      exact hrest ▸ w.asked_prefix _

/-- However a source behaves, no round asks it to wait for nothing, for longer than a slice or for
longer than what is left of the time. So the time does not run past the budget on a source that
keeps to that, and the wait does not outlast it. A time that is up is reported only when it is; a
cancelled wait asks no more than its last round does; and on a source that takes some time for every
wait the rounds, counted from 0, are few. -/
theorem await_within_budget (src : Source σ) (w : Watch) (s : σ) :
    (∀ n b nanos, .wait nanos ∈ Step.calls (w.play b (src.round w (src.state w s n))).steps →
      0 < nanos ∧ nanos ≤ Watch.slice ∧
        src.elapsed (src.state w s n) + nanos ≤ w.timeout.nanos) ∧
    (src.Punctual → ∀ n, src.elapsed (src.state w s n) ≤ max (src.elapsed s) w.timeout.nanos ∧
      (w.timeout.nanos ≤ src.elapsed (src.state w s n) →
        ∃ k ≤ n, ∃ result, src.Ends w s k result)) ∧
    (∀ n x, src.Ends w s n (.error (.timeout x)) →
      x = w.timeout.seconds ∧ w.timeout.nanos ≤ src.elapsed (src.state w s n)) ∧
    (src.cancelled s = true → ∀ k, src.calls w s k = []) ∧
    (∀ n, src.cancelled (src.state w s (n + 1)) = true → ∀ k, ∃ tail,
      src.calls w s (n + k) = src.calls w s n ++ tail ∧
        tail <+: [.wait (w.wait (src.elapsed (src.state w s n))), .receive Watch.room]) ∧
    (∀ d, 0 < d → src.Takes d → ∃ n ≤ w.timeout.nanos ⌈/⌉ d, ∃ result, src.Ends w s n result) ∧
    ∀ n result, src.Ends w s n result →
      ∀ k, (w.await (src.rounds w s (n + 1 + k))).result = result := by
  refine ⟨?_, ?_, ?_, ?_, ?_, ?_, ?_⟩
  · intro n b nanos h
    rw [w.calls_play] at h
    obtain ⟨rfl, ha⟩ := Watch.eq_wait_of_mem_asked h
    exact ⟨w.wait_pos ha.elapsed, w.wait_le_slice _, w.add_wait_le ha.elapsed⟩
  · intro h n
    exact ⟨h.elapsed_state_le s n, exists_ends⟩
  · intro n x h
    exact h.decides.of_timeout
  · intro h k
    cases k with
    | zero => rfl
    | succ k => exact w.calls_await_cancelled h _
  · intro n h k
    exact exists_calls_of_cancelled h k
  · intro d hd h
    exact h.exists_ends hd s
  · intro n result h k
    exact h.await_eq k

/-- A source that delivers an empty datagram again and again, two milliseconds after it is asked or
at the end of a shorter wait. The wait on it is cancelled after so many nanoseconds. -/
def flood (stop : Nat) : Source Nat where
  elapsed := id
  cancelled := fun s => decide (stop ≤ s)
  clock := fun _ => .zero
  wait := fun s nanos => (.ok true, s + min nanos 2000000)
  receive := fun s _ => (.ok (some ⟨[], none⟩), s)

theorem punctual_flood (stop : Nat) : (flood stop).Punctual where
  wait_le := fun _ _ => Nat.add_le_add_left (Nat.min_le_left _ _) _
  receive_eq := fun _ _ => rfl

theorem takes_flood (stop : Nat) : (flood stop).Takes 1 where
  wait_ge := fun s nanos h => Nat.add_le_add_left (Nat.le_min.2 ⟨h, by decide⟩) s
  receive_ge := fun s _ => Nat.le_refl s

def brief : Watch := ⟨.of .v4 .bare 1 0, .v4 ⟨127, 0, 0, 1⟩, ⟨⟨0x3f70000000000000⟩, by decide +kernel⟩⟩

theorem await_within_budget_flood :
    (flood 4000000).Ends brief 0 2 (.error (.timeout brief.timeout.seconds)) ∧
    brief.timeout.nanos ≤ (flood 4000000).elapsed ((flood 4000000).state brief 0 2) ∧
    (flood 4000000).elapsed ((flood 4000000).state brief 0 3) ≤ brief.timeout.nanos ∧
    (brief.await ((flood 4000000).rounds brief 0 100)).result =
      .error (.timeout brief.timeout.seconds) ∧
    (∃ n ≤ brief.timeout.nanos ⌈/⌉ 1, ∃ result, (flood 4000000).Ends brief 0 n result) ∧
    (∃ tail, (flood 2000000).calls brief 0 100 = (flood 2000000).calls brief 0 0 ++ tail ∧
      tail <+: [.wait (brief.wait 0), .receive Watch.room]) ∧
    (flood 0).calls brief 0 100 = [] := by
  have hends : (flood 4000000).Ends brief 0 2 (.error (.timeout brief.timeout.seconds)) := by
    refine ⟨?_, .expired (by decide +kernel) (by decide +kernel)⟩
    refine List.forall_mem_cons.2 ⟨?_, List.forall_mem_singleton.2 ?_⟩
    · exact .unrelated (d := ⟨[], none⟩) ⟨⟨by decide +kernel, by decide +kernel⟩, rfl, rfl, rfl⟩
    · exact .unrelated (d := ⟨[], none⟩) ⟨⟨by decide +kernel, by decide +kernel⟩, rfl, rfl, rfl⟩
  obtain ⟨_, hpunctual, htimeout, _, _, htakes, hawait⟩ :=
    await_within_budget (flood 4000000) brief 0
  obtain ⟨_, _, _, _, hcancelled, _⟩ := await_within_budget (flood 2000000) brief 0
  obtain ⟨_, _, _, hstopped, _⟩ := await_within_budget (flood 0) brief 0
  refine ⟨hends, (htimeout 2 _ hends).2, ?_, hawait 2 _ hends 97, ?_, ?_, ?_⟩
  · have hmax := (hpunctual (punctual_flood _) 3).1
    exact Nat.le_trans hmax (by decide +kernel)
  · exact htakes 1 (by decide) (takes_flood _)
  · exact hcancelled 0 (by decide +kernel) 100
  · exact hstopped rfl 100

end Source

end HostProbe.Ping
