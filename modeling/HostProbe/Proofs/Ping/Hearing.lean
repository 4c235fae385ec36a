import HostProbe.Proofs.Ping.Calls

namespace HostProbe.Ping

namespace Socket

theorem readable_of_isDenied {f : Fault} (h : f.isDenied = true) :
    readable (.error f) = .error f := by
  have hk : f.kind ≠ .interrupted := by simp [Fault.kind_of_isDenied h]
  exact if_neg hk

theorem eq_error_of_readable {poll : Except Fault Bool} {f : Fault} (h : readable poll = .error f) :
    poll = .error f := by
  cases poll with
  | ok b => cases h
  | error g =>
      rw [readable] at h
      split at h <;> cases h
      rfl

theorem eq_true_of_readable {poll : Except Fault Bool} (h : readable poll = .ok true) :
    poll = .ok true := by
  cases poll with
  | ok b => exact h
  | error g =>
      rw [readable] at h
      split at h <;> cases h

theorem received_of_isDenied {f : Fault} (h : f.isDenied = true) :
    received (.error f) = .error f := by
  have hn : f.isNothing ≠ true := by simp [Fault.isNothing, Fault.kind_of_isDenied h]
  exact if_neg hn

theorem eq_error_of_received {receive : Except Fault Datagram} {f : Fault}
    (h : received receive = .error f) : receive = .error f := by
  cases receive with
  | ok d => cases h
  | error g =>
      rw [received] at h
      split at h <;> cases h
      rfl

end Socket

namespace SystemRound

/-- A round asks for nothing once it is cancelled or out of time. It waits for what is left or a
slice, and receives when the system says that a datagram is there. -/
def asks (timeout : Timeout) (x : SystemRound) : List Call :=
  if x.cancelled ∨ timeout.nanos ≤ x.elapsed then []
  else .poll (Socket.pollMillis (min (timeout.nanos - x.elapsed) Watch.slice)) ::
    match x.poll with
    | .ok true => [.receive 4096]
    | _ => []

theorem eq_of_poll_mem_asks {timeout : Timeout} {x : SystemRound} {millis : Nat}
    (h : .poll millis ∈ x.asks timeout) : x.elapsed < timeout.nanos ∧
      millis = Socket.pollMillis (min (timeout.nanos - x.elapsed) Watch.slice) := by
  unfold asks at h
  split at h
  · cases h
  · next hasks =>
      refine ⟨Nat.not_le.1 fun hn => hasks (.inr hn), ?_⟩
      rcases List.mem_cons.1 h with h | h
      · exact Call.poll.inj h
      · split at h
        · cases List.mem_singleton.1 h
        · cases h

theorem map_asked (w : Watch) (x : SystemRound) :
    (w.asked x.round).map Socket.callOf = x.asks w.timeout := by
  have hready : x.round.ready = Socket.readable x.poll := rfl
  by_cases h : x.cancelled = true ∨ w.timeout.nanos ≤ x.elapsed
  · rw [asks, if_pos h, Watch.asked]
    exact congrArg (List.map _) (if_pos h)
  have hasked : ¬ (x.round.cancelled = true ∨ w.timeout.nanos ≤ x.round.elapsed) := h
  rw [asks, if_neg h, Watch.asked, if_neg hasked, hready]
  rcases hp : x.poll with f | _ | _
  · rcases hf : Socket.readable (.error f) with g | _ | _
    · rfl
    · rfl
    · cases Socket.eq_true_of_readable hf
  · rfl
  · rfl

/-- The rounds of a wait up to the one that decides it, if one does. -/
theorem idle_or_decides (w : Watch) (rounds : List SystemRound) :
    (∀ x ∈ rounds, w.Idle x.round) ∨ ∃ before last after result,
      rounds = before ++ last :: after ∧ (∀ x ∈ before, w.Idle x.round) ∧
        w.Decides last.round result := by
  rcases w.idle_or_decides (rounds.map round) with hall | ⟨before, last, after, result, he, hb, hd⟩
  · exact .inl (List.forall_mem_map.1 hall)
  · obtain ⟨before', rest, rfl, rfl, hrest⟩ := List.map_eq_append_iff.1 he
    obtain ⟨last', after', rfl, rfl, _⟩ := List.map_eq_cons_iff.1 hrest
    exact .inr ⟨before', last', after', result, rfl, List.forall_mem_map.1 hb, hd⟩

end SystemRound

/-- The rounds that a wait goes through: all of them, or those up to the first that decides. -/
inductive Watch.Hears (w : Watch) : List SystemRound → List SystemRound → Prop where
  | all {rounds : List SystemRound} (h : ∀ x ∈ rounds, w.Idle x.round) : Hears w rounds rounds
  | upTo {before after : List SystemRound} {last : SystemRound} {result : Except Failure Binary64}
      (hb : ∀ x ∈ before, w.Idle x.round) (hl : w.Decides last.round result) :
      Hears w (before ++ last :: after) (before ++ [last])

theorem Watch.Hears.subset {w : Watch} {rounds heard : List SystemRound} (h : w.Hears rounds heard) :
    heard ⊆ rounds := by
  cases h with
  | all h => exact List.Subset.refl _
  | @upTo before after last =>
      rw [List.append_cons before last after]
      exact List.subset_append_left _ _

theorem Watch.exists_hears (w : Watch) (rounds : List SystemRound) : ∃ heard, w.Hears rounds heard ∧
    Step.calls (w.await (rounds.map SystemRound.round)).steps =
      (heard.map SystemRound.round).flatMap w.asked := by
  rcases SystemRound.idle_or_decides w rounds with hall | ⟨before, last, after, result, rfl, hb, hd⟩
  · have hrun := run_append_of_idle (List.forall_mem_map.2 hall) .empty []
    rw [List.append_nil] at hrun
    refine ⟨rounds, .all hall, ?_⟩
    rw [await, hrun, Traced.after, run, List.append_nil, calls_flatMap]
  · refine ⟨_, .upTo hb hd, ?_⟩
    rw [await, List.map_append, List.map_cons,
      run_append_of_decides (List.forall_mem_map.2 hb) hd, calls_flatMap, List.map_append]
    rfl

namespace Request

variable (r : Request) (k : Conditions)

theorem exists_hearing_eq (mode : Icmp.Mode) : ∃ heard,
    (r.watch k (r.socket k mode)).Hears (k.rounds r.version (r.packet k)) heard ∧
      r.hearing k mode = heard.flatMap (SystemRound.asks r.timeout) := by
  obtain ⟨heard, hheard, hcalls⟩ :=
    (r.watch k (r.socket k mode)).exists_hears (k.rounds r.version (r.packet k))
  refine ⟨heard, hheard, ?_⟩
  rw [hearing, waited, hcalls, List.map_flatMap, List.flatMap_map]
  exact congrArg (heard.flatMap ·) (funext fun x => SystemRound.map_asked _ x)

theorem result_waited {mode : Icmp.Mode} {before after : List SystemRound} {last : SystemRound}
    {result : Except Failure Binary64}
    (hr : k.rounds r.version (r.packet k) = before ++ last :: after)
    (hb : ∀ x ∈ before, (r.watch k (r.socket k mode)).Idle x.round)
    (hl : (r.watch k (r.socket k mode)).Decides last.round result) :
    (r.waited k mode).result = result := by
  rw [waited, hr, List.map_append, List.map_cons, Watch.await,
    Watch.run_append_of_decides (List.forall_mem_map.2 hb) hl]

theorem result_waited_of_idle {mode : Icmp.Mode}
    (h : ∀ x ∈ k.rounds r.version (r.packet k), (r.watch k (r.socket k mode)).Idle x.round) :
    (r.waited k mode).result = .error (.timeout r.timeout.seconds) := by
  have hrun := Watch.run_append_of_idle (List.forall_mem_map.2 h) .empty []
  rw [List.append_nil] at hrun
  rw [waited, Watch.await, hrun]
  rfl

end Request

end HostProbe.Ping
