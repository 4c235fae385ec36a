import HostProbe.Proofs.Scan.Traffic
import HostProbe.Prober

namespace HostProbe.Scan

variable {σ : Type}

namespace Traffic

structure Within (limit : Nat) (t : Traffic σ) : Prop where
  inFlight_le_out : t.inFlight ≤ t.out
  out_le : t.out ≤ limit
  out_eq : t.out = t.boarding.length + t.inFlight
  taken_eq : t.taken.length = t.returned.length + t.out
  count_le (place : Nat) : t.returned.count place ≤ t.taken.count place ∧ t.taken.count place ≤ 1
  ended_once : ∀ place ∈ t.ended, t.returned.count place = 1
  inFlight_le_peak : t.inFlight ≤ t.gate.network.peak

theorem Balanced.within {permits most limit : Nat} {t : Traffic σ} (h : t.Balanced permits most)
    (hl : permits ≤ limit) : t.Within limit := by
  have hfree := h.free_add_holding
  have hcap := h.capacity
  have hbal := h.balance
  have hlength := t.length_holding
  have hout : t.out = t.boarding.length + t.inFlight := by
    rw [out]
    omega
  have htaken : t.taken.Nodup := (List.nodup_append.1 h.once).1
  have hcount (place : Nat) : t.taken.count place =
      t.holding.count place + t.returned.count place := by
    rw [h.holders.count_eq, List.count_append]
  exact {
    inFlight_le_out := hout ▸ Nat.le_add_left _ _
    out_le := Nat.le_trans (Nat.sub_le _ _) (hcap ▸ hl)
    out_eq := hout
    taken_eq := by
      rw [hout]
      omega
    count_le := by
      intro place
      exact ⟨hcount place ▸ Nat.le_add_left _ _, List.nodup_iff_count.1 htaken place⟩
    ended_once := by
      intro place hp
      have hpos := List.count_pos_iff.2 (h.ended hp)
      have hone := List.nodup_iff_count.1 htaken place
      rw [hcount] at hone
      omega
    inFlight_le_peak := h.peak_ge }

end Traffic

/-- A gate that keeps a limit, on any schedule and so in its own steps. -/
structure Gate.Keeps (limit : Nat) (g : Gate σ) : Prop where
  within {t : Traffic σ} (h : Traffic.Reaches (.of g) t) : t.Within limit
  scheduled {u : Gate σ} (h : Relation.ReflTransGen (fun s t => s.step? = some t) g u) :
    ∃ t, Traffic.Reaches (.of g) t ∧ t.gate = u

theorem ListRequest.keeps (r : ListRequest) (n : Network σ) :
    (Gate.of r n).Keeps r.maxConcurrent where
  within h := (Traffic.balanced_of_reaches h).within (Gate.permitsFor_le _ _)
  scheduled h := by
    obtain ⟨t, ht, hg, _⟩ := Traffic.exists_reaches_of_steps h
    exact ⟨t, ht, hg⟩

theorem ListRequest.peak_run_le (r : ListRequest) (n : Network σ) :
    (r.run n).2.peak ≤ max n.peak r.maxConcurrent := by
  unfold run
  split
  · exact Nat.le_max_left _ _
  · obtain ⟨t, ht, hg, _⟩ := Traffic.exists_reaches_run (Gate.of r n)
    have hp := (Traffic.balanced_of_reaches ht).peak_le
    have hl := Gate.permitsFor_le r.maxConcurrent r.ports.length
    rw [hg] at hp
    change (Gate.of r n).run.network.peak ≤ _
    omega

theorem RangeRequest.peak_run_le (q : RangeRequest) (n : Network σ) :
    (q.run n).2.peak ≤ max n.peak q.maxConcurrent := by
  have h := q.list.peak_run_le (n.note [q.note])
  unfold run
  split
  · next e after he =>
      rw [he] at h
      exact h
  · next findings after he =>
      rw [he] at h
      exact h

theorem CommonRequest.maxConcurrent_of {address : String} {timeout : Binary64} {limit : Nat}
    {c : CommonRequest} (h : of address timeout limit = .ok c) : c.maxConcurrent = limit := by
  rw [of] at h
  cases ha : Address.parse address with
  | error why =>
      rw [ha] at h
      cases h
  | ok target =>
      cases ht : Timeout.of timeout with
      | error why =>
          rw [ha, ht] at h
          cases h
      | ok timeout =>
          rw [ha, ht] at h
          cases h
          rfl

/-- The limit of a scan holds at every moment of it, for lists, ranges and the well-known ports
alike. The marks that a network keeps of the attempts at once show no more. -/
theorem attempts_within_limit (n : Network σ) :
    (∀ r : ListRequest, (Gate.of r n).Keeps r.maxConcurrent ∧
      (r.run n).2.peak ≤ max n.peak r.maxConcurrent) ∧
    (∀ q : RangeRequest, (Gate.of q.list (n.note [q.note])).Keeps q.maxConcurrent ∧
      (q.run n).2.peak ≤ max n.peak q.maxConcurrent) ∧
    ∀ (address : String) (timeout : Binary64) (limit : Nat),
      (∀ c, CommonRequest.of address timeout limit = .ok c →
        (Gate.of c.ranged.list (n.note [c.ranged.note])).Keeps limit) ∧
      ∀ pinger settings, (Prober.scanCommon ⟨pinger, Scanner.onNetwork, settings⟩
        address timeout limit n).2.peak ≤ max n.peak limit := by
  refine ⟨fun r => ⟨r.keeps n, r.peak_run_le n⟩, fun q => ⟨q.list.keeps _, q.peak_run_le n⟩, ?_⟩
  intro address timeout limit
  constructor
  · intro c hc
    rw [← CommonRequest.maxConcurrent_of hc]
    exact c.ranged.list.keeps _
  · intro pinger settings
    unfold Prober.scanCommon
    cases hc : CommonRequest.of address timeout limit with
    | error why => exact Nat.le_max_left _ _
    | ok c =>
        rw [← CommonRequest.maxConcurrent_of hc]
        exact c.ranged.peak_run_le n

/-- The first of the two ports may be denied and the second tried after it, with one permit. -/
theorem attempts_within_limit_oneByOne :
    (∃ t : Traffic Unit, Traffic.Reaches (.of (Gate.of .oneByOne .prompt)) t ∧
      t.ended = [0] ∧ t.gate.failure? = some (.permission "permission denied") ∧ t.inFlight = 1 ∧
      t.Within 1) ∧
    (∃ u t, (Gate.of .oneByOne Network.prompt).step? = some u ∧
      Traffic.Reaches (.of (Gate.of .oneByOne .prompt)) t ∧ t.gate = u) ∧
    ∃ c, CommonRequest.of "127.0.0.1" (.ofNat 1) 1 = .ok c ∧
      (Gate.of c.ranged.list (Network.prompt.note [c.ranged.note])).Keeps 1 := by
  obtain ⟨hlist, _, hcommon⟩ := attempts_within_limit Network.prompt
  refine ⟨?_, ?_, ?_⟩
  · have h : Traffic.Reaches (.of (Gate.of .oneByOne Network.prompt)) _ :=
      ((((Relation.ReflTransGen.refl.tail (@Traffic.Move.take _ _ [] _ _ _ rfl rfl)).tail
        (@Traffic.Move.start _ _ [] _ _ rfl)).tail
        (@Traffic.Move.finish _ _ [] [] [] [] _ (.error (.bare .permissionDenied)) rfl rfl)).tail
        (@Traffic.Move.take _ _ [] _ _ _ rfl rfl)).tail
        (@Traffic.Move.start _ _ [] _ _ rfl)
    exact ⟨_, h, rfl, rfl, rfl, (hlist .oneByOne).1.within h⟩
  · have hs : (Gate.of .oneByOne Network.prompt).step? = some _ := rfl
    obtain ⟨t, ht, hu⟩ := (hlist .oneByOne).1.scheduled (.single hs)
    exact ⟨_, t, hs, ht, hu⟩
  · have hok : (CommonRequest.of "127.0.0.1" (.ofNat 1) 1).isOk = true := by decide +kernel
    cases hc : CommonRequest.of "127.0.0.1" (.ofNat 1) 1 with
    | error why =>
        rw [hc] at hok
        cases hok
    | ok c => exact ⟨c, rfl, (hcommon _ _ 1).1 c hc⟩

end HostProbe.Scan
