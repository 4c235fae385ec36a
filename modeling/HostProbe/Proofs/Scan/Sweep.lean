import HostProbe.Proofs.Port
import HostProbe.Proofs.Scan.Agreement
import HostProbe.Proofs.Scan.Summary
import HostProbe.Prober

namespace HostProbe.Scan

variable {σ : Type}

inductive Finding.Shaped (f : Finding) : Prop where
  | isOpen (status : f.status = .isOpen) (service : f.service = f.port.service?)
      (message : f.errorMessage = none)
  | closed (status : f.status = .closed) (service : f.service = none)
      (message : f.errorMessage = none)
  | filtered (status : f.status = .filtered) (service : f.service = none)
      (message : f.errorMessage.isSome = true)

namespace Connection

variable {c : Connection} {target : Address} {p : Port} {moment : Time.Stamp} {f : Finding}

theorem shaped_of_judge (h : c.judge target p moment = .ok f) : f.port = p ∧ f.Shaped := by
  cases judged_of_judge h with
  | isOpen => exact ⟨rfl, .isOpen rfl rfl rfl⟩
  | closed => exact ⟨rfl, .closed rfl rfl rfl⟩

theorem shaped_of_judgeAmong (h : c.judgeAmong target p moment = .ok f) :
    f.port = p ∧ f.Shaped := by
  have ha := agrees_of_judgeAmong h
  cases hj : c.judge target p moment with
  | ok g =>
      rw [hj] at ha
      cases ha
      exact shaped_of_judge hj
  | error e =>
      rw [hj] at ha
      cases ha
      exact ⟨rfl, .filtered rfl rfl rfl⟩

end Connection

/-- A scan finds something about each port of its list, in the order of the list. -/
theorem ListRequest.findings_of_run {r : ListRequest} {n : Network σ} {findings : List Finding}
    (h : (r.run n).1 = .ok findings) :
    findings.map Finding.port = r.ports ∧ ∀ f ∈ findings, f.Shaped := by
  have hr : 0 < r.maxConcurrent := by
    refine Nat.pos_of_ne_zero fun hz => ?_
    rw [run, if_pos hz] at h
    cases h
  obtain ⟨made, g, hg, hs, hp, he⟩ := exists_course_run n hr
  rw [he] at h
  obtain ⟨_, hlength, hsays⟩ := hg.says_of_ok hs hp h
  have hfound (place : Nat) (f : Finding) (hf : findings[place]? = some f) :
      r.ports[place]? = some f.port ∧ f.Shaped := by
    obtain ⟨p, c, hport, _, hj⟩ := hsays place f hf
    obtain ⟨rfl, hshape⟩ := Connection.shaped_of_judgeAmong hj
    exact ⟨hport, hshape⟩
  constructor
  · apply List.ext_getElem?
    intro place
    rw [List.getElem?_map]
    cases hf : findings[place]? with
    | none =>
        rw [List.getElem?_eq_none_iff, hlength] at hf
        exact (List.getElem?_eq_none hf).symm
    | some f => exact (hfound place f hf).1.symm
  · intro f hf
    obtain ⟨place, hplace⟩ := List.mem_iff_getElem?.1 hf
    exact (hfound place f hplace).2

def Network.following (n : Network σ) (older : List Entry) : Network σ :=
  { n with journal := n.journal ++ older }

namespace Gate

def following (g : Gate σ) (older : List Entry) : Gate σ :=
  { g with network := g.network.following older }

theorem land_following (g : Gate σ) (f : Flight) (older : List Entry) :
    (g.following older).land f = (g.land f).following older := by
  simp only [land, following, Network.following, Network.note, List.append_assoc]
  rfl

theorem depart_following (g : Gate σ) (job : Job) (older : List Entry) :
    (g.following older).depart job = (g.depart job).following older := by
  have hd : (g.following older).departure job = g.departure job := rfl
  rw [depart_eq, depart_eq, hd]
  split <;> rfl

theorem step?_following (g : Gate σ) (older : List Entry) :
    (g.following older).step? = g.step?.map fun t => t.following older := by
  have hf : (g.following older).failure? = g.failure? := rfl
  have hd : (g.following older).due = g.due := rfl
  rw [step?, step?, hf, hd]
  cases g.failure? with
  | some e => rfl
  | none =>
      cases g.due with
      | cons f due => exact congrArg some (land_following { g with due } f older)
      | nil =>
          have hw : (g.following older).waiting = g.waiting := rfl
          have hfree : (g.following older).free = g.free := rfl
          have hpass : (g.following older).next?.map (g.following older).pass =
              (g.next?.map g.pass).map fun t => t.following older := by
            rw [Option.map_map]
            rfl
          dsimp only
          rw [hw, hfree]
          cases g.waiting with
          | nil => exact hpass
          | cons job waiting =>
              cases g.free with
              | zero => exact hpass
              | succ free =>
                  exact congrArg some
                    (depart_following { g with waiting, free, due := [] } job older)

theorem run_following (g : Gate σ) (older : List Entry) :
    (g.following older).run = g.run.following older := by
  fun_induction run g with
  | case1 g hs =>
      apply run_of_step?_eq_none
      rw [step?_following, hs]
      rfl
  | case2 g t hs ih =>
      rw [← ih]
      exact run_eq_of_steps (.single (by rw [step?_following, hs]; rfl))

end Gate

theorem ListRequest.run_following (r : ListRequest) (n : Network σ) (older : List Entry) :
    r.run (n.following older) = ((r.run n).1, (r.run n).2.following older) := by
  have hg : (Gate.of r (n.following older)).run = (Gate.of r n).run.following older :=
    Gate.run_following (Gate.of r n) older
  unfold run
  split
  · rfl
  · rw [hg]
    rfl

/-- Notes in the journal of a network show only in its journal after a scan. -/
theorem ListRequest.exists_run_note (r : ListRequest) (n : Network σ) (entries : List Entry) :
    ∃ journal, r.run (n.note entries) = ((r.run n).1, { (r.run n).2 with journal }) := by
  have h : r.run n = _ := r.run_following { n with journal := [] } n.journal
  have hn : r.run (n.note entries) = _ :=
    r.run_following { n with journal := [] } (entries.reverse ++ n.journal)
  refine ⟨(r.run (n.note entries)).2.journal, ?_⟩
  rw [h, hn]
  rfl

namespace RangeRequest

theorem exists_run_eq (q : RangeRequest) (n : Network σ) : ∃ journal, q.run n =
    ((q.list.run n).1.map (q.summary n.moment n.clock (q.list.run n).2.clock),
      { (q.list.run n).2 with journal }) := by
  obtain ⟨journal, h⟩ := q.list.exists_run_note n [q.note]
  rw [run, h]
  cases (q.list.run n).1 with
  | error e => exact ⟨journal, rfl⟩
  | ok findings => exact ⟨_, rfl⟩

structure Sums (q : RangeRequest) (findings : List Finding) (s : Summary) : Prop where
  target : s.target = q.target.text
  label : s.portRange = toString q.range.first.number ++ "-" ++ toString q.range.last.number
  findings : s.findings = findings
  ports : s.findings.map (fun f => f.port.number) =
    List.range' q.range.first.number (q.range.last.number - q.range.first.number + 1)
  total : s.total.toNat = q.range.last.number - q.range.first.number + 1
  sum : s.isOpen.toNat + s.closed.toNat + s.filtered.toNat = s.total.toNat
  shaped : ∀ f ∈ s.findings, f.Shaped

theorem sums_summary {q : RangeRequest} {n : Network σ} {findings : List Finding}
    (h : (q.list.run n).1 = .ok findings) (moment : Nat → Time.Stamp) (start finish : Nat) :
    q.Sums findings (q.summary moment start finish findings) := by
  obtain ⟨hports, hshaped⟩ := ListRequest.findings_of_run h
  have hlength : findings.length = q.range.count := by
    rw [← List.length_map Finding.port, hports]
    exact q.range.length_ports
  have hlt : findings.length < 2 ^ 64 := by
    have hlast := q.range.last.bounded
    rw [hlength, PortRange.count]
    omega
  have hc := Summary.consistent_ofFindings q.target.text q.range.text (moment start)
    (moment finish) (Time.Span.ofNanos (finish - start)) hlt
  exact {
    target := rfl
    label := rfl
    findings := rfl
    ports := by
      have hnumbers := q.range.map_number_ports
      rw [show q.range.ports = findings.map Finding.port from hports.symm, List.map_map] at hnumbers
      exact hnumbers
    total := hc.total_eq.trans hlength
    sum := hc.sum_eq
    shaped := hshaped }

end RangeRequest

theorem CommonRequest.ranged_of (address : String) (timeout : Binary64) (maxConcurrent : Nat) :
    (of address timeout maxConcurrent).map ranged =
      RangeRequest.of address 1 1023 timeout maxConcurrent := by
  rw [of, RangeRequest.of]
  cases Address.parse address with
  | error why => rfl
  | ok target => cases Timeout.of timeout <;> rfl

theorem scanCommon_eq {m : Type → Type} [Monad m] {p : Prober m}
    (h : ∀ c, p.scanner.common c = p.scanner.range c.ranged) (address : String) (timeout : Binary64)
    (maxConcurrent : Nat) : p.scanCommon address timeout maxConcurrent =
      p.scanRange address 1 1023 timeout maxConcurrent := by
  rw [Prober.scanCommon, Prober.scanRange, ← CommonRequest.ranged_of]
  cases CommonRequest.of address timeout maxConcurrent with
  | error why => rfl
  | ok c => exact h c

/-- The scan of a range fails as the scan of its ports as a list does and otherwise gives the
summary of what that found, with one finding for each port of the range in increasing order. A scan
of the well-known ports is the scan of the range from 1 to 1023, on a network and for a prober whose
engine has no way of its own. -/
theorem range_agrees (q : RangeRequest) (n : Network σ) :
    q.list.ports.map Port.number =
      List.range' q.range.first.number (q.range.last.number - q.range.first.number + 1) ∧
    (∀ e, (q.run n).1 = .error e ↔ (q.list.run n).1 = .error e) ∧
    (∀ findings, (q.list.run n).1 = .ok findings → ∃ s,
      (q.run n).1 = .ok s ∧ q.Sums findings s ∧
      s = q.summary n.moment n.clock (q.list.run n).2.clock findings) ∧
    (∃ journal, (q.run n).2 = { (q.list.run n).2 with journal }) ∧
    (∀ target timeout range maxConcurrent, PortRange.ofNumbers 1 1023 = .ok range →
      (Scanner.onNetwork : Scanner (StateM (Network σ))).common ⟨target, timeout, maxConcurrent⟩ =
        RangeRequest.run ⟨target, range, timeout, maxConcurrent⟩) ∧
    ∀ {m : Type → Type} [Monad m] (p : Prober m) (maxConcurrent : Nat),
      (∀ c, p.scanner.common c = p.scanner.range c.ranged) →
      (∀ target timeout range, PortRange.ofNumbers 1 1023 = .ok range →
        p.scanner.common ⟨target, timeout, maxConcurrent⟩ =
          p.scanner.range ⟨target, range, timeout, maxConcurrent⟩) ∧
      ∀ address seconds,
        p.scanCommon address seconds maxConcurrent =
          p.scanRange address 1 1023 seconds maxConcurrent ∧
        ∀ target timeout, Address.parse address = .ok target → Timeout.of seconds = .ok timeout →
          p.scanCommon address seconds maxConcurrent =
            p.scanner.common ⟨target, timeout, maxConcurrent⟩ := by
  obtain ⟨journal, hrun⟩ := q.exists_run_eq n
  refine ⟨q.range.map_number_ports, ?_, ?_, ⟨journal, congrArg Prod.snd hrun⟩, ?_, ?_⟩
  · intro e
    rw [hrun]
    cases (q.list.run n).1 with
    | error e' => exact ⟨fun h => congrArg _ (Except.error.inj h), fun h => congrArg _ (Except.error.inj h)⟩
    | ok findings => exact ⟨nofun, nofun⟩
  · intro findings h
    refine ⟨_, ?_, RangeRequest.sums_summary h _ _ _, rfl⟩
    rw [hrun, h]
    rfl
  · intro target timeout range maxConcurrent hr
    cases hr
    rfl
  · intro m _ p maxConcurrent hp
    constructor
    · intro target timeout range hr
      cases hr
      exact hp _
    · intro address seconds
      refine ⟨scanCommon_eq hp address seconds maxConcurrent, fun target timeout ha ht => ?_⟩
      rw [Prober.scanCommon, CommonRequest.of, ha, ht]
      rfl

def RangeRequest.uppermost : RangeRequest where
  target := ListRequest.oneByOne.target
  range := ⟨⟨65534, by decide, by decide⟩, PortRange.all.last, by decide⟩
  timeout := ListRequest.oneByOne.timeout
  maxConcurrent := 1

theorem range_agrees_uppermost :
    (∃ s, (RangeRequest.uppermost.run Network.prompt).1 = .ok s ∧
      s.portRange = "65534-65535" ∧ s.total.toNat = 2 ∧
      s.findings.map (fun f => f.port.number) = [65534, 65535]) ∧
    ∀ p : Prober (StateM (Network Unit)), p.scanner = .onNetwork → ∃ range,
      p.scanCommon "127.0.0.1" (.ofNat 1) 5 =
        p.scanner.range ⟨ListRequest.oneByOne.target, range, ListRequest.oneByOne.timeout, 5⟩ := by
  obtain ⟨_, _, hsum, _, _, hcommon⟩ := range_agrees .uppermost Network.prompt
  constructor
  · obtain ⟨made, haccord⟩ :=
      ListRequest.exists_accord RangeRequest.uppermost.list .prompt (by decide)
    obtain ⟨findings, ho⟩ := haccord.ok_iff.2 (fun _ _ _ _ _ he => nomatch he)
    obtain ⟨s, hs, hq, -⟩ := hsum findings ho
    exact ⟨s, hs, hq.label, hq.total, hq.ports⟩
  · intro p hp
    obtain ⟨hengine, hprober⟩ := hcommon p 5 fun _ => by
      rw [hp]
      rfl
    have haddress : Address.parse "127.0.0.1" = .ok ListRequest.oneByOne.target := by decide +kernel
    have htimeout : Timeout.of (.ofNat 1) = .ok ListRequest.oneByOne.timeout := by decide +kernel
    refine ⟨.common, ?_⟩
    rw [(hprober _ _).2 _ _ haddress htimeout, hengine _ _ .common rfl]

end HostProbe.Scan
