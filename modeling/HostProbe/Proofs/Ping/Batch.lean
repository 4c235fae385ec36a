import HostProbe.Ping.Batch
import HostProbe.Proofs.Fanout.Group
import HostProbe.Proofs.Ping.Watch

namespace HostProbe.Ping

namespace Request

variable {r : Request} {outcome : Except Failure Result}

def entry (r : Request) : Except Failure Result → Result
  | .ok result => result
  | .error e => Result.ofFailure e r.hops (some r.packetSize.word)

theorem contribute_eq_ok {result : Result} (h : (r.contribute outcome).2 = .ok result) :
    result = r.entry outcome := by
  cases outcome with
  | ok x =>
      cases h
      rfl
  | error e =>
      rw [contribute] at h
      split at h
      · cases h
      · cases h
        rfl

theorem contribute_eq_error_iff {e : Failure} :
    (r.contribute outcome).2 = .error e ↔ outcome = .error e ∧ e.isFatal = true := by
  cases outcome with
  | ok x => simp [contribute]
  | error f =>
      by_cases hf : f.isFatal = true
      · simp only [contribute, if_pos hf, Except.error.injEq]
        constructor
        · rintro rfl
          exact ⟨rfl, hf⟩
        · exact And.left
      · simp only [contribute, if_neg hf, Except.error.injEq, reduceCtorEq, false_iff]
        rintro ⟨rfl, he⟩
        exact hf he

end Request

namespace BatchRequest

variable {b : BatchRequest} {met : Nat → Except Failure Result}

def jobs (b : BatchRequest) (met : Nat → Except Failure Result) : List (Except Failure Result) :=
  b.each.mapIdx fun place r => (r.contribute (met place)).2

abbrev Scheduled (b : BatchRequest) (met : Nat → Except Failure Result)
    (g : Fanout.Group Failure Result) : Prop := Fanout.Group.Reaches (.of (b.jobs met)) g

theorem length_each (b : BatchRequest) : b.each.length = b.destinations.length := by simp [each]

theorem length_jobs (b : BatchRequest) (met : Nat → Except Failure Result) :
    (b.jobs met).length = b.destinations.length := by simp [jobs, each]

theorem getElem?_jobs (place : Nat) :
    (b.jobs met)[place]? = b.each[place]?.map fun r => (r.contribute (met place)).2 := by
  simp [jobs]

theorem error_mem_jobs_iff {e : Failure} : .error e ∈ b.jobs met ↔
    ∃ place r, b.each[place]? = some r ∧ met place = .error e ∧ e.isFatal = true := by
  rw [List.mem_iff_getElem?]
  constructor
  · rintro ⟨place, hp⟩
    rw [getElem?_jobs, Option.map_eq_some_iff] at hp
    obtain ⟨r, hr, he⟩ := hp
    exact ⟨place, r, hr, Request.contribute_eq_error_iff.1 he⟩
  · rintro ⟨place, r, hr, he⟩
    refine ⟨place, ?_⟩
    rw [getElem?_jobs, hr]
    exact congrArg some (Request.contribute_eq_error_iff.2 he)

structure Ends (b : BatchRequest) (met : Nat → Except Failure Result) (started : List Nat)
    (result : Except Failure (List Result)) : Prop where
  ok_iff : (∃ results, result = .ok results) ↔ ∀ place (r : Request) e, b.each[place]? = some r →
    met place = .error e → e.isFatal = false
  each_started : (∃ results, result = .ok results) →
    started.Perm (List.range b.destinations.length)
  length_eq : ∀ results, result = .ok results → results.length = b.destinations.length
  entry_eq : ∀ results, result = .ok results → ∀ place (r : Request), b.each[place]? = some r →
    results[place]? = some (r.entry (met place))
  failure : ∀ e, result = .error e → e.isFatal = true ∧
    ∃ place, place < b.destinations.length ∧ met place = .error e

theorem getElem?_of_jobs_eq {results : List Result} (h : b.jobs met = results.map .ok) {place : Nat}
    {r : Request} (hr : b.each[place]? = some r) :
    results[place]? = some (r.entry (met place)) := by
  have hp : (results.map Except.ok)[place]? = some (r.contribute (met place)).2 := by
    rw [← h, getElem?_jobs, hr]
    rfl
  rw [List.getElem?_map, Option.map_eq_some_iff] at hp
  obtain ⟨result, hresult, he⟩ := hp
  rw [hresult, Request.contribute_eq_ok he.symm]

/-- What one place meets has no say in the entry of another. -/
theorem Ends.getElem?_congr {met' : Nat → Except Failure Result} {started started' : List Nat}
    {results results' : List Result} (h : b.Ends met started (.ok results))
    (h' : b.Ends met' started' (.ok results')) {place : Nat} (he : met' place = met place) :
    results'[place]? = results[place]? := by
  cases hr : b.each[place]? with
  | some r => rw [h.entry_eq _ rfl place r hr, h'.entry_eq _ rfl place r hr, he]
  | none =>
      -- Behind the last destination neither list has an entry.
      rw [List.getElem?_eq_none_iff, length_each] at hr
      rw [List.getElem?_eq_none, List.getElem?_eq_none]
      · rw [h.length_eq _ rfl]
        exact hr
      · rw [h'.length_eq _ rfl]
        exact hr

theorem ends_of_verdict {g : Fanout.Group Failure Result} (h : b.Scheduled met g)
    {result : Except Failure (List Result)} (hv : g.verdict? = some result) :
    b.Ends met g.started result := by
  have hs := Fanout.Group.Sound.of_reaches h
  refine ⟨?_, ?_, ?_, ?_, ?_⟩
  · rw [hs.verdict_ok_iff hv]
    constructor
    · intro hn place r e hr he
      by_contra hf
      exact hn e (error_mem_jobs_iff.2 ⟨place, r, hr, he, Bool.of_not_eq_false hf⟩)
    · intro hn e he
      obtain ⟨place, r, hr, he, hf⟩ := error_mem_jobs_iff.1 he
      rw [hn place r e hr he] at hf
      cases hf
  · rintro ⟨results, rfl⟩
    rw [← b.length_jobs met]
    exact hs.started_of_verdict hv
  · rintro results rfl
    rw [← b.length_jobs met, hs.eq_map_of_verdict hv, List.length_map]
  · rintro results rfl place r hr
    exact getElem?_of_jobs_eq (hs.eq_map_of_verdict hv) hr
  · rintro e rfl
    obtain ⟨place, r, hr, he, hf⟩ := error_mem_jobs_iff.1 (hs.mem_of_verdict hv)
    refine ⟨hf, place, ?_, he⟩
    rw [← length_each]
    exact (List.getElem?_eq_some_iff.1 hr).1

theorem splits_contributions {pings : List (Nat × Request × Except Failure Result)}
    (hp : pings.Perm (b.each.mapIdx fun place r => (place, r, met place))) :
    Fanout.Splits (b.jobs met) {} (contributions pings) := by
  refine ⟨⟨List.forall_mem_nil _, List.forall_mem_nil _⟩, ?_, ?_⟩
  · intro x hx
    obtain ⟨ping, hping, rfl⟩ := List.mem_map.1 hx
    obtain ⟨place, hplace, rfl⟩ := List.mem_mapIdx.1 (hp.mem_iff.1 hping)
    rw [getElem?_jobs, List.getElem?_eq_getElem hplace]
    rfl
  · have hplaces : (b.each.mapIdx fun place r => (place, r, met place)).map Prod.fst =
        List.range (b.jobs met).length := by
      apply List.ext_getElem
      · simp [length_jobs, length_each]
      · simp
    rw [← hplaces, contributions, List.map_map]
    exact hp.map Prod.fst

theorem exists_scheduled_settle {pings : List (Nat × Request × Except Failure Result)}
    (hp : pings.Perm (b.each.mapIdx fun place r => (place, r, met place))) :
    ∃ g, b.Scheduled met g ∧ g.verdict? = some (b.settle pings) := by
  obtain ⟨g, hg, hv⟩ := Fanout.Group.exists_reaches_of_splits (splits_contributions hp)
  rw [length_jobs] at hv
  exact ⟨g, hg, hv⟩

def meets (b : BatchRequest) (k : Nat → Conditions) (place : Nat) : Except Failure Result :=
  match b.each[place]? with
  | some r => r.ping (k place)
  | none => .error .cancelled

theorem meets_eq {k : Nat → Conditions} {place : Nat} {r : Request} (h : b.each[place]? = some r) :
    b.meets k place = r.ping (k place) := by
  rw [meets, h]

theorem pings_eq (b : BatchRequest) (k : Nat → Conditions) :
    b.pings k = b.each.mapIdx fun place r => (place, r, b.meets k place) := by
  apply List.ext_getElem
  · simp [pings]
  · intro place hp hq
    have hplace : place < b.each.length := by simpa [pings] using hp
    simp [pings, meets, List.getElem?_eq_getElem hplace]

theorem getElem?_traces_run (b : BatchRequest) (s : System) :
    (∀ i < s.traces.length, (b.run s).2.traces[i]? = s.traces[i]?) ∧
    ∀ place, (b.run s).2.traces[s.traces.length + place]? = b.each[place]?.map fun r =>
      (r.probe (s.conditions (s.traces.length + place))).steps := by
  constructor
  · intro i hi
    exact List.getElem?_append_left hi
  · intro place
    change (s.traces ++ b.traces _)[s.traces.length + place]? = _
    rw [List.getElem?_append_right (Nat.le_add_right _ _), Nat.add_sub_cancel_left, traces,
      List.getElem?_mapIdx]

theorem exists_scheduled_pings (b : BatchRequest) (k : Nat → Conditions) :
    ∃ g, b.Scheduled (b.meets k) g ∧ g.verdict? = some (b.settle (b.pings k)) :=
  exists_scheduled_settle (List.Perm.of_eq (pings_eq b k))

/-- However the pings of a call are scheduled, it starts at most one for each place of the list and
goes on until it is over, after at most two moves for each place. What it has come to then hangs on
what each place met and not on the order. The call made on a system is one of the schedules, and
leaves there the steps of one probe for each place, in the order of the list. -/
theorem pings_side_by_side (b : BatchRequest) (met : Nat → Except Failure Result) :
    (∀ g, b.Scheduled met g →
      (∀ place, g.started.count place ≤ 1 ∧ (place ∈ g.started → place < b.destinations.length)) ∧
      (g.verdict? = none → ∃ u, g.Move u) ∧
      g.started.length + g.ended.length ≤ 2 * b.destinations.length ∧
      (∀ u, g.Move u →
        u.started.length + u.ended.length = g.started.length + g.ended.length + 1) ∧
      ∀ result, g.verdict? = some result → b.Ends met g.started result) ∧
    (∀ g met' g', b.Scheduled met g → b.Scheduled met' g' → ∀ results results',
      g.verdict? = some (.ok results) → g'.verdict? = some (.ok results') →
      ∀ place, met' place = met place → results'[place]? = results[place]?) ∧
    (∀ pings, pings.Perm (b.each.mapIdx fun place r => (place, r, met place)) →
      ∃ g, b.Scheduled met g ∧ g.verdict? = some (b.settle pings)) ∧
    ∀ s : System, (b.run s).2.traces.length = s.traces.length + b.destinations.length ∧
      ((∀ i < s.traces.length, (b.run s).2.traces[i]? = s.traces[i]?) ∧
        ∀ place, (b.run s).2.traces[s.traces.length + place]? = b.each[place]?.map fun r =>
          (r.probe (s.conditions (s.traces.length + place))).steps) ∧
      ∃ g, b.Scheduled (b.meets fun i => s.conditions (s.traces.length + i)) g ∧
        g.verdict? = some (b.run s).1 := by
  refine ⟨?_, ?_, fun pings => exists_scheduled_settle, ?_⟩
  · intro g h
    have hs := Fanout.Group.Sound.of_reaches h
    have hstarted := hs.length_started_le
    have hended := hs.length_ended_le
    rw [length_jobs] at hstarted hended
    refine ⟨?_, hs.exists_move, by omega, fun _ hm => hm.length_eq, fun _ => ends_of_verdict h⟩
    intro place
    rw [← b.length_jobs met]
    exact ⟨hs.count_started_le place, hs.lt_of_started⟩
  · intro g met' g' h h' results results' hv hv' place he
    exact (ends_of_verdict h hv).getElem?_congr (ends_of_verdict h' hv') he
  · intro s
    refine ⟨by simp [run, traces, length_each], b.getElem?_traces_run s, ?_⟩
    exact exists_scheduled_pings b _

def twice : BatchRequest where
  destinations := [⟨"127.0.0.1", .v4 ⟨127, 0, 0, 1⟩⟩, ⟨"127.0.0.1", .v4 ⟨127, 0, 0, 1⟩⟩]
  timeout := Watch.loopback.timeout
  packetSize := ⟨56, by decide, by decide⟩
  hopLimit := none

def mixed : Nat → Except Failure Result
  | 0 => .error .timeExceeded
  | _ => .ok ⟨.answered .zero, none, some 56⟩

/-- The second ping starts and ends before the first, and the results keep the order of the list. -/
theorem pings_side_by_side_crossed : ∃ g results, twice.Scheduled mixed g ∧ g.started = [0, 1] ∧
    g.ended.map Prod.fst = [1, 0] ∧ g.verdict? = some (.ok results) ∧
    results[0]? = some ⟨.failed (some "Time exceeded (TTL expired)"), none, some 56⟩ ∧
    results[1]? = some ⟨.answered .zero, none, some 56⟩ := by
  have h : twice.Scheduled mixed _ :=
    (((Relation.ReflTransGen.refl.tail (@Fanout.Group.Move.start _ _ _ [0] [] 1 rfl rfl)).tail
      (@Fanout.Group.Move.start _ _ _ [] [] 0 rfl rfl)).tail
      (@Fanout.Group.Move.finish _ _ _ [0] [] 1 _ rfl rfl rfl)).tail
      (@Fanout.Group.Move.finish _ _ _ [] [] 0 _ rfl rfl rfl)
  have hends := ((pings_side_by_side twice mixed).1 _ h).2.2.2.2 _ rfl
  have hentry := hends.entry_eq _ rfl
  exact ⟨_, _, h, rfl, rfl, rfl, hentry 0 _ rfl, hentry 1 _ rfl⟩

end BatchRequest

end HostProbe.Ping
