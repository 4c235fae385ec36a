import HostProbe.Proofs.Scan.Agreement

namespace HostProbe.Scan

variable {σ : Type}

namespace Gate

theorem permitsFor_le_maxPermits (maxConcurrent size : Nat) :
    permitsFor maxConcurrent size ≤ maxPermits := Nat.min_le_right _ _

theorem permitsFor_eq_min {size : Nat} (hp : 0 < size) (hs : size ≤ maxPermits)
    (maxConcurrent : Nat) : permitsFor maxConcurrent size = min maxConcurrent size := by
  rw [permitsFor, Nat.max_eq_left hp]
  exact Nat.min_eq_left (Nat.le_trans (Nat.min_le_right _ _) hs)

end Gate

namespace Traffic

def places (t : Traffic σ) : List Nat := Job.places t.gate.waiting ++ (t.holding ++ t.ended)

def Takes (t : Traffic σ) (job : Job) (u : Traffic σ) : Prop :=
  t.Move u ∧ u.boarding = job :: t.boarding

def Starts (t : Traffic σ) (job : Job) (u : Traffic σ) : Prop :=
  t.Move u ∧ u.gate.flights.Perm (t.gate.departure job :: t.gate.flights)

/-- A job without an attempt can start one, with the permit that it holds or a free one. -/
def CanConnect (t : Traffic σ) (job : Job) : Prop :=
  (∃ u, t.Starts job u) ∨ ∃ u v, t.Takes job u ∧ u.Starts job v

section Moves

variable {t u : Traffic σ} {job : Job}

theorem exists_takes (hj : job ∈ t.gate.waiting) (hf : 0 < t.gate.free) :
    ∃ u, t.Takes job u := by
  obtain ⟨before, after, hw⟩ := List.append_of_mem hj
  exact ⟨_, .take hw (Nat.succ_pred_eq_of_pos hf).symm, rfl⟩

theorem exists_starts (hj : job ∈ t.boarding) : ∃ u, t.Starts job u := by
  obtain ⟨before, after, hb⟩ := List.append_of_mem hj
  obtain ⟨flying, due, he, hp⟩ := t.gate.exists_depart_eq job
  refine ⟨_, .start hb, ?_⟩
  rw [he]
  exact hp

theorem canConnect_of_waiting (hj : job ∈ t.gate.waiting) (hf : 0 < t.gate.free) :
    t.CanConnect job := by
  obtain ⟨u, hu⟩ := exists_takes hj hf
  obtain ⟨v, hv⟩ := exists_starts (hu.2 ▸ List.mem_cons_self : job ∈ u.boarding)
  exact .inr ⟨u, v, hu, hv⟩

/-- Nobody takes a permit that is not free. -/
theorem Takes.free_pos (h : t.Takes job u) : 0 < t.gate.free := by
  obtain ⟨hm, hb⟩ := h
  have hl := congrArg List.length hb
  cases hm with
  | take _ hf => exact hf ▸ Nat.succ_pos _
  | start hb' =>
      rw [hb'] at hl
      simp only [List.length_append, List.length_cons] at hl
      omega
  | finish => exact absurd hl (Nat.ne_add_one _)
  | pass => exact absurd hl (Nat.ne_add_one _)
  | drop => cases hl

/-- Only a drop loses places. -/
theorem perm_places_of_move (h : t.Move u) (hd : u ≠ t.dropped) : u.places.Perm t.places := by
  refine List.perm_iff_count.2 fun place => ?_
  cases h with
  | take hw _ =>
      simp only [places, holding, hw, Job.places, Flight.places, Gate.flights, ended, List.map_append,
        List.map_cons, List.count_append, List.count_cons]
      omega
  | @start before after job hb =>
      obtain ⟨flying, due, he, hp⟩ := t.gate.exists_depart_eq job
      have hc := (hp.map fun f => f.job.position).count_eq place
      simp only [places, holding, he, hb, Job.places, Flight.places, Gate.flights, ended,
        Gate.departure, List.map_append, List.map_cons, List.count_append, List.count_cons] at hc ⊢
      omega
  | @finish flying due before after f answer hf hr =>
      have hc (outcome : Except Failure Finding) :=
        (Fanout.State.places_add t.gate.outcomes f.job.position outcome).count_eq place
      simp only [List.count_cons] at hc
      change (Job.places t.gate.waiting ++ (Job.places t.boarding ++ Flight.places (flying ++ due) ++
        (t.gate.outcomes.add f.job.position _).places)).count place = _
      simp only [places, holding, hf, hr, hc, Flight.places, ended, List.map_append, List.map_cons,
        List.count_append, List.count_cons]
      omega
  | pass clock hdue =>
      have hc := ((Gate.flights_pass hdue clock).map fun f => f.job.position).count_eq place
      change (Job.places t.gate.waiting ++ (Job.places t.boarding ++
        Flight.places (t.gate.pass clock).flights ++ t.ended)).count place = _
      simp only [places, holding, Flight.places, List.count_append, hc]
  | drop => exact absurd rfl hd

end Moves

/-- What a scan of so many ports with so many permits keeps up while nobody drops it. -/
structure Live (size permits : Nat) (t : Traffic σ) : Prop where
  places : t.places.Perm (List.range size)
  progress : ∀ place < size, place ∉ t.ended → 0 < t.inFlight ∨ ∃ job, t.CanConnect job
  refused_iff : ∀ job ∈ t.gate.waiting, (∀ u, ¬ t.Takes job u) ↔ t.out = permits

section Live

variable {r : ListRequest} {n : Network σ} {t : Traffic σ}

theorem places_of_proceeds (h : Proceeds (of (Gate.of r n)) t) :
    t.places.Perm (List.range r.ports.length) := by
  induction h with
  | refl =>
      refine .of_eq ?_
      change Job.places (Gate.of r n).waiting ++ [] = _
      rw [List.append_nil, Gate.places_waiting_of]
  | tail _ hm ih => exact (perm_places_of_move hm.1 hm.2).trans ih

/-- With nothing in flight, a place that has not ended is about to connect or finds every permit
free. -/
theorem exists_canConnect {permits most : Nat} (h : t.Balanced permits most) (hp : 0 < permits)
    (hf : t.inFlight = 0) {place : Nat} (hm : place ∈ t.places) (he : place ∉ t.ended) :
    ∃ job, t.CanConnect job := by
  cases hb : t.boarding with
  | cons job rest => exact ⟨job, .inl (exists_starts (hb ▸ List.mem_cons_self))⟩
  | nil =>
      have hheld : t.holding = [] := by
        rw [← List.length_eq_zero_iff, t.length_holding, hb, hf]
        rfl
      have hfree := h.free_add_holding
      rw [hheld, h.capacity, List.length_nil, Nat.add_zero] at hfree
      rw [places, hheld, List.nil_append, List.mem_append] at hm
      obtain ⟨job, hj, -⟩ := List.mem_map.1 (hm.resolve_right he)
      exact ⟨job, canConnect_of_waiting hj (hfree ▸ hp)⟩

theorem live_of_proceeds (hr : 0 < r.maxConcurrent) (h : Proceeds (of (Gate.of r n)) t) :
    t.Live r.ports.length (Gate.of r n).permits := by
  have hplaces := places_of_proceeds h
  have hb := balanced_of_reaches h.reaches
  have hpos := Gate.permitsFor_pos hr r.ports.length
  have hcap : t.gate.permits = (Gate.of r n).permits := hb.capacity
  have hle : t.gate.free ≤ t.gate.permits := Nat.le.intro hb.free_add_holding
  refine ⟨hplaces, ?_, ?_⟩
  · intro place hp he
    rcases Nat.eq_zero_or_pos t.inFlight with hf | hf
    · exact .inr (exists_canConnect hb hpos hf (hplaces.mem_iff.2 (List.mem_range.2 hp)) he)
    · exact .inl hf
  · intro job hj
    rw [← hcap, out]
    constructor
    · intro hnone
      rcases Nat.eq_zero_or_pos t.gate.free with hf | hf
      · rw [hf, Nat.sub_zero]
      · obtain ⟨u, hu⟩ := exists_takes hj hf
        exact absurd hu (hnone u)
    · intro hout u hu
      have hf := hu.free_pos
      omega

end Live

end Traffic

section Course

variable {r : ListRequest} {n : Network σ} {made : List Connection} {g : Gate σ}

/-- A place that has not ended is under way or waits. -/
theorem Course.exists_pending (h : Course r n made g) {place : Nat} (hp : place < r.ports.length)
    (he : place ∉ g.outcomes.places) : g.flights ≠ [] ∨ g.waiting ≠ [] := by
  by_contra hnone
  obtain ⟨hl, hw⟩ := not_or.1 hnone
  have hm := h.places.mem_iff.2 (List.mem_range.2 (h.length_made_eq (not_not.1 hw) ▸ hp))
  rw [not_not.1 hl] at hm
  rcases List.mem_append.1 hm with hm | hm
  · exact he hm
  · cases hm

theorem Gate.exists_step (hr : 0 < r.maxConcurrent) (hg : (Gate.of r n).Steps g)
    (hf : g.failure? = none) {place : Nat} (hp : place < r.ports.length)
    (he : place ∉ g.outcomes.places) :
    (0 < g.flights.length ∨ g.waiting ≠ [] ∧ 0 < g.free) ∧ ∃ u, g.step? = some u := by
  obtain ⟨made, h⟩ := Course.exists_of_steps hg
  have hpos := Gate.free_add_flights_pos hr hg
  have hpending : 0 < g.flights.length ∨ g.waiting ≠ [] ∧ 0 < g.free := by
    rcases Nat.eq_zero_or_pos g.flights.length with hl | hl
    · rw [hl] at hpos
      exact .inr ⟨(h.exists_pending hp he).resolve_left
        (not_not.2 (List.length_eq_zero_iff.1 hl)), hpos⟩
    · exact .inl hl
  refine ⟨hpending, Option.ne_none_iff_exists'.1 fun hs => ?_⟩
  obtain ⟨hl, hrest⟩ := Gate.rest_of_step? hs hf
  rcases hpending with hflying | ⟨hw, hfree⟩
  · rw [hl] at hflying
    cases hflying
  · rcases hrest with hrest | hrest
    · exact hw hrest
    · rw [hrest] at hfree
      cases hfree

/-- The run of a gate goes on until every place has ended, unless a failure ends it before. -/
theorem Gate.ended_run (hr : 0 < r.maxConcurrent) :
    (∃ e, (Gate.of r n).run.failure? = some e ∧ e.isPerPort = false ∧ (r.run n).1 = .error e) ∨
    ((Gate.of r n).run.outcomes.results.map Prod.fst).Perm (List.range r.ports.length) ∧
      ∃ findings, (r.run n).1 = .ok findings := by
  obtain ⟨made, h⟩ := Course.exists_run r n
  rw [ListRequest.run_eq hr]
  cases hf : (Gate.of r n).run.failure? with
  | some e =>
      have he : (Gate.of r n).run.result = .error e := by rw [Gate.result, hf]
      exact .inl ⟨e, rfl, (h.alone_of_error he).1, he⟩
  | none =>
      have hs := (Gate.of r n).step?_run
      have hpos := Gate.free_add_flights_pos hr (Gate.of r n).steps_run
      have ho : (Gate.of r n).run.result =
          .ok (Fanout.inOrder (Gate.of r n).run.outcomes.results) := by rw [Gate.result, hf]
      exact .inr ⟨(h.complete hs hf hpos).2, _, ho⟩

theorem ListRequest.run_of_ports_eq_nil (hr : 0 < r.maxConcurrent) (hp : r.ports = []) :
    r.run n = (.ok [], n) := by
  have hw : (Gate.of r n).waiting = [] := by
    change r.ports.mapIdx Job.mk = []
    rw [hp, List.mapIdx_nil]
  have hs : (Gate.of r n).step? = none := by
    rw [Gate.step?, hw]
    rfl
  have hrun : (Gate.of r n).run = Gate.of r n := Gate.run_of_step?_eq_none hs
  rw [ListRequest.run_eq hr, hrun]
  change (Except.ok (Fanout.inOrder ([] : List (Nat × Finding))), n) = _
  rw [Fanout.inOrder, List.mergeSort_nil, List.map_nil]

end Course

/-- A scan has permits for as many attempts as it asks for and can use. Its run goes through states
of the traffic that nobody drops, and goes on until every place of its list has ended or a failure
ends it. -/
theorem scan_progresses (r : ListRequest) (n : Network σ) (hr : 0 < r.maxConcurrent) :
    (1 ≤ (Gate.of r n).permits ∧ (Gate.of r n).permits ≤ Gate.maxPermits ∧
      (r.ports ≠ [] → r.ports.length ≤ Gate.maxPermits →
        (Gate.of r n).permits = min r.maxConcurrent r.ports.length)) ∧
    (∀ t, Traffic.Proceeds (.of (Gate.of r n)) t →
      t.Live r.ports.length (Gate.of r n).permits) ∧
    (∀ g, (Gate.of r n).Steps g → g.failure? = none →
      ∀ place < r.ports.length, place ∉ g.outcomes.places →
        (0 < g.flights.length ∨ g.waiting ≠ [] ∧ 0 < g.free) ∧ ∃ u, g.step? = some u) ∧
    ((∀ g, (Gate.of r n).Steps g → g.Steps (Gate.of r n).run ∧
        ∃ t, Traffic.Proceeds (.of (Gate.of r n)) t ∧ t.gate = g ∧ t.boarding = []) ∧
      r.run n = ((Gate.of r n).run.result, (Gate.of r n).run.network) ∧
      ((∃ e, (Gate.of r n).run.failure? = some e ∧ e.isPerPort = false ∧
          (r.run n).1 = .error e) ∨
        ((Gate.of r n).run.outcomes.results.map Prod.fst).Perm (List.range r.ports.length) ∧
          ∃ findings, (r.run n).1 = .ok findings)) ∧
    (r.ports = [] → r.run n = (.ok [], n)) := by
  refine ⟨⟨?_, ?_, ?_⟩, ?_, ?_, ⟨?_, ListRequest.run_eq hr, Gate.ended_run hr⟩, ?_⟩
  · exact Gate.permitsFor_pos hr _
  · exact Gate.permitsFor_le_maxPermits _ _
  · intro hne hs
    exact Gate.permitsFor_eq_min (List.length_pos_iff.2 hne) hs _
  · exact fun t ht => Traffic.live_of_proceeds hr ht
  · exact fun g hg hf place hp he => Gate.exists_step hr hg hf hp he
  · intro g hg
    rw [Gate.run_eq_of_steps hg]
    exact ⟨g.steps_run, Traffic.exists_proceeds_of_steps hg⟩
  · exact ListRequest.run_of_ports_eq_nil hr

def ListRequest.unlimited : ListRequest := { oneByOne with maxConcurrent := 0xffffffffffffffff }

/-- With one permit the second of two ports may take it first, and the first then finds none. -/
theorem scan_progresses_unlimited :
    (Gate.of .unlimited Network.prompt).permits = 2 ∧
    (∃ t : Traffic Unit, Traffic.Proceeds (.of (Gate.of .oneByOne .prompt)) t ∧
      t.inFlight = 0 ∧ (∃ job, t.CanConnect job) ∧
      ∃ job ∈ t.gate.waiting, job.position = 0 ∧ ∀ u, ¬ t.Takes job u) ∧
    (∃ u, (Gate.of .unlimited Network.prompt).step? = some u) ∧
    ListRequest.run { ListRequest.unlimited with ports := [] } Network.prompt =
      (.ok [], Network.prompt) := by
  obtain ⟨⟨_, _, hpermits⟩, _, hsteps, _, _⟩ := scan_progresses .unlimited Network.prompt (by decide)
  obtain ⟨_, hlive, _, _, _⟩ := scan_progresses .oneByOne Network.prompt (by decide)
  obtain ⟨_, _, _, _, hempty⟩ :=
    scan_progresses { ListRequest.unlimited with ports := [] } Network.prompt (by decide)
  refine ⟨hpermits (List.cons_ne_nil _ _) (by decide), ?_, ?_, hempty rfl⟩
  · have ht : Traffic.Proceeds (.of (Gate.of .oneByOne Network.prompt)) _ :=
      .single ⟨@Traffic.Move.take _ _ [_] [] _ _ rfl rfl, fun h => nomatch congrArg Traffic.boarding h⟩
    have h := hlive _ ht
    refine ⟨_, ht, rfl, (h.progress 0 (by decide) List.not_mem_nil).resolve_left (Nat.lt_irrefl _), ?_⟩
    exact ⟨_, List.mem_cons_self, rfl, (h.refused_iff _ List.mem_cons_self).2 rfl⟩
  · exact (hsteps _ .refl rfl 0 (by decide) List.not_mem_nil).2

end HostProbe.Scan
