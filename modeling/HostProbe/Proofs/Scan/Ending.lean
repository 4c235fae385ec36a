import HostProbe.Proofs.Scan.Agreement

namespace HostProbe.Scan

variable {σ : Type}

namespace Gate

variable {g u : Gate σ} {e : Failure}

/-- The attempt at a place has failed in a way that ends the scan: at once if the list is short,
else with all places before it over and without a failure. -/
def Ends (g : Gate σ) (place : Nat) (e : Failure) : Prop :=
  (place, e) ∈ g.outcomes.failures ∧
    (g.size ≤ Fanout.small ∨ ∀ earlier < place, earlier ∈ g.outcomes.results.map Prod.fst)

theorem Steps.step {s : Gate σ} (h : g.Steps s) (hs : s.step? = some u) : g.Steps u := h.tail hs

theorem failure?_eq (g : Gate σ) :
    g.failure? = Fanout.ending? g.size g.outcomes.failures g.isClear := by
  unfold failure?
  split
  · next h =>
      rw [h, Fanout.ending?]
      split <;> rfl
  · rfl

theorem step?_of_failure? (h : g.failure? = some e) : g.step? = none := by
  rw [step?, h]
  rfl

theorem failure?_of_step? (h : g.step? = some u) : g.failure? = none := by
  cases hf : g.failure? with
  | none => rfl
  | some e => cases (step?_of_failure? hf).symm.trans h

theorem run_of_failure? (hs : g.Steps u) (h : u.failure? = some e) : g.run = u :=
  (run_eq_of_steps hs).trans (run_of_step?_eq_none (step?_of_failure? h))

theorem length_failures_of_next (h : g.Next u) :
    u.outcomes.failures.length ≤ g.outcomes.failures.length + 1 := by
  cases h with
  | @land f due _ =>
      change (g.outcomes.add f.job.position _).failures.length ≤ _
      cases verdict { g with due } f with
      | ok _ => exact Nat.le_succ _
      | error e => exact Nat.le_of_eq (List.length_append)
  | launch hw hf =>
      obtain ⟨_, _, he, _⟩ := exists_depart_eq _ _
      rw [he]
      exact Nat.le_succ _
  | pass _ _ => exact Nat.le_succ _

theorem result_eq_error_iff : g.result = .error e ↔ g.failure? = some e := by
  unfold result
  split
  · next f hf =>
      rw [hf]
      exact ⟨fun h => congrArg some (Except.error.inj h), fun h => congrArg _ (Option.some.inj h)⟩
  · next hf =>
      rw [hf]
      exact ⟨nofun, nofun⟩

theorem step?_ne_none (hp : 0 < g.free + g.flights.length) (hf : g.failure? = none)
    (hne : g.outcomes.failures ≠ []) : g.step? ≠ none := by
  intro hs
  obtain ⟨hl, hw⟩ := rest_of_step? hs hf
  rw [hl] at hp
  rcases hw with hw | hfree
  · exact hne (failures_eq_nil hf hl hw)
  · rw [hfree] at hp
    cases hp

end Gate

namespace Course

variable {r : ListRequest} {n : Network σ} {made : List Connection} {g : Gate σ} {place : Nat}

theorem nodup (h : Course r n made g) : (g.outcomes.places ++ Flight.places g.flights).Nodup :=
  h.places.nodup_iff.2 List.nodup_range

theorem length_made_le (h : Course r n made g) {job : Job} (hj : job ∈ g.waiting) :
    made.length ≤ job.position := by
  rw [h.waiting] at hj
  obtain ⟨i, hi, rfl⟩ := List.mem_iff_getElem.1 hj
  simp only [List.getElem_drop, List.getElem_mapIdx, Nat.le_add_right]

theorem isClear_iff (h : Course r n made g) (hp : place ∈ g.outcomes.places) :
    g.isClear place = true ↔ ∀ earlier < place, earlier ∈ g.outcomes.places := by
  have hlt : place < made.length :=
    List.mem_range.1 (h.places.mem_iff.1 (List.mem_append_left _ hp))
  have hdisjoint := (List.nodup_append.1 h.nodup).2.2
  simp only [Gate.isClear, Bool.and_eq_true, List.all_eq_true, decide_eq_true_eq]
  constructor
  · rintro ⟨hflights, -⟩ earlier he
    have hm := h.places.mem_iff.2 (List.mem_range.2 (Nat.lt_trans he hlt))
    rcases List.mem_append.1 hm with hm | hm
    · exact hm
    · obtain ⟨f, hf, rfl⟩ := List.mem_map.1 hm
      exact absurd (hflights f hf) (Nat.lt_asymm he)
  · intro hover
    constructor
    · intro f hf
      have hf : f.job.position ∈ Flight.places g.flights := List.mem_map_of_mem hf
      rcases Nat.lt_trichotomy place f.job.position with hl | he | hg
      · exact hl
      · exact absurd he (hdisjoint _ hp _ hf)
      · exact absurd rfl (hdisjoint _ (hover _ hg) _ hf)
    · intro job hj
      exact Nat.lt_of_lt_of_le hlt (h.length_made_le hj)

theorem failure?_eq_some_iff (h : Course r n made g)
    (hone : g.size ≤ Fanout.small → g.outcomes.failures.length ≤ 1) {e : Failure} :
    g.failure? = some e ↔ ∃ place, g.Ends place e := by
  rw [Gate.failure?_eq]
  rcases Nat.lt_or_ge Fanout.small g.size with hs | hs
  · have hplaces := List.nodup_append.1 (List.nodup_append.1 h.nodup).1
    rw [Fanout.ending?_eq_some_iff_of_large hs hplaces.1]
    constructor
    · rintro ⟨place, hm, hleast, hc⟩
      refine ⟨place, hm, .inr fun earlier he => ?_⟩
      have hp : place ∈ g.outcomes.places := List.mem_append_left _ (List.mem_map_of_mem hm)
      rcases List.mem_append.1 ((h.isClear_iff hp).1 hc earlier he) with hf | hr
      · obtain ⟨x, hx, rfl⟩ := List.mem_map.1 hf
        exact absurd he (Nat.not_lt.2 (hleast x hx))
      · exact hr
    · rintro ⟨place, hm, hsmall | hover⟩
      · exact absurd hsmall (Nat.not_le.2 hs)
      · have hp : place ∈ g.outcomes.places := List.mem_append_left _ (List.mem_map_of_mem hm)
        refine ⟨place, hm, fun x hx => Nat.not_lt.1 fun hlt => ?_, (h.isClear_iff hp).2 ?_⟩
        · exact hplaces.2.2 _ (List.mem_map_of_mem hx) _ (hover _ hlt) rfl
        · exact fun earlier he => List.mem_append_right _ (hover earlier he)
  · rw [Fanout.ending?_eq_some_iff_of_small hs (hone hs)]
    exact exists_congr fun place => (and_iff_left (.inl hs)).symm

end Course

namespace ListRequest

variable {r : ListRequest} {n : Network σ} {made : List Connection} {g : Gate σ} {place : Nat}
  {e : Failure}

def FailsAt (r : ListRequest) (n : Network σ) (place : Nat) (e : Failure) : Prop :=
  ∃ p, r.ports[place]? = some p ∧ r.aloneAt n place p n.clock = .error e ∧ e.isPerPort = false

def FailsFirst (r : ListRequest) (n : Network σ) (e : Failure) : Prop :=
  ∃ place, r.FailsAt n place e ∧ ∀ earlier < place, ∀ e', ¬ r.FailsAt n earlier e'

theorem FailsAt.unique {e' : Failure} (h : r.FailsAt n place e) (h' : r.FailsAt n place e') :
    e = e' := by
  obtain ⟨p, hp, he, _⟩ := h
  obtain ⟨q, hq, he', _⟩ := h'
  obtain rfl : p = q := Option.some.inj (hp.symm.trans hq)
  exact Except.error.inj (he.symm.trans he')

theorem FailsFirst.unique {e' : Failure} (h : r.FailsFirst n e) (h' : r.FailsFirst n e') :
    e = e' := by
  obtain ⟨place, hf, hfirst⟩ := h
  obtain ⟨place', hf', hfirst'⟩ := h'
  rcases Nat.lt_trichotomy place place' with hl | rfl | hl
  · exact absurd hf (hfirst' place hl e)
  · exact hf.unique hf'
  · exact absurd hf' (hfirst place' hl e')

theorem Makes.failsAt (h : r.Makes n made) (hs : r.Says n made place (.error e)) :
    r.FailsAt n place e := by
  obtain ⟨p, c, hp, hc, hj⟩ := hs
  obtain ⟨hj, hfatal⟩ := Connection.judge_of_judgeAmong hj
  exact ⟨p, hp, aloneAt_eq_error ((h.aloneAt hp hc).trans hj), hfatal⟩

theorem Makes.not_failsAt (h : r.Makes n made) {f : Finding} (hs : r.Says n made place (.ok f)) :
    ¬ r.FailsAt n place e := by
  rintro ⟨q, hq, he, hfatal⟩
  obtain ⟨p, c, hp, hc, hj⟩ := hs
  obtain rfl : p = q := Option.some.inj (hp.symm.trans hq)
  have ha := Connection.agrees_of_judgeAmong hj
  rw [← h.aloneAt hp hc, aloneAt_eq_error he] at ha
  rw [ha.isPerPort] at hfatal
  cases hfatal

theorem length_failures_le (hg : (Gate.of r n).Steps g) (hs : r.ports.length ≤ Fanout.small) :
    g.outcomes.failures.length ≤ 1 := by
  induction hg with
  | refl => exact Nat.zero_le _
  | @tail s t hreach hstep ih =>
      obtain ⟨made, h⟩ := Course.exists_of_steps hreach
      -- A step is made only while there is no failure.
      have hnone := Gate.failure?_of_step? hstep
      rw [Gate.failure?_eq, Fanout.ending?, h.size, if_pos hs, Option.map_eq_none_iff,
        List.head?_eq_none_iff] at hnone
      have hle := Gate.length_failures_of_next (Gate.next_of_step? hstep)
      rwa [hnone] at hle

theorem failure?_eq_some_iff (hg : (Gate.of r n).Steps g) :
    g.failure? = some e ↔ ∃ place, g.Ends place e := by
  obtain ⟨made, h⟩ := Course.exists_of_steps hg
  exact h.failure?_eq_some_iff fun hs => length_failures_le hg (h.size ▸ hs)

theorem run_of_ends (hr : 0 < r.maxConcurrent) (hg : (Gate.of r n).Steps g) (h : g.Ends place e) :
    r.run n = (.error e, g.network) := by
  have hf := (failure?_eq_some_iff hg).2 ⟨place, h⟩
  rw [run_eq hr, Gate.run_of_failure? hg hf, Gate.result_eq_error_iff.2 hf]

theorem exists_ends_of_run (hr : 0 < r.maxConcurrent) (he : (r.run n).1 = .error e) :
    ∃ g place, (Gate.of r n).Steps g ∧ g.Ends place e := by
  rw [run_eq hr] at he
  have hg := (Gate.of r n).steps_run
  obtain ⟨place, h⟩ := (failure?_eq_some_iff hg).1 (Gate.result_eq_error_iff.1 he)
  exact ⟨_, place, hg, h⟩

theorem failsFirst_of_ends (hs : Fanout.small < r.ports.length) (hg : (Gate.of r n).Steps g)
    (h : g.Ends place e) : r.FailsFirst n e := by
  obtain ⟨made, hcourse⟩ := Course.exists_of_steps hg
  obtain ⟨hm, hsmall | hover⟩ := h
  · rw [hcourse.size] at hsmall
    exact absurd hsmall (Nat.not_le.2 hs)
  · refine ⟨place, hcourse.makes.failsAt (hcourse.outcomes.failures _ hm), ?_⟩
    intro earlier hl e'
    obtain ⟨x, hx, rfl⟩ := List.mem_map.1 (hover earlier hl)
    exact hcourse.makes.not_failsAt (hcourse.outcomes.results x hx)

theorem run_eq_error_iff (hr : 0 < r.maxConcurrent) (hs : Fanout.small < r.ports.length) :
    (r.run n).1 = .error e ↔ r.FailsFirst n e := by
  have hfirst {e : Failure} (he : (r.run n).1 = .error e) : r.FailsFirst n e := by
    obtain ⟨g, place, hg, h⟩ := exists_ends_of_run hr he
    exact failsFirst_of_ends hs hg h
  refine ⟨hfirst, fun h => ?_⟩
  obtain ⟨made, ha⟩ := exists_accord r n hr
  cases ho : (r.run n).1 with
  | ok findings =>
      obtain ⟨place, ⟨p, hp, he, hfatal⟩, _⟩ := h
      rw [ha.ok_iff.1 ⟨findings, ho⟩ place p n.clock e hp he] at hfatal
      cases hfatal
  | error e' => rw [(hfirst ho).unique h]

end ListRequest

/-- When an attempt ends in a failure that is not of its port alone, the scan of a short list is
over at that moment, with this failure. The scan of a long list goes on until all attempts before
that place are over, and fails as the first place in the list does that fails. -/
theorem failure_ends_scan (r : ListRequest) (n : Network σ) (hr : 0 < r.maxConcurrent) :
    (∀ g, (Gate.of r n).Steps g →
      (∀ place e, g.Ends place e →
        ((∃ text, e = .permission text) ∨ ∃ text, e = .connection text) ∧
          r.run n = (.error e, g.network)) ∧
      (g.outcomes.failures ≠ [] → (∀ place e, ¬ g.Ends place e) → ∃ u, g.step? = some u)) ∧
    (∀ e, (r.run n).1 = .error e → ∃ g place, (Gate.of r n).Steps g ∧ g.Ends place e) ∧
    (Fanout.small < r.ports.length → ∀ e, (r.run n).1 = .error e ↔ r.FailsFirst n e) := by
  refine ⟨fun g hg => ⟨fun place e h => ?_, fun hne hnone => ?_⟩, ?_, ?_⟩
  · have he := ListRequest.run_of_ends hr hg h
    obtain ⟨made, ha⟩ := r.exists_accord n hr
    exact ⟨(ha.failure e (congrArg Prod.fst he)).1, he⟩
  · have hf : g.failure? = none := by
      rw [Option.eq_none_iff_forall_ne_some]
      intro e he
      obtain ⟨place, h⟩ := (ListRequest.failure?_eq_some_iff hg).1 he
      exact hnone place e h
    exact Option.ne_none_iff_exists'.1
      (Gate.step?_ne_none (Gate.free_add_flights_pos hr hg) hf hne)
  · exact fun e => ListRequest.exists_ends_of_run hr
  · exact fun hs e => ListRequest.run_eq_error_iff hr hs

/-- A network where one port is free only after a while, another may not be asked for, and no other
is open. -/
def Network.crossed : Network Unit :=
  { Network.prompt with
    connect := fun s endpoint _ =>
      (match endpoint.port.toNat with
        | 7 => ⟨50000000, .error (.bare .addrInUse)⟩
        | 9 => ⟨0, .error (.bare .permissionDenied)⟩
        | _ => ⟨0, .error (.bare .connectionRefused)⟩, s) }

def ListRequest.crossed (others : Nat) : ListRequest :=
  { ListRequest.oneByOne with
    ports := ⟨7, by decide, by decide⟩ :: ⟨9, by decide, by decide⟩ ::
      List.replicate others ⟨13, by decide, by decide⟩
    maxConcurrent := 2 }

theorem ListRequest.failsFirst_crossed :
    (crossed 29).FailsFirst Network.crossed (.connection "address in use") :=
  ⟨0, ⟨_, rfl, rfl, rfl⟩, nofun⟩

theorem failure_ends_scan_crossed :
    (∃ g, (Gate.of (.crossed 0) Network.crossed).Steps g ∧ g.flights.length = 1 ∧
      (ListRequest.crossed 0).run Network.crossed =
        (.error (.permission "permission denied"), g.network)) ∧
    ((ListRequest.crossed 29).run Network.crossed).1 = .error (.connection "address in use") := by
  obtain ⟨hshort, _, _⟩ := failure_ends_scan (.crossed 0) Network.crossed (by decide)
  obtain ⟨_, _, hlong⟩ := failure_ends_scan (.crossed 29) Network.crossed (by decide)
  constructor
  · have hg : (Gate.of (.crossed 0) Network.crossed).Steps _ :=
      ((Gate.Steps.step .refl rfl).step rfl).step rfl
    obtain ⟨hends, _⟩ := hshort _ hg
    exact ⟨_, hg, rfl, (hends 1 _ ⟨List.mem_singleton.2 rfl, .inl (Nat.le_of_ble_eq_true rfl)⟩).2⟩
  · exact (hlong (by decide) _).2 ListRequest.failsFirst_crossed

/-- In a long list a port is denied and the scan starts another attempt after that. It fails with
the fault of a port whose attempt ends later. -/
theorem steps_after_failure_crossed : ∃ g,
    (Gate.of (.crossed 29) Network.crossed).Steps g ∧
    g.outcomes.failures = [(1, .permission "permission denied")] ∧
    g.network.connections.length = 2 ∧
    g.step?.map (fun u => u.network.connections.length) = some 3 ∧
    ((ListRequest.crossed 29).run Network.crossed).1 = .error (.connection "address in use") := by
  have hg : (Gate.of (.crossed 29) Network.crossed).Steps _ :=
    ((Gate.Steps.step .refl rfl).step rfl).step rfl
  exact ⟨_, hg, rfl, rfl, rfl,
    (ListRequest.run_eq_error_iff (by decide) (by decide)).2 ListRequest.failsFirst_crossed⟩

end HostProbe.Scan
