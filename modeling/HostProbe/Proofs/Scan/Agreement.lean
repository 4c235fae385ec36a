import HostProbe.Proofs.Scan.Connection
import HostProbe.Proofs.Scan.Course

namespace HostProbe.Scan

variable {σ τ : Type} {r : ListRequest} {n : Network σ} {made : List Connection}

/-- What a scan of many comes to, in terms of the scans of its ports alone. -/
structure ListRequest.Accord (r : ListRequest) (n : Network σ)
    (after : Except Failure (List Finding) × Network σ) (made : List Connection) : Prop where
  connections : after.2.connections = made.reverse ++ n.connections
  length_le : made.length ≤ r.ports.length
  makes : r.Makes n made
  ok_iff : (∃ findings, after.1 = .ok findings) ↔ ∀ place p start e, r.ports[place]? = some p →
    r.aloneAt n place p start = .error e → e.isPerPort = true
  findings : ∀ findings, after.1 = .ok findings →
    made.length = r.ports.length ∧ findings.length = r.ports.length ∧
    ∀ place p c f, r.ports[place]? = some p → made[place]? = some c → findings[place]? = some f →
      Agrees p c (n.moment c.start) (r.aloneAt n place p c.start) f
  failure : ∀ e, after.1 = .error e →
    ((∃ text, e = .permission text) ∨ ∃ text, e = .connection text) ∧
    ∃ place p c, r.ports[place]? = some p ∧ made[place]? = some c ∧
      r.aloneAt n place p c.start = .error e

/-- The permits of a gate between two steps are free but for the attempts under way. -/
theorem Gate.free_add_flights {g : Gate σ} (h : (Gate.of r n).Steps g) :
    g.free + g.flights.length = permitsFor r.maxConcurrent r.ports.length := by
  obtain ⟨t, ht, rfl, hb⟩ := Traffic.exists_reaches_of_steps h
  have h := Traffic.balanced_of_reaches ht
  have hfree := h.free_add_holding
  rw [h.capacity, t.length_holding, hb, Traffic.inFlight, List.length_nil, Nat.zero_add] at hfree
  exact hfree

theorem Gate.free_add_flights_pos {g : Gate σ} (hr : 0 < r.maxConcurrent)
    (h : (Gate.of r n).Steps g) : 0 < g.free + g.flights.length := by
  rw [free_add_flights h]
  exact permitsFor_pos hr _

namespace Course

variable {g : Gate σ}

theorem length_made_eq (h : Course r n made g) (hw : g.waiting = []) :
    made.length = r.ports.length := by
  have hd := h.waiting.symm.trans hw
  rw [List.drop_eq_nil_iff, List.length_mapIdx] at hd
  exact Nat.le_antisymm h.makes.length_le hd

/-- A course that ends without a failure has been through the whole list. -/
theorem complete (h : Course r n made g) (hs : g.step? = none) (hf : g.failure? = none)
    (hp : 0 < g.free + g.flights.length) : made.length = r.ports.length ∧
      (g.outcomes.results.map Prod.fst).Perm (List.range r.ports.length) := by
  obtain ⟨hl, hw⟩ := Gate.rest_of_step? hs hf
  rw [hl] at hp
  have hw : g.waiting = [] := by
    rcases hw with hw | hfree
    · exact hw
    · rw [hfree] at hp
      cases hp
  have hmade := h.length_made_eq hw
  refine ⟨hmade, ?_⟩
  have hperm := h.places
  rw [Fanout.State.places, Gate.failures_eq_nil hf hl hw, hl, hmade] at hperm
  simpa only [Flight.places, List.map_nil, List.nil_append, List.append_nil] using hperm

theorem says_of_ok (h : Course r n made g) (hs : g.step? = none)
    (hp : 0 < g.free + g.flights.length) {findings : List Finding} (ho : g.result = .ok findings) :
    made.length = r.ports.length ∧ findings.length = r.ports.length ∧
      ∀ place f, findings[place]? = some f → r.Says n made place (.ok f) := by
  rw [Gate.result] at ho
  split at ho
  · cases ho
  · next hf =>
      obtain ⟨hmade, hperm⟩ := h.complete hs hf hp
      cases ho
      refine ⟨hmade, Fanout.length_inOrder hperm, ?_⟩
      intro place f hf
      exact h.outcomes.results _ (Fanout.mem_of_getElem?_inOrder hperm hf)

theorem says_of_error (h : Course r n made g) {e : Failure} (ho : g.result = .error e) :
    ∃ place, r.Says n made place (.error e) := by
  rw [Gate.result] at ho
  split at ho
  · next he =>
      cases ho
      rw [Gate.failure?] at he
      split at he
      · cases he
      · obtain ⟨place, hm⟩ := Fanout.mem_of_ending? he
        exact ⟨place, h.outcomes.failures _ hm⟩
  · cases ho

theorem agrees_of_ok (h : Course r n made g) (hs : g.step? = none)
    (hp : 0 < g.free + g.flights.length) {findings : List Finding} (ho : g.result = .ok findings)
    {place : Nat} {p : Port} {c : Connection} {f : Finding} (hport : r.ports[place]? = some p)
    (hmade : made[place]? = some c) (hf : findings[place]? = some f) :
    Agrees p c (n.moment c.start) (r.aloneAt n place p c.start) f := by
  obtain ⟨q, d, hq, hd, hj⟩ := (h.says_of_ok hs hp ho).2.2 place f hf
  obtain rfl : p = q := Option.some.inj (hport.symm.trans hq)
  obtain rfl : c = d := Option.some.inj (hmade.symm.trans hd)
  rw [h.makes.aloneAt hport hmade]
  exact Connection.agrees_of_judgeAmong hj

/-- A failed scan fails as the scan of one of its ports alone does. -/
theorem alone_of_error (h : Course r n made g) {e : Failure} (ho : g.result = .error e) :
    e.isPerPort = false ∧ ∃ place p c, r.ports[place]? = some p ∧ made[place]? = some c ∧
      r.aloneAt n place p c.start = .error e := by
  obtain ⟨place, p, c, hport, hmade, hj⟩ := h.says_of_error ho
  obtain ⟨hj, hfatal⟩ := Connection.judge_of_judgeAmong hj
  exact ⟨hfatal, place, p, c, hport, hmade, (h.makes.aloneAt hport hmade).trans hj⟩

end Course

namespace ListRequest

/-- The answer with which an attempt ends says the same whenever the attempt starts. -/
theorem aloneAt_eq_error {place : Nat} {p : Port} {start later : Nat} {e : Failure}
    (h : r.aloneAt n place p start = .error e) : r.aloneAt n place p later = .error e :=
  Connection.judge_eq_error (c := r.connectionAt n place p start)
    (d := r.connectionAt n place p later) rfl h

theorem run_eq (hr : 0 < r.maxConcurrent) :
    r.run n = ((Gate.of r n).run.result, (Gate.of r n).run.network) := if_neg (Nat.ne_of_gt hr)

theorem exists_course_run (n : Network σ) (hr : 0 < r.maxConcurrent) :
    ∃ made g, Course r n made g ∧ g.step? = none ∧ 0 < g.free + g.flights.length ∧
      r.run n = (g.result, g.network) := by
  obtain ⟨made, h⟩ := Course.exists_run r n
  exact ⟨made, _, h, Gate.step?_run _, Gate.free_add_flights_pos hr (Gate.steps_run _), run_eq hr⟩

theorem Accord.of_course {g : Gate σ} (h : Course r n made g) (hs : g.step? = none)
    (hp : 0 < g.free + g.flights.length) : r.Accord n (g.result, g.network) made where
  connections := h.connections
  length_le := h.makes.length_le
  makes := h.makes
  ok_iff := by
    constructor
    · rintro ⟨findings, ho⟩ place p start e hport he
      obtain ⟨hmade, hfindings, _⟩ := h.says_of_ok hs hp ho
      have hplace := (List.getElem?_eq_some_iff.1 hport).1
      have hc := List.getElem?_eq_getElem (hmade ▸ hplace)
      have hf := List.getElem?_eq_getElem (hfindings ▸ hplace)
      have ha := h.agrees_of_ok hs hp ho hport hc hf
      rw [aloneAt_eq_error he] at ha
      exact ha.isPerPort
    · intro hnone
      cases ho : g.result with
      | ok findings => exact ⟨findings, rfl⟩
      | error e =>
          obtain ⟨hfatal, place, p, c, hport, _, ha⟩ := h.alone_of_error ho
          rw [hnone place p c.start e hport ha] at hfatal
          cases hfatal
  findings := by
    intro findings ho
    obtain ⟨hmade, hfindings, _⟩ := h.says_of_ok hs hp ho
    exact ⟨hmade, hfindings, fun place p c f => h.agrees_of_ok hs hp ho⟩
  failure := by
    intro e he
    obtain ⟨hfatal, place, p, c, hport, hmade, ha⟩ := h.alone_of_error he
    refine ⟨?_, place, p, c, hport, hmade, ha⟩
    obtain ⟨f, rfl⟩ := Connection.exists_of_judge ((h.makes.aloneAt hport hmade).symm.trans ha)
    exact Failure.ofFault_of_not_isPerPort hfatal

/-- Two scans of the same ports of a target that meet the same answers, each with its own timeout,
limit, clock and delays. -/
structure Alike (r : ListRequest) (n : Network σ) (r' : ListRequest) (n' : Network τ) : Prop where
  target : r'.target = r.target
  ports : r'.ports = r.ports
  answer : ∀ place p, r.ports[place]? = some p →
    (r'.attemptAt n' place p).answer = (r.attemptAt n place p).answer

variable {r' : ListRequest} {n' : Network τ}

theorem Alike.aloneAt_eq_error (h : r.Alike n r' n') {place : Nat} {p : Port} {start later : Nat}
    {e : Failure} (hp : r.ports[place]? = some p) (he : r'.aloneAt n' place p start = .error e) :
    r.aloneAt n place p later = .error e := by
  have hj : (r'.connectionAt n' place p start).judge r.target p (n'.moment start) = .error e :=
    h.target ▸ he
  exact Connection.judge_eq_error (d := r.connectionAt n place p later) (h.answer place p hp) hj

theorem Alike.said_eq (h : r.Alike n r' n') {made made' : List Connection} {place : Nat}
    {f f' : Finding} (hm : r.Makes n made) (hm' : r'.Makes n' made')
    (hf : r.Says n made place (.ok f)) (hf' : r'.Says n' made' place (.ok f')) :
    f'.said = f.said := by
  obtain ⟨p, c, hp, hc, hj⟩ := hf
  obtain ⟨p', c', hp', hc', hj'⟩ := hf'
  obtain rfl : p' = p := Option.some.inj (hp'.symm.trans (h.ports ▸ hp))
  rw [h.target] at hj'
  refine Connection.said_eq ?_ hj' hj
  rw [hm'.attempt hp' hc', hm.attempt hp hc]
  exact h.answer place p' hp

theorem Alike.map_said_eq (h : r.Alike n r' n') (hr : 0 < r.maxConcurrent)
    (hr' : 0 < r'.maxConcurrent) {findings findings' : List Finding}
    (ho : (r.run n).1 = .ok findings) (ho' : (r'.run n').1 = .ok findings') :
    findings'.map Finding.said = findings.map Finding.said := by
  obtain ⟨made, g, hg, hs, hp, he⟩ := exists_course_run n hr
  obtain ⟨made', g', hg', hs', hp', he'⟩ := exists_course_run n' hr'
  rw [he] at ho
  rw [he'] at ho'
  obtain ⟨_, hl, hf⟩ := hg.says_of_ok hs hp ho
  obtain ⟨_, hl', hf'⟩ := hg'.says_of_ok hs' hp' ho'
  rw [h.ports] at hl'
  apply List.ext_getElem
  · rw [List.length_map, List.length_map, hl, hl']
  · intro place hplace' hplace
    rw [List.length_map] at hplace hplace'
    rw [List.getElem_map, List.getElem_map]
    exact h.said_eq hg.makes hg'.makes (hf place _ (List.getElem?_eq_getElem hplace))
      (hf' place _ (List.getElem?_eq_getElem hplace'))

theorem Alike.symm (h : r.Alike n r' n') : r'.Alike n' r n where
  target := h.target.symm
  ports := h.ports.symm
  answer := by
    intro place p hp
    rw [h.ports] at hp
    exact (h.answer place p hp).symm

theorem exists_accord (r : ListRequest) (n : Network σ) (hr : 0 < r.maxConcurrent) :
    ∃ made, r.Accord n (r.run n) made := by
  obtain ⟨made, g, h, hs, hp, he⟩ := exists_course_run n hr
  rw [he]
  exact ⟨made, .of_course h hs hp⟩

theorem Alike.ok_of_ok (h : r.Alike n r' n') (hr : 0 < r.maxConcurrent)
    (hr' : 0 < r'.maxConcurrent) (ho : ∃ findings, (r.run n).1 = .ok findings) :
    ∃ findings, (r'.run n').1 = .ok findings := by
  obtain ⟨made, ha⟩ := exists_accord r n hr
  obtain ⟨made', ha'⟩ := exists_accord r' n' hr'
  rw [ha'.ok_iff]
  intro place p start e hp he
  rw [h.ports] at hp
  exact ha.ok_iff.1 ho place p 0 e hp (h.aloneAt_eq_error hp he)

end ListRequest

/-- A scan of many ports makes at most one attempt for each place of the list and says of each what
the scan of its port alone says, unless an attempt fails in a way that ends the scan. No delay and
no limit shows in what it says. -/
theorem scan_agrees (r : ListRequest) (n : Network σ) (hr : 0 < r.maxConcurrent) :
    (∃ made, r.Accord n (r.run n) made) ∧
    ∀ {τ : Type} (r' : ListRequest) (n' : Network τ), 0 < r'.maxConcurrent → r.Alike n r' n' →
      ((∃ findings, (r'.run n').1 = .ok findings) ↔ ∃ findings, (r.run n).1 = .ok findings) ∧
      ∀ findings findings', (r.run n).1 = .ok findings → (r'.run n').1 = .ok findings' →
        findings'.map Finding.said = findings.map Finding.said := by
  refine ⟨r.exists_accord n hr, ?_⟩
  intro τ r' n' hr' h
  constructor
  · exact ⟨h.symm.ok_of_ok hr' hr, h.ok_of_ok hr hr'⟩
  · intro findings findings' ho ho'
    exact h.map_said_eq hr hr' ho ho'

def Network.topsyTurvy : Network Unit :=
  { Network.prompt with connect := fun s endpoint _ => (⟨65535 - endpoint.port.toNat, .ok ()⟩, s) }

/-- Two ports say the same one at a time and side by side with the second answer first. -/
theorem scan_agrees_oneByOne : ∃ findings findings',
    (ListRequest.oneByOne.run Network.prompt).1 = .ok findings ∧
    (ListRequest.run { ListRequest.oneByOne with maxConcurrent := 2 } Network.topsyTurvy).1 =
      .ok findings' ∧
    findings.length = 2 ∧ findings'.map Finding.said = findings.map Finding.said := by
  obtain ⟨⟨made, haccord⟩, hother⟩ := scan_agrees .oneByOne .prompt (by decide)
  obtain ⟨findings, ho⟩ := haccord.ok_iff.2 (fun _ _ _ _ _ he => nomatch he)
  obtain ⟨hok, hsaid⟩ := hother { ListRequest.oneByOne with maxConcurrent := 2 } .topsyTurvy
    (by decide) ⟨rfl, rfl, fun _ _ _ => rfl⟩
  obtain ⟨findings', ho'⟩ := hok.2 ⟨findings, ho⟩
  exact ⟨findings, findings', ho, ho', (haccord.findings findings ho).2.1,
    hsaid findings findings' ho ho'⟩

end HostProbe.Scan
