import HostProbe.Proofs.Fanout
import HostProbe.Proofs.Scan.Gate
import HostProbe.Proofs.Scan.Traffic

namespace HostProbe.Scan

variable {σ : Type}

namespace ListRequest

def single (r : ListRequest) (p : Port) : PortRequest := ⟨r.target, p, r.timeout⟩

def stateAt (r : ListRequest) (n : Network σ) (place : Nat) : σ :=
  (r.ports.take place).foldl
    (fun s p => (n.connect s (.of r.target.numeric p.number) r.timeout.nanos).2) n.state

def attemptAt (r : ListRequest) (n : Network σ) (place : Nat) (p : Port) : Attempt :=
  (n.connect (r.stateAt n place) (.of r.target.numeric p.number) r.timeout.nanos).1

def connectionAt (r : ListRequest) (n : Network σ) (place : Nat) (p : Port) (start : Nat) :
    Connection :=
  ⟨.of r.target.numeric p.number, r.timeout.nanos, start, r.attemptAt n place p⟩

def aloneAt (r : ListRequest) (n : Network σ) (place : Nat) (p : Port) (start : Nat) :
    Except Failure Finding :=
  ((r.single p).run { n with state := r.stateAt n place, clock := start }).1

def Makes (r : ListRequest) (n : Network σ) (made : List Connection) : Prop :=
  ∀ place c, made[place]? = some c →
    ∃ p, r.ports[place]? = some p ∧ c = r.connectionAt n place p c.start

def Says (r : ListRequest) (n : Network σ) (made : List Connection) (place : Nat)
    (outcome : Except Failure Finding) : Prop :=
  ∃ p c, r.ports[place]? = some p ∧ made[place]? = some c ∧
    c.judgeAmong r.target p (n.moment c.start) = outcome

section Made

variable {r : ListRequest} {n : Network σ} {made : List Connection}

theorem stateAt_succ {place : Nat} {p : Port} (hp : r.ports[place]? = some p) :
    r.stateAt n (place + 1) =
      (n.connect (r.stateAt n place) (.of r.target.numeric p.number) r.timeout.nanos).2 := by
  simp only [stateAt, List.take_add_one, hp, Option.toList_some, List.foldl_append,
    List.foldl_cons, List.foldl_nil]

theorem getElem?_append_some {place : Nat} {c d : Connection} (h : made[place]? = some c) :
    (made ++ [d])[place]? = some c := by
  rw [List.getElem?_append_left (List.getElem?_eq_some_iff.1 h).1, h]

theorem Makes.snoc (h : r.Makes n made) {p : Port} (hp : r.ports[made.length]? = some p)
    (start : Nat) : r.Makes n (made ++ [r.connectionAt n made.length p start]) := by
  intro place c hc
  rcases Nat.lt_or_ge place made.length with hl | hl
  · rw [List.getElem?_append_left hl] at hc
    exact h place c hc
  · rw [List.getElem?_append_right hl, List.getElem?_singleton] at hc
    split at hc
    · next he =>
        obtain rfl : place = made.length := by omega
        cases hc
        exact ⟨p, hp, rfl⟩
    · cases hc

theorem Makes.length_le (h : r.Makes n made) : made.length ≤ r.ports.length := by
  cases hm : made.getLast? with
  | none =>
      rw [List.getLast?_eq_none_iff.1 hm]
      exact Nat.zero_le _
  | some c =>
      rw [List.getLast?_eq_getElem?] at hm
      obtain ⟨p, hp, _⟩ := h _ c hm
      have hl := (List.getElem?_eq_some_iff.1 hp).1
      omega

theorem Makes.attempt (h : r.Makes n made) {place : Nat} {p : Port} {c : Connection}
    (hp : r.ports[place]? = some p) (hc : made[place]? = some c) :
    c.attempt = r.attemptAt n place p := by
  obtain ⟨q, hq, he⟩ := h place c hc
  obtain rfl : p = q := Option.some.inj (hp.symm.trans hq)
  rw [he]
  rfl

theorem Makes.aloneAt (h : r.Makes n made) {place : Nat} {p : Port} {c : Connection}
    (hp : r.ports[place]? = some p) (hc : made[place]? = some c) :
    r.aloneAt n place p c.start = c.judge r.target p (n.moment c.start) := by
  obtain ⟨q, hq, he⟩ := h place c hc
  obtain rfl : p = q := Option.some.inj (hp.symm.trans hq)
  rw [he]
  rfl

theorem Says.snoc {place : Nat} {outcome : Except Failure Finding}
    (h : r.Says n made place outcome) (d : Connection) : r.Says n (made ++ [d]) place outcome := by
  obtain ⟨p, c, hp, hc, ho⟩ := h
  exact ⟨p, c, hp, getElem?_append_some hc, ho⟩

end Made

end ListRequest

structure Course (r : ListRequest) (n : Network σ) (made : List Connection) (g : Gate σ) : Prop where
  target : g.target = r.target
  timeout : g.timeout = r.timeout
  size : g.size = r.ports.length
  connect : g.network.connect = n.connect
  moment : g.network.moment = n.moment
  state : g.network.state = r.stateAt n made.length
  connections : g.network.connections = made.reverse ++ n.connections
  makes : r.Makes n made
  waiting : g.waiting = (r.ports.mapIdx Job.mk).drop made.length
  flights : ∀ f ∈ g.flights,
    r.ports[f.job.position]? = some f.job.port ∧ made[f.job.position]? = some f.connection
  outcomes : g.outcomes.All (r.Says n made)
  places : (g.outcomes.places ++ Flight.places g.flights).Perm (List.range made.length)

namespace Course

variable {r : ListRequest} {n : Network σ} {made : List Connection} {g : Gate σ}

theorem init (r : ListRequest) (n : Network σ) : Course r n [] (Gate.of r n) where
  target := rfl
  timeout := rfl
  size := rfl
  connect := rfl
  moment := rfl
  state := rfl
  connections := rfl
  makes := fun _ _ h => nomatch h
  waiting := rfl
  flights := List.forall_mem_nil _
  outcomes := ⟨List.forall_mem_nil _, List.forall_mem_nil _⟩
  places := .nil

theorem land (h : Course r n made g) {f : Flight} {due : List Flight} (hd : g.due = f :: due) :
    Course r n made ({ g with due }.land f) := by
  have hflights : g.flights.Perm (f :: (g.flying ++ due)) := by
    rw [Gate.flights, hd]
    exact List.perm_middle
  have hf := h.flights f (hflights.mem_iff.2 List.mem_cons_self)
  have hverdict : Gate.verdict { g with due } f =
      f.connection.judgeAmong r.target f.job.port (n.moment f.connection.start) := by
    change f.connection.judgeAmong g.target f.job.port (g.network.moment _) = _
    rw [h.target, h.moment]
  exact {
    target := h.target
    timeout := h.timeout
    size := h.size
    connect := h.connect
    moment := h.moment
    state := h.state
    connections := h.connections
    makes := h.makes
    waiting := h.waiting
    flights := fun k hk => h.flights k (hflights.mem_iff.2 (List.mem_cons_of_mem _ hk))
    outcomes := h.outcomes.add ⟨f.job.port, f.connection, hf.1, hf.2, hverdict.symm⟩
    places := by
      refine .trans ?_ h.places
      refine ((Fanout.State.places_add _ _ _).append_right _).trans ?_
      refine .trans ?_ ((hflights.symm.map fun f => f.job.position).append_left _)
      exact List.perm_middle.symm }

theorem depart (h : Course r n made g) {job : Job} {waiting : List Job} {free : Nat}
    (hw : g.waiting = job :: waiting) :
    ∃ c, Course r n (made ++ [c]) ({ g with waiting, free }.depart job) := by
  have hd : (r.ports.mapIdx Job.mk).drop made.length = job :: waiting := h.waiting.symm.trans hw
  have hj : (r.ports.mapIdx Job.mk)[made.length]? = some job := by
    rw [← List.head?_drop, hd]
    rfl
  rw [List.getElem?_mapIdx, Option.map_eq_some_iff] at hj
  obtain ⟨p, hp, rfl⟩ := hj
  obtain ⟨flying, due, he, hflights⟩ :=
    Gate.exists_depart_eq { g with waiting, free } ⟨made.length, p⟩
  have hc : (Gate.connecting { g with waiting, free } ⟨made.length, p⟩).1 =
      r.connectionAt n made.length p g.network.clock := by
    change (⟨.of g.target.numeric p.number, g.timeout.nanos, g.network.clock,
      (g.network.connect g.network.state _ _).1⟩ : Connection) = _
    rw [h.target, h.timeout, h.connect, h.state]
    rfl
  refine ⟨r.connectionAt n made.length p g.network.clock, ?_⟩
  rw [he]
  exact {
    target := h.target
    timeout := h.timeout
    size := h.size
    connect := h.connect
    moment := h.moment
    state := by
      rw [List.length_append]
      change (g.network.connect g.network.state (.of g.target.numeric p.number)
        g.timeout.nanos).2 = _
      rw [h.target, h.timeout, h.connect, h.state]
      exact (ListRequest.stateAt_succ hp).symm
    connections := by
      change (Gate.connecting { g with waiting, free } ⟨made.length, p⟩).1 ::
        g.network.connections = _
      rw [hc, h.connections, List.reverse_concat, List.cons_append]
    makes := h.makes.snoc hp _
    waiting := by
      rw [List.length_append, List.length_singleton, ← List.drop_drop, hd]
      rfl
    flights := by
      intro f hf
      rcases List.mem_cons.1 (hflights.mem_iff.1 hf) with rfl | hf
      · refine ⟨hp, ?_⟩
        rw [Gate.departure, hc]
        exact List.getElem?_concat_length
      · obtain ⟨hport, hmade⟩ := h.flights f hf
        exact ⟨hport, ListRequest.getElem?_append_some hmade⟩
    outcomes := ⟨fun x hx => (h.outcomes.results x hx).snoc _,
      fun x hx => (h.outcomes.failures x hx).snoc _⟩
    places := by
      rw [List.length_append, List.length_singleton, List.range_succ]
      refine ((hflights.map fun f => f.job.position).append_left _).trans ?_
      refine List.perm_middle.trans ((h.places.cons _).trans ?_)
      exact (List.perm_append_singleton _ _).symm }

theorem pass (h : Course r n made g) (hd : g.due = []) (clock : Nat) :
    Course r n made (g.pass clock) where
  target := h.target
  timeout := h.timeout
  size := h.size
  connect := h.connect
  moment := h.moment
  state := h.state
  connections := h.connections
  makes := h.makes
  waiting := h.waiting
  flights := fun f hf => h.flights f ((Gate.flights_pass hd clock).mem_iff.1 hf)
  outcomes := h.outcomes
  places := (((Gate.flights_pass hd clock).map fun f => f.job.position).append_left _).trans h.places

/-- Every step of a gate goes on with the course of its scan. -/
theorem next (h : Course r n made g) {u : Gate σ} (hn : g.Next u) : ∃ more, Course r n more u := by
  cases hn with
  | land hd => exact ⟨made, h.land hd⟩
  | launch hw _ =>
      obtain ⟨c, hc⟩ := h.depart hw
      exact ⟨made ++ [c], hc⟩
  | pass hd _ => exact ⟨made, h.pass hd _⟩

theorem exists_of_steps {r : ListRequest} {n : Network σ} {g : Gate σ} (h : (Gate.of r n).Steps g) :
    ∃ made, Course r n made g := by
  refine Gate.steps_induction (P := fun g => ∃ made, Course r n made g) ?_ ⟨[], init r n⟩ h
  rintro g u ⟨made, h⟩ hn
  exact h.next hn

theorem exists_run (r : ListRequest) (n : Network σ) : ∃ made, Course r n made (Gate.of r n).run :=
  exists_of_steps (Gate.of r n).steps_run

end Course

end HostProbe.Scan
