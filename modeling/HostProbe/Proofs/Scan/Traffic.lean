import HostProbe.Proofs.Fanout
import HostProbe.Proofs.Scan.Gate
import HostProbe.Scan.Sweep
import Mathlib.Data.List.Count
import Mathlib.Logic.Relation

namespace HostProbe.Scan

variable {σ : Type}

/-- A gate under any schedule. Jobs on board have a permit and have not started to connect; places
that took a permit or gave one back are kept, the latest first. -/
structure Traffic (σ : Type) where
  gate : Gate σ
  boarding : List Job
  taken : List Nat
  returned : List Nat

def Job.places (jobs : List Job) : List Nat := jobs.map Job.position

def Flight.places (flights : List Flight) : List Nat := flights.map fun f => f.job.position

def Flight.answering (f : Flight) (answer : Except Fault Unit) : Flight :=
  { f with connection := { f.connection with attempt := { f.connection.attempt with answer } } }

theorem Gate.places_waiting_of (r : ListRequest) (n : Network σ) :
    Job.places (Gate.of r n).waiting = List.range r.ports.length :=
  List.ext_getElem (by simp [Job.places, Gate.of]) (by simp [Job.places, Gate.of])

namespace Traffic

def of (g : Gate σ) : Traffic σ := ⟨g, [], [], []⟩

def inFlight (t : Traffic σ) : Nat := t.gate.flights.length

def out (t : Traffic σ) : Nat := t.gate.permits - t.gate.free

def ended (t : Traffic σ) : List Nat := t.gate.outcomes.places

def holding (t : Traffic σ) : List Nat := Job.places t.boarding ++ Flight.places t.gate.flights

theorem length_holding (t : Traffic σ) : t.holding.length = t.boarding.length + t.inFlight := by
  simp only [holding, Job.places, Flight.places, inFlight, List.length_append, List.length_map]

def dropped (t : Traffic σ) : Traffic σ where
  gate := { t.gate with
    waiting := []
    flying := []
    due := []
    free := t.gate.free + t.holding.length }
  boarding := []
  taken := t.taken
  returned := t.holding ++ t.returned

inductive Move (t : Traffic σ) : Traffic σ → Prop where
  | take {before after : List Job} {job : Job} {free : Nat}
      (hw : t.gate.waiting = before ++ job :: after) (hf : t.gate.free = free + 1) :
      Move t ⟨{ t.gate with waiting := before ++ after, free }, job :: t.boarding,
        job.position :: t.taken, t.returned⟩
  | start {before after : List Job} {job : Job} (hb : t.boarding = before ++ job :: after) :
      Move t ⟨t.gate.depart job, before ++ after, t.taken, t.returned⟩
  | finish {flying due before after : List Flight} {f : Flight} (answer : Except Fault Unit)
      (hf : t.gate.flights = before ++ f :: after) (hr : flying ++ due = before ++ after) :
      Move t ⟨{ t.gate with flying, due }.land (f.answering answer), t.boarding, t.taken,
        f.job.position :: t.returned⟩
  | pass (clock : Nat) (hd : t.gate.due = []) :
      Move t ⟨t.gate.pass clock, t.boarding, t.taken, t.returned⟩
  | drop : Move t t.dropped

abbrev Reaches : Traffic σ → Traffic σ → Prop := Relation.ReflTransGen Move

/-- The moves of a scan that nobody drops. Where nothing is left to be done a drop changes nothing,
and no other move is lost with it. -/
abbrev Proceeds : Traffic σ → Traffic σ → Prop :=
  Relation.ReflTransGen fun t u => t.Move u ∧ u ≠ t.dropped

theorem Proceeds.reaches {s t : Traffic σ} (h : Proceeds s t) : Reaches s t :=
  Relation.ReflTransGen.mono (fun _ _ hm => hm.1) _ _ h

/-- The books of a gate with so many permits, whose network has seen so many attempts at once. Every
permit is free or held by one place, and a place that ended has brought its permit back. -/
structure Balanced (permits most : Nat) (t : Traffic σ) : Prop where
  capacity : t.gate.permits = permits
  balance : t.gate.free + t.taken.length = t.gate.permits + t.returned.length
  holders : t.taken.Perm (t.holding ++ t.returned)
  once : (t.taken ++ Job.places t.gate.waiting).Nodup
  ended : t.ended ⊆ t.returned
  peak_ge : t.inFlight ≤ t.gate.network.peak
  peak_le : t.gate.network.peak ≤ max most permits

section Balance

variable {permits most : Nat} {t : Traffic σ} (h : t.Balanced permits most)
include h

theorem Balanced.free_add_holding : t.gate.free + t.holding.length = t.gate.permits := by
  have hb := h.balance
  have hl := h.holders.length_eq
  rw [List.length_append] at hl
  omega

theorem balanced_take {before after : List Job} {job : Job} {free : Nat}
    (hw : t.gate.waiting = before ++ job :: after) (hf : t.gate.free = free + 1) :
    Balanced permits most ⟨{ t.gate with waiting := before ++ after, free }, job :: t.boarding,
      job.position :: t.taken, t.returned⟩ where
  capacity := h.capacity
  balance := by
    have hb := h.balance
    simp only [List.length_cons]
    omega
  holders := h.holders.cons _
  once := by
    have ho := h.once
    simp only [hw, Job.places, List.map_append, List.map_cons] at ho ⊢
    refine (List.Perm.nodup_iff ?_).1 ho
    rw [List.cons_append, ← List.append_assoc, ← List.append_assoc]
    exact List.perm_middle
  ended := h.ended
  peak_ge := h.peak_ge
  peak_le := h.peak_le

/-- A job that starts to connect goes on to hold its permit. -/
theorem balanced_start {before after : List Job} {job : Job}
    (hb : t.boarding = before ++ job :: after) :
    Balanced permits most ⟨t.gate.depart job, before ++ after, t.taken, t.returned⟩ := by
  obtain ⟨flying, due, he, hp⟩ := t.gate.exists_depart_eq job
  have hholding : t.holding.Perm (Job.places (before ++ after) ++ Flight.places (flying ++ due)) := by
    refine .trans ?_ ((hp.symm.map fun f => f.job.position).append_left _)
    simp only [holding, Job.places, Flight.places, hb, List.map_append, List.map_cons,
      List.append_assoc, List.cons_append]
    exact List.perm_middle.symm.append_left _
  have hflights : (flying ++ due).length = t.gate.flights.length + 1 := hp.length_eq
  have hlength : t.gate.flights.length + 1 ≤ t.holding.length := by
    simp only [holding, Job.places, Flight.places, hb, List.length_append, List.length_map,
      List.length_cons]
    omega
  have hfree := h.free_add_holding
  have hcap := h.capacity
  have hge := h.peak_ge
  have hle := h.peak_le
  have hpeak : (t.gate.connecting job).2.peak =
      max t.gate.network.peak (t.gate.permits - t.gate.free - 1 + 1) := rfl
  rw [he]
  exact {
    capacity := hcap
    balance := h.balance
    holders := h.holders.trans (hholding.append_right _)
    once := h.once
    ended := h.ended
    peak_ge := by
      change (flying ++ due).length ≤ (t.gate.connecting job).2.peak
      omega
    peak_le := by
      change (t.gate.connecting job).2.peak ≤ _
      omega }

theorem balanced_finish {flying due before after : List Flight} {f : Flight}
    (answer : Except Fault Unit) (hf : t.gate.flights = before ++ f :: after)
    (hr : flying ++ due = before ++ after) :
    Balanced permits most ⟨{ t.gate with flying, due }.land (f.answering answer), t.boarding, t.taken,
      f.job.position :: t.returned⟩ := by
  have hholding : t.holding.Perm
      (f.job.position :: (Job.places t.boarding ++ Flight.places (flying ++ due))) := by
    simp only [holding, hf, hr, Flight.places, List.map_append, List.map_cons]
    rw [← List.append_assoc, ← List.append_assoc]
    exact List.perm_middle
  have hlength := hholding.length_eq
  have hb := h.balance
  have hge := h.peak_ge
  exact {
    capacity := h.capacity
    balance := by
      change t.gate.free + 1 + t.taken.length = t.gate.permits + (t.returned.length + 1)
      omega
    holders := h.holders.trans ((hholding.append_right _).trans List.perm_middle.symm)
    once := h.once
    ended := by
      intro p hp
      rcases List.mem_cons.1 ((Fanout.State.places_add _ _ _).mem_iff.1 hp) with rfl | hp
      · exact List.mem_cons_self
      · exact List.mem_cons_of_mem _ (h.ended hp)
    peak_ge := by
      change (flying ++ due).length ≤ t.gate.network.peak
      rw [inFlight, hf] at hge
      simp only [hr, List.length_append, List.length_cons] at hge ⊢
      omega
    peak_le := h.peak_le }

theorem balanced_pass (clock : Nat) (hd : t.gate.due = []) :
    Balanced permits most ⟨t.gate.pass clock, t.boarding, t.taken, t.returned⟩ := by
  have hp := Gate.flights_pass hd clock
  exact {
    capacity := h.capacity
    balance := h.balance
    holders := h.holders.trans
      (((hp.symm.map fun f => f.job.position).append_left (Job.places t.boarding)).append_right _)
    once := h.once
    ended := h.ended
    peak_ge := le_of_eq_of_le hp.length_eq h.peak_ge
    peak_le := h.peak_le }

theorem balanced_dropped : Balanced permits most t.dropped where
  capacity := h.capacity
  balance := by
    have hb := h.balance
    simp only [dropped, List.length_append]
    omega
  holders := h.holders
  once := by
    rw [show Job.places t.dropped.gate.waiting = [] from rfl, List.append_nil]
    exact (List.nodup_append.1 h.once).1
  ended := fun p hp => List.mem_append_right _ (h.ended hp)
  peak_ge := Nat.zero_le _
  peak_le := h.peak_le

end Balance

theorem balanced_of (r : ListRequest) (n : Network σ) :
    (of (Gate.of r n)).Balanced (Gate.permitsFor r.maxConcurrent r.ports.length) n.peak where
  capacity := rfl
  balance := rfl
  holders := .nil
  once := by
    change ([] ++ Job.places (Gate.of r n).waiting).Nodup
    rw [List.nil_append, Gate.places_waiting_of]
    exact List.nodup_range
  ended := List.nil_subset _
  peak_ge := Nat.zero_le _
  peak_le := Nat.le_max_left _ _

theorem Balanced.move {permits most : Nat} {t u : Traffic σ} (h : t.Balanced permits most)
    (hm : t.Move u) : u.Balanced permits most := by
  cases hm with
  | take hw hf => exact balanced_take h hw hf
  | start hb => exact balanced_start h hb
  | finish answer hf hr => exact balanced_finish h answer hf hr
  | pass clock hd => exact balanced_pass h clock hd
  | drop => exact balanced_dropped h

/-- The books of a scan balance whatever its schedule. -/
theorem balanced_of_reaches {r : ListRequest} {n : Network σ} {t : Traffic σ}
    (h : Reaches (of (Gate.of r n)) t) :
    t.Balanced (Gate.permitsFor r.maxConcurrent r.ports.length) n.peak := by
  induction h with
  | refl => exact balanced_of r n
  | tail _ hm ih => exact ih.move hm

theorem ne_dropped_of_boarding {t u : Traffic σ} (h : u.boarding ≠ []) : u ≠ t.dropped := by
  rintro rfl
  exact h rfl

theorem ne_dropped_of_flights {t u : Traffic σ} (h : u.gate.flights ≠ []) : u ≠ t.dropped := by
  rintro rfl
  exact h rfl

theorem ne_dropped_of_length_ended {t u : Traffic σ} (h : t.ended.length < u.ended.length) :
    u ≠ t.dropped := by
  rintro rfl
  exact absurd h (Nat.lt_irrefl t.ended.length)

/-- A step of a gate is a schedule for it, one after which no job is left between taking its permit
and starting to connect. -/
theorem exists_proceeds_of_next {s t : Traffic σ} {g : Gate σ} (hs : Proceeds s t)
    (hb : t.boarding = []) (h : t.gate.Next g) :
    ∃ u, Proceeds s u ∧ u.gate = g ∧ u.boarding = [] := by
  cases h with
  | @land f due hd =>
      have hf : t.gate.flights = t.gate.flying ++ f :: due := by rw [Gate.flights, hd]
      have hm := Move.finish (t := t) f.connection.attempt.answer hf rfl
      have hl := (Fanout.State.places_add t.gate.outcomes f.job.position
        (Gate.verdict { t.gate with due } f)).length_eq
      exact ⟨_, hs.tail ⟨hm, ne_dropped_of_length_ended (Nat.lt_of_succ_le (Nat.le_of_eq hl.symm))⟩,
        rfl, hb⟩
  | @launch job waiting free hw hf =>
      have ht : Move t ⟨{ t.gate with waiting, free }, [job], job.position :: t.taken, t.returned⟩ :=
        hb ▸ @Move.take σ t [] waiting job free hw hf
      have htaken := hs.tail ⟨ht, ne_dropped_of_boarding (List.cons_ne_nil _ _)⟩
      obtain ⟨flying, due, he, hp⟩ := Gate.exists_depart_eq { t.gate with waiting, free } job
      have hflights : (Gate.depart { t.gate with waiting, free } job).flights ≠ [] := by
        rw [he]
        exact List.ne_nil_of_mem (hp.mem_iff.2 List.mem_cons_self)
      exact ⟨_, htaken.tail ⟨@Move.start σ _ [] [] job rfl, ne_dropped_of_flights hflights⟩, rfl, rfl⟩
  | @pass clock hd hc =>
      have hflights : (t.gate.pass clock).flights ≠ [] := by
        obtain ⟨f, hf, _⟩ := List.mem_map.1 (List.min?_mem hc)
        have hm : f ∈ t.gate.flights := List.mem_append_left _ hf
        exact List.ne_nil_of_mem ((Gate.flights_pass hd clock).mem_iff.2 hm)
      exact ⟨_, hs.tail ⟨.pass _ hd, ne_dropped_of_flights hflights⟩, rfl, hb⟩

theorem exists_proceeds_of_steps {g u : Gate σ} (h : g.Steps u) :
    ∃ t, Proceeds (of g) t ∧ t.gate = u ∧ t.boarding = [] := by
  refine Gate.steps_induction (P := fun u => ∃ t, Proceeds (of g) t ∧ t.gate = u ∧ t.boarding = [])
    ?_ ⟨_, .refl, rfl, rfl⟩ h
  rintro s u ⟨t, ht, rfl, hb⟩ hn
  exact exists_proceeds_of_next ht hb hn

theorem exists_reaches_of_steps {g u : Gate σ} (h : g.Steps u) :
    ∃ t, Reaches (of g) t ∧ t.gate = u ∧ t.boarding = [] := by
  obtain ⟨t, ht, hu⟩ := exists_proceeds_of_steps h
  exact ⟨t, ht.reaches, hu⟩

theorem exists_reaches_run (g : Gate σ) :
    ∃ t, Reaches (of g) t ∧ t.gate = g.run ∧ t.boarding = [] :=
  exists_reaches_of_steps g.steps_run

end Traffic

def ListRequest.oneByOne : ListRequest where
  target := ⟨"127.0.0.1", .v4 ⟨127, 0, 0, 1⟩⟩
  ports := [⟨22, by decide, by decide⟩, ⟨80, by decide, by decide⟩]
  timeout := ⟨.ofNat 1, by decide +kernel⟩
  maxConcurrent := 1

def Network.prompt : Network Unit where
  connect := fun s _ _ => (⟨1, .ok ()⟩, s)
  state := ()
  clock := 0
  moment := fun _ => .origin
  connections := []
  peak := 0
  journal := []

end HostProbe.Scan
