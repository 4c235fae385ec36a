import HostProbe.Proofs.Fanout
import HostProbe.Scan.Gate
import Mathlib.Logic.Relation

namespace HostProbe.Scan.Gate

variable {σ : Type}

theorem permitsFor_le (maxConcurrent size : Nat) : permitsFor maxConcurrent size ≤ maxConcurrent :=
  Nat.le_trans (Nat.min_le_left _ _) (Nat.min_le_left _ _)

theorem permitsFor_pos {maxConcurrent : Nat} (h : 0 < maxConcurrent) (size : Nat) :
    0 < permitsFor maxConcurrent size := by
  have hm : 0 < maxPermits := by decide
  unfold permitsFor
  omega

def flights (g : Gate σ) : List Flight := g.flying ++ g.due

inductive Next (g : Gate σ) : Gate σ → Prop where
  | land {f : Flight} {due : List Flight} (hd : g.due = f :: due) : Next g ({ g with due }.land f)
  | launch {job : Job} {waiting : List Job} {free : Nat} (hw : g.waiting = job :: waiting)
      (hf : g.free = free + 1) : Next g ({ g with waiting, free }.depart job)
  | pass {clock : Nat} (hd : g.due = []) (hc : g.next? = some clock) : Next g (g.pass clock)

theorem next_of_step? {g t : Gate σ} (h : g.step? = some t) : g.Next t := by
  rw [step?] at h
  split at h
  · cases h
  split at h
  · next f due hd =>
      cases h
      exact .land hd
  · next hd =>
      split at h
      · next job waiting free hw hf =>
          cases h
          rw [launch, hf]
          exact .launch hw hf
      · obtain ⟨clock, hc, rfl⟩ := Option.map_eq_some_iff.1 h
        exact .pass hd hc

/-- A gate that comes to rest without a failure has nothing under way, and what still waits finds no
permit. -/
theorem rest_of_step? {g : Gate σ} (h : g.step? = none) (hf : g.failure? = none) :
    g.flights = [] ∧ (g.waiting = [] ∨ g.free = 0) := by
  rw [step?, hf] at h
  simp only [Option.isSome_none, Bool.false_eq_true, ↓reduceIte] at h
  split at h
  · cases h
  · next hd =>
      split at h
      · cases h
      · next hw =>
          have hn : g.flying = [] := by
            simpa only [next?, Option.map_eq_none_iff, List.min?_eq_none_iff, List.map_eq_nil_iff]
              using h
          refine ⟨by rw [flights, hn, hd]; rfl, ?_⟩
          cases hwait : g.waiting with
          | nil => exact .inl rfl
          | cons job waiting =>
              cases hfree : g.free with
              | zero => exact .inr rfl
              | succ free => exact absurd hfree (hw job waiting free hwait)

/-- Without anything under way or waiting, a gate without an ending failure has no failure. -/
theorem failures_eq_nil {g : Gate σ} (hf : g.failure? = none) (hl : g.flights = [])
    (hw : g.waiting = []) : g.outcomes.failures = [] := by
  cases he : g.outcomes.failures with
  | nil => rfl
  | cons x failures =>
      have hc (position : Nat) : g.isClear position = true := by
        change (g.flights.all _ && g.waiting.all _) = true
        rw [hl, hw]
        rfl
      rw [failure?] at hf
      rw [he] at hf
      exact absurd hf (Fanout.ending?_ne_none hc x failures)

abbrev Steps : Gate σ → Gate σ → Prop := Relation.ReflTransGen fun s t => s.step? = some t

theorem steps_run (g : Gate σ) : g.Steps g.run := by
  fun_induction run g with
  | case1 => exact .refl
  | case2 g t ht ih => exact .head ht ih

/-- What holds before some steps and is kept by each of them holds after them. -/
theorem steps_induction {P : Gate σ → Prop} (step : ∀ {g t : Gate σ}, P g → g.Next t → P t)
    {g u : Gate σ} (h : P g) (hs : g.Steps u) : P u := by
  induction hs with
  | refl => exact h
  | tail _ hs ih => exact step ih (next_of_step? hs)

theorem step?_run (g : Gate σ) : g.run.step? = none := by
  fun_induction run g with
  | case1 g ht => exact ht
  | case2 g t ht ih => exact ih

theorem run_of_step?_eq_none {g : Gate σ} (h : g.step? = none) : g.run = g := by
  unfold run
  split
  · rfl
  · next ht => cases h.symm.trans ht

theorem run_eq_of_steps {g u : Gate σ} (h : g.Steps u) : g.run = u.run := by
  induction h with
  | refl => rfl
  | @tail s t _ hs ih =>
      rw [ih, run]
      split
      · next hn => cases hn.symm.trans hs
      · next ht => rw [Option.some.inj (ht.symm.trans hs)]

def connecting (g : Gate σ) (job : Job) : Connection × Network σ :=
  g.network.start (.of g.target.numeric job.port.number) g.timeout.nanos (g.permits - g.free - 1)

def departure (g : Gate σ) (job : Job) : Flight := ⟨job, (g.connecting job).1⟩

theorem depart_eq (g : Gate σ) (job : Job) : g.depart job =
    if (g.departure job).connection.attempt.duration = 0 then
      { g with network := (g.connecting job).2, due := g.due ++ [g.departure job] }
    else { g with network := (g.connecting job).2, flying := g.departure job :: g.flying } := rfl

theorem exists_depart_eq (g : Gate σ) (job : Job) : ∃ flying due, g.depart job =
    { g with network := (g.connecting job).2, flying, due } ∧
      (flying ++ due).Perm (g.departure job :: g.flights) := by
  rw [depart_eq]
  split
  · refine ⟨_, _, rfl, ?_⟩
    rw [← List.append_assoc]
    exact List.perm_append_comm
  · exact ⟨_, _, rfl, .rfl⟩

theorem flights_pass {g : Gate σ} (hd : g.due = []) (clock : Nat) :
    (g.pass clock).flights.Perm g.flights := by
  simp only [flights, pass, hd, List.append_nil]
  exact (List.perm_append_comm.trans ((List.reverse_perm _).append_right _)).trans
    (List.filter_append_perm _ _)

end HostProbe.Scan.Gate
