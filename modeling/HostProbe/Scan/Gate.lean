import HostProbe.Fanout
import HostProbe.Scan.Connection

namespace HostProbe.Scan

structure Job where
  position : Nat
  port : Port
deriving DecidableEq, Repr

structure Flight where
  job : Job
  connection : Connection

def Flight.isDue (clock : Nat) (f : Flight) : Bool := decide (f.connection.finish ≤ clock)

/-- A gate hands out permits for attempts. Those under way are `flying`, the latest first, until
their time is up, and then `due`, the earliest first. -/
structure Gate (σ : Type) where
  target : Address
  timeout : Timeout
  size : Nat
  permits : Nat
  free : Nat
  waiting : List Job
  flying : List Flight
  due : List Flight
  outcomes : Fanout.State Failure Finding
  network : Network σ

namespace Gate

def maxPermits : Nat := 0x1fffffffffffffff

/-- More permits than ports are of no use, but a gate has at least one. -/
def permitsFor (maxConcurrent size : Nat) : Nat := min (min maxConcurrent (max size 1)) maxPermits

def of (r : ListRequest) (network : Network σ) : Gate σ where
  target := r.target
  timeout := r.timeout
  size := r.ports.length
  permits := permitsFor r.maxConcurrent r.ports.length
  free := permitsFor r.maxConcurrent r.ports.length
  waiting := r.ports.mapIdx Job.mk
  flying := []
  due := []
  outcomes := {}
  network := network

def isClear (g : Gate σ) (position : Nat) : Bool :=
  (g.flying ++ g.due).all (fun f => position < f.job.position) &&
    g.waiting.all fun job => position < job.position

def failure? (g : Gate σ) : Option Failure :=
  match g.outcomes.failures with
  | [] => none
  | failures => Fanout.ending? g.size failures g.isClear

/-- A port that has a permit starts its attempt. One that takes no time is due at once. -/
def depart (g : Gate σ) (job : Job) : Gate σ :=
  let (c, network) := g.network.start (.of g.target.numeric job.port.number) g.timeout.nanos
    (g.permits - g.free - 1)
  let flight : Flight := ⟨job, c⟩
  if c.attempt.duration = 0 then { g with network, due := g.due ++ [flight] }
  else { g with network, flying := flight :: g.flying }

def launch (g : Gate σ) (job : Job) : Gate σ := { g with free := g.free - 1 }.depart job

def verdict (g : Gate σ) (f : Flight) : Except Failure Finding :=
  f.connection.judgeAmong g.target f.job.port (g.network.moment f.connection.start)

def land (g : Gate σ) (f : Flight) : Gate σ :=
  { g with
    free := g.free + 1
    outcomes := g.outcomes.add f.job.position (g.verdict f)
    network := g.network.note
      (f.connection.notesAmong g.target f.job.port (g.network.moment f.connection.start)) }

def pass (g : Gate σ) (clock : Nat) : Gate σ :=
  { g with
    due := (g.flying.filter (Flight.isDue clock)).reverse
    flying := g.flying.filter fun f => !Flight.isDue clock f
    network := g.network.advance clock }

def next? (g : Gate σ) : Option Nat := (g.flying.map fun f => f.connection.finish).min?

/-- The next thing that happens, if the scan goes on: an attempt that is due ends, else a waiting
port starts, else time passes. -/
def step? (g : Gate σ) : Option (Gate σ) :=
  if g.failure?.isSome then none
  else match g.due with
    | f :: due => some ({ g with due }.land f)
    | [] => match g.waiting, g.free with
      | job :: waiting, _ + 1 => some ({ g with waiting }.launch job)
      | _, _ => g.next?.map g.pass

def work (g : Gate σ) : Nat := 3 * g.waiting.length + 2 * g.flying.length + g.due.length

theorem work_land (g : Gate σ) (f : Flight) : (g.land f).work = g.work := rfl

theorem work_launch (g : Gate σ) (job : Job) : (g.launch job).work ≤ g.work + 2 := by
  simp only [launch, depart]
  split <;> simp [work] <;> omega

theorem work_pass {g : Gate σ} {clock : Nat} (h : g.next? = some clock) (hd : g.due = []) :
    (g.pass clock).work < g.work := by
  obtain ⟨f, hf, hc⟩ := List.mem_map.1 (List.min?_mem h)
  have hp : 0 < (g.flying.filter (Flight.isDue clock)).length :=
    List.length_pos_of_mem (List.mem_filter.2 ⟨hf, by simp [Flight.isDue, hc]⟩)
  have hs := List.length_eq_countP_add_countP (Flight.isDue clock) (l := g.flying)
  rw [← List.countP_eq_length_filter] at hp
  simp only [work, pass, List.length_reverse, hd, List.length_nil, ← List.countP_eq_length_filter]
  simp only [Bool.not_eq_true, Bool.decide_eq_false] at hs
  omega

theorem work_step? {g t : Gate σ} (h : g.step? = some t) : t.work < g.work := by
  unfold step? at h
  split at h
  · simp at h
  split at h
  · next f due hd =>
    cases h
    rw [work_land]
    simp [work, hd]
  · next hd =>
    split at h
    · next job waiting _ hw _ =>
      cases h
      have := work_launch { g with waiting } job
      simp only [work, hw, List.length_cons] at this ⊢
      omega
    · obtain ⟨clock, hc, rfl⟩ := Option.map_eq_some_iff.1 h
      exact work_pass hc hd

def run (g : Gate σ) : Gate σ :=
  match _h : g.step? with
  | none => g
  | some t => t.run
termination_by g.work
decreasing_by exact work_step? _h

def result (g : Gate σ) : Except Failure (List Finding) :=
  match g.failure? with
  | some e => .error e
  | none => .ok (Fanout.inOrder g.outcomes.results)

end Gate

def ListRequest.run (r : ListRequest) (n : Network σ) : Except Failure (List Finding) × Network σ :=
  if r.maxConcurrent = 0 then (.error (.ofRefusal (.concurrency 0)), n)
  else
    let g := (Gate.of r n).run
    (g.result, g.network)

end HostProbe.Scan
