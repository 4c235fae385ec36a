import HostProbe.Proofs.Fanout
import Mathlib.Data.List.Count
import Mathlib.Logic.Relation

namespace HostProbe.Fanout

variable {ε α : Type}

def State.addAll (s : State ε α) (outcomes : List (Nat × Except ε α)) : State ε α :=
  outcomes.foldl (fun s x => s.add x.1 x.2) s

theorem ending?_nil (size : Nat) (clear : Nat → Bool) :
    ending? size ([] : List (Nat × ε)) clear = none := by
  unfold ending?
  split <;> rfl

theorem failures_eq_nil_of_ending? {size : Nat} {failures : List (Nat × ε)} {clear : Nat → Bool}
    (hc : ∀ position, clear position = true) (h : ending? size failures clear = none) :
    failures = [] := by
  cases failures with
  | nil => rfl
  | cons f failures => exact absurd h (ending?_ne_none hc f failures)

/-- What has come of some of the jobs of a list, and the outcomes of all others with their
positions. -/
structure Splits (jobs : List (Except ε α)) (s : State ε α) (rest : List (Nat × Except ε α)) :
    Prop where
  past : s.All fun place outcome => jobs[place]? = some outcome
  future : ∀ x ∈ rest, jobs[x.1]? = some x.2
  places : (s.places ++ rest.map Prod.fst).Perm (List.range jobs.length)

section Settle

variable {jobs : List (Except ε α)} {s : State ε α} {rest : List (Nat × Except ε α)}

theorem Splits.add {place : Nat} {outcome : Except ε α} (h : Splits jobs s ((place, outcome) :: rest)) :
    Splits jobs (s.add place outcome) rest := by
  obtain ⟨hp, hr⟩ := List.forall_mem_cons.1 h.future
  refine ⟨h.past.add hp, hr, ?_⟩
  refine .trans ?_ h.places
  exact ((s.places_add place outcome).append_right _).trans List.perm_middle.symm

theorem Splits.eq_map_ok (h : Splits jobs s []) (hf : s.failures = []) :
    jobs = (inOrder s.results).map .ok := by
  have hp : (s.results.map Prod.fst).Perm (List.range jobs.length) := by
    simpa [State.places, hf] using h.places
  have hl := length_inOrder hp
  apply List.ext_getElem?
  intro place
  rw [List.getElem?_map]
  cases ha : (inOrder s.results)[place]? with
  | none =>
      rw [List.getElem?_eq_none_iff, hl] at ha
      simpa using ha
  | some a => exact h.past.results _ (mem_of_getElem?_inOrder hp ha)

/-- A group that has results has one for each job, in the order of the jobs. -/
theorem Splits.eq_map_of_settle {results : List α} (h : Splits jobs s rest)
    (hf : s.failures = [] ∨ rest ≠ []) (hs : settle jobs.length s rest = .ok results) :
    jobs = results.map .ok := by
  induction rest generalizing s with
  | nil =>
      rcases hf with hf | hf
      · cases hs
        exact h.eq_map_ok hf
      · exact absurd rfl hf
  | cons x rest ih =>
      rw [settle] at hs
      split at hs
      · cases hs
      · next hn =>
          refine ih h.add ?_ hs
          cases rest with
          | nil => exact .inl (failures_eq_nil_of_ending? (fun _ => rfl) hn)
          | cons y rest => exact .inr (List.cons_ne_nil y rest)

theorem Splits.mem_of_settle {e : ε} (h : Splits jobs s rest)
    (hs : settle jobs.length s rest = .error e) : .error e ∈ jobs := by
  induction rest generalizing s with
  | nil => cases hs
  | cons x rest ih =>
      rw [settle] at hs
      split at hs
      · next he =>
          cases hs
          obtain ⟨place, hm⟩ := mem_of_ending? he
          exact List.mem_of_getElem? (h.add.past.failures _ hm)
      · exact ih h.add hs

end Settle

structure Group (ε α : Type) where
  jobs : List (Except ε α)
  waiting : List Nat
  running : List Nat
  started : List Nat
  ended : List (Nat × Except ε α)

namespace Group

def of (jobs : List (Except ε α)) : Group ε α := ⟨jobs, List.range jobs.length, [], [], []⟩

def state (g : Group ε α) : State ε α := State.addAll {} g.ended

def failure? (g : Group ε α) : Option ε :=
  ending? g.jobs.length g.state.failures fun position =>
    (g.waiting ++ g.running).all fun other => decide (position < other)

def verdict? (g : Group ε α) : Option (Except ε (List α)) :=
  match g.failure? with
  | some e => some (.error e)
  | none => if g.waiting = [] ∧ g.running = [] then some (.ok (inOrder g.state.results)) else none

def start (g : Group ε α) (place : Nat) (waiting : List Nat) : Group ε α :=
  { g with waiting, running := place :: g.running, started := place :: g.started }

def finish (g : Group ε α) (place : Nat) (outcome : Except ε α) (running : List Nat) : Group ε α :=
  { g with running, ended := g.ended ++ [(place, outcome)] }

inductive Move (g : Group ε α) : Group ε α → Prop where
  | start {before after : List Nat} {place : Nat} (hv : g.verdict? = none)
      (hw : g.waiting = before ++ place :: after) : Move g (g.start place (before ++ after))
  | finish {before after : List Nat} {place : Nat} {outcome : Except ε α} (hv : g.verdict? = none)
      (hr : g.running = before ++ place :: after) (ho : g.jobs[place]? = some outcome) :
      Move g (g.finish place outcome (before ++ after))

theorem Move.length_eq {g u : Group ε α} (h : g.Move u) :
    u.started.length + u.ended.length = g.started.length + g.ended.length + 1 := by
  cases h with
  | start => simp [Group.start, Nat.add_right_comm]
  | finish => simp [Group.finish, Nat.add_assoc]

abbrev Reaches : Group ε α → Group ε α → Prop := Relation.ReflTransGen Move

/-- What the outcomes that are still to come make of the group. -/
def outlook (g : Group ε α) (rest : List (Nat × Except ε α)) : Except ε (List α) :=
  match g.failure? with
  | some e => .error e
  | none => settle g.jobs.length g.state rest

section Outlook

variable {g : Group ε α} {rest : List (Nat × Except ε α)}

theorem failure?_of_verdict? (h : g.verdict? = none) : g.failure? = none := by
  cases hf : g.failure? with
  | none => rfl
  | some e => simp [verdict?, hf] at h

theorem verdict?_eq_none (hf : g.failure? = none) {place : Nat}
    (hp : place ∈ g.waiting ++ g.running) : g.verdict? = none := by
  have hn : ¬ (g.waiting = [] ∧ g.running = []) := by
    rintro ⟨hw, hr⟩
    simp [hw, hr] at hp
  rw [verdict?, hf]
  exact if_neg hn

theorem all_lt_congr {places others : List Nat} (h : places.Perm others) :
    (fun position => places.all fun other => decide (position < other)) =
      fun position => others.all fun other => decide (position < other) := by
  funext position
  exact h.all_eq

theorem perm_start {before after : List Nat} {place : Nat}
    (hw : g.waiting = before ++ place :: after) :
    (before ++ after ++ place :: g.running).Perm (g.waiting ++ g.running) := by
  rw [hw]
  exact List.perm_middle.trans (List.perm_middle.symm.append_right _)

theorem failure?_start {before after : List Nat} {place : Nat}
    (hw : g.waiting = before ++ place :: after) :
    (g.start place (before ++ after)).failure? = g.failure? :=
  congrArg (ending? g.jobs.length g.state.failures) (all_lt_congr (perm_start hw))

theorem outlook_start {before after : List Nat} {place : Nat}
    (hw : g.waiting = before ++ place :: after) (rest : List (Nat × Except ε α)) :
    (g.start place (before ++ after)).outlook rest = g.outlook rest := by
  rw [outlook, outlook, failure?_start hw]
  rfl

/-- An outcome that comes in next is taken off those that were to come. -/
theorem outlook_finish {running : List Nat} {place : Nat} {outcome : Except ε α}
    (hf : g.failure? = none) (hrest : (rest.map Prod.fst).Perm (g.waiting ++ running)) :
    (g.finish place outcome running).outlook rest = g.outlook ((place, outcome) :: rest) := by
  have hs : (g.finish place outcome running).state = g.state.add place outcome := by
    simp [state, finish, State.addAll]
  have hc : clearOf rest =
      fun position => (g.waiting ++ running).all fun other => decide (position < other) := by
    rw [← all_lt_congr hrest]
    funext position
    simp [clearOf, List.all_map, Function.comp_def]
  rw [outlook, outlook, hf, failure?, hs]
  simp only [settle, hc]
  rfl

theorem verdict?_eq_outlook {result : Except ε (List α)} (h : g.verdict? = some result)
    (hrest : (rest.map Prod.fst).Perm (g.waiting ++ g.running)) : g.outlook rest = result := by
  rw [outlook]
  cases hf : g.failure? with
  | some e => simpa [verdict?, hf] using h
  | none =>
      by_cases hd : g.waiting = [] ∧ g.running = []
      · have hnil : rest = [] := by simpa [hd.1, hd.2] using hrest
        simpa [verdict?, hf, hd, hnil, settle] using h
      · simp [verdict?, hf, hd] at h

end Outlook

/-- What a schedule keeps to. The last field is what fixes the verdict: in whatever order the
remaining outcomes come, the outlook on them is what all outcomes settle. -/
structure Sound (jobs : List (Except ε α)) (g : Group ε α) : Prop where
  jobs_eq : g.jobs = jobs
  places : (g.waiting ++ g.running ++ g.ended.map Prod.fst).Perm (List.range jobs.length)
  started : g.started.Perm (g.running ++ g.ended.map Prod.fst)
  ended : ∀ x ∈ g.ended, jobs[x.1]? = some x.2
  settles : ∀ rest : List (Nat × Except ε α), (rest.map Prod.fst).Perm (g.waiting ++ g.running) →
    settle jobs.length {} (g.ended ++ rest) = g.outlook rest

namespace Sound

variable {jobs : List (Except ε α)} {g u : Group ε α}

theorem init (jobs : List (Except ε α)) : Sound jobs (of jobs) where
  jobs_eq := rfl
  places := by simp [of]
  started := .nil
  ended := List.forall_mem_nil _
  settles := by
    intro rest _
    have hf : (of jobs).failure? = none := ending?_nil _ _
    rw [outlook, hf]
    rfl

theorem start (h : Sound jobs g) {before after : List Nat} {place : Nat}
    (hw : g.waiting = before ++ place :: after) : Sound jobs (g.start place (before ++ after)) where
  jobs_eq := h.jobs_eq
  places := ((perm_start hw).append_right _).trans h.places
  started := h.started.cons place
  ended := h.ended
  settles := by
    intro rest hrest
    rw [outlook_start hw]
    exact h.settles rest (hrest.trans (perm_start hw))

theorem finish (h : Sound jobs g) {before after : List Nat} {place : Nat} {outcome : Except ε α}
    (hf : g.failure? = none) (hr : g.running = before ++ place :: after)
    (ho : g.jobs[place]? = some outcome) :
    Sound jobs (g.finish place outcome (before ++ after)) := by
  have hlast : (g.ended ++ [(place, outcome)]).map Prod.fst = g.ended.map Prod.fst ++ [place] := by
    simp
  have hp : (before ++ after ++ (g.ended ++ [(place, outcome)]).map Prod.fst).Perm
      (g.running ++ g.ended.map Prod.fst) := by
    rw [hlast, hr, ← List.append_assoc]
    refine (List.perm_append_singleton place _).trans ?_
    exact (List.perm_middle.symm.append_right _)
  refine ⟨h.jobs_eq, ?_, h.started.trans hp.symm, ?_, ?_⟩
  · have happ := (hp.append_left g.waiting).trans (List.append_assoc .. ▸ h.places)
    exact (List.append_assoc g.waiting (before ++ after) _).symm ▸ happ
  · intro x hx
    rcases List.mem_append.1 hx with hx | hx
    · exact h.ended x hx
    · cases List.mem_singleton.1 hx
      exact h.jobs_eq ▸ ho
  · -- The outcome that has just come in was the next of those still to come.
    intro rest hrest
    have hleft : (rest.map Prod.fst).Perm (g.waiting ++ (before ++ after)) := hrest
    have hlater : (((place, outcome) :: rest).map Prod.fst).Perm (g.waiting ++ g.running) := by
      refine (hleft.cons place).trans ?_
      rw [hr, ← List.append_assoc, ← List.append_assoc]
      exact List.perm_middle.symm
    rw [outlook_finish hf hleft, ← h.settles _ hlater]
    simp [Group.finish]

theorem length_ended_le (h : Sound jobs g) : g.ended.length ≤ jobs.length := by
  have hl := h.places.length_eq
  simp only [List.length_append, List.length_map, List.length_range] at hl
  omega

theorem length_started_le (h : Sound jobs g) : g.started.length ≤ jobs.length := by
  have hl := h.places.length_eq
  have hs := h.started.length_eq
  simp only [List.length_append, List.length_map, List.length_range] at hl hs
  omega

theorem move (h : Sound jobs g) (hm : g.Move u) : Sound jobs u := by
  cases hm with
  | start _ hw => exact h.start hw
  | finish hv hr ho => exact h.finish (failure?_of_verdict? hv) hr ho

theorem of_reaches (h : Reaches (of jobs) g) : Sound jobs g := by
  induction h with
  | refl => exact init jobs
  | tail _ hm ih => exact ih.move hm

theorem count_started_le (h : Sound jobs g) (place : Nat) : g.started.count place ≤ 1 := by
  have hn := h.places.nodup_iff.2 List.nodup_range
  rw [List.append_assoc] at hn
  rw [h.started.count_eq]
  exact List.nodup_iff_count_le_one.1 (List.nodup_append.1 hn).2.1 place

theorem lt_of_started (h : Sound jobs g) {place : Nat} (hp : place ∈ g.started) :
    place < jobs.length := by
  rw [← List.mem_range, ← h.places.mem_iff, List.append_assoc]
  exact List.mem_append_right _ (h.started.mem_iff.1 hp)

theorem lt_of_rest (h : Sound jobs g) {place : Nat} (hp : place ∈ g.waiting ++ g.running) :
    place < jobs.length := by
  rw [← List.mem_range, ← h.places.mem_iff]
  exact List.mem_append_left _ hp

theorem exists_move (h : Sound jobs g) (hv : g.verdict? = none) : ∃ u, g.Move u := by
  have hf := failure?_of_verdict? hv
  cases hw : g.waiting with
  | cons place waiting => exact ⟨_, @Move.start _ _ g [] waiting place hv hw⟩
  | nil =>
      cases hr : g.running with
      | nil => simp [verdict?, hf, hw, hr] at hv
      | cons place running =>
          have hlt : place < jobs.length := h.lt_of_rest (by simp [hr])
          have ho := List.getElem?_eq_getElem (h.jobs_eq ▸ hlt : place < g.jobs.length)
          exact ⟨_, @Move.finish _ _ g [] running place _ hv hr ho⟩

/-- All outcomes of a group in one order, those that have come in first. -/
theorem exists_rest (h : Sound jobs g) : ∃ rest : List (Nat × Except ε α),
    (rest.map Prod.fst).Perm (g.waiting ++ g.running) ∧ Splits jobs {} (g.ended ++ rest) := by
  have hget (place : { p // p ∈ g.waiting ++ g.running }) : place.1 < jobs.length :=
    h.lt_of_rest place.2
  let rest := (g.waiting ++ g.running).attach.map fun p => (p.1, jobs.get ⟨p.1, hget p⟩)
  have hrest : rest.map Prod.fst = g.waiting ++ g.running := by
    rw [List.map_map]
    exact List.attach_map_subtype_val _
  refine ⟨rest, hrest ▸ .refl _, ⟨List.forall_mem_nil _, List.forall_mem_nil _⟩, ?_, ?_⟩
  · intro x hx
    rcases List.mem_append.1 hx with hx | hx
    · exact h.ended x hx
    · obtain ⟨p, _, rfl⟩ := List.mem_map.1 hx
      exact List.getElem?_eq_getElem _
  · rw [List.map_append, hrest]
    change (g.ended.map Prod.fst ++ (g.waiting ++ g.running)).Perm _
    exact List.perm_append_comm.trans h.places

theorem settle_eq_verdict (h : Sound jobs g) {result : Except ε (List α)}
    (hv : g.verdict? = some result) : ∃ l, Splits jobs {} l ∧ settle jobs.length {} l = result := by
  obtain ⟨rest, hrest, hd⟩ := h.exists_rest
  exact ⟨_, hd, (h.settles rest hrest).trans (verdict?_eq_outlook hv hrest)⟩

/-- A group ends with results only if every job has one. -/
theorem eq_map_of_verdict (h : Sound jobs g) {results : List α}
    (hv : g.verdict? = some (.ok results)) : jobs = results.map .ok := by
  obtain ⟨l, hd, hs⟩ := h.settle_eq_verdict hv
  exact hd.eq_map_of_settle (.inl rfl) hs

theorem mem_of_verdict (h : Sound jobs g) {e : ε} (hv : g.verdict? = some (.error e)) :
    .error e ∈ jobs := by
  obtain ⟨l, hd, hs⟩ := h.settle_eq_verdict hv
  exact hd.mem_of_settle hs

theorem verdict_ok_iff (h : Sound jobs g) {result : Except ε (List α)}
    (hv : g.verdict? = some result) : (∃ results, result = .ok results) ↔ ∀ e, .error e ∉ jobs := by
  constructor
  · rintro ⟨results, rfl⟩ e he
    rw [h.eq_map_of_verdict hv] at he
    simp at he
  · intro hn
    cases result with
    | ok results => exact ⟨results, rfl⟩
    | error e => exact absurd (h.mem_of_verdict hv) (hn e)

/-- With results, every job has started. -/
theorem started_of_verdict (h : Sound jobs g) {results : List α}
    (hv : g.verdict? = some (.ok results)) : g.started.Perm (List.range jobs.length) := by
  rw [verdict?] at hv
  split at hv
  · cases hv
  · split at hv
    · next hd =>
        have hp := h.places
        rw [hd.1, List.nil_append] at hp
        exact h.started.trans hp
    · cases hv

end Sound

theorem exists_reaches_of_order {g : Group ε α} {rest : List (Nat × Except ε α)}
    (hr : g.running = []) (hw : g.waiting.Perm (rest.map Prod.fst))
    (hj : ∀ x ∈ rest, g.jobs[x.1]? = some x.2) :
    ∃ u, Reaches g u ∧ u.verdict? = some (g.outlook rest) := by
  -- One job after another: each starts and ends before the next does, so that none is running between.
  induction rest generalizing g with
  | nil =>
      have hnil : g.waiting = [] := by simpa using hw
      refine ⟨g, .refl, ?_⟩
      rw [verdict?, outlook]
      split
      · rfl
      · simp [hnil, hr, settle]
  | cons x rest ih =>
      cases hf : g.failure? with
      | some e => exact ⟨g, .refl, by simp [verdict?, outlook, hf]⟩
      | none =>
          obtain ⟨place, outcome⟩ := x
          obtain ⟨ho, hrest⟩ := List.forall_mem_cons.1 hj
          have hmem : place ∈ g.waiting := hw.mem_iff.2 List.mem_cons_self
          obtain ⟨before, after, he⟩ := List.append_of_mem hmem
          have hleft : (before ++ after).Perm (rest.map Prod.fst) := by
            rw [he] at hw
            exact (List.perm_middle.symm.trans hw).cons_inv
          have hv : g.verdict? = none := verdict?_eq_none hf (List.mem_append_left _ hmem)
          have hf' := (failure?_start he).trans hf
          have hv' := verdict?_eq_none hf' (List.mem_append_right _ List.mem_cons_self)
          have hfinish := @Move.finish _ _ (g.start place (before ++ after)) [] g.running _ _ hv' rfl ho
          obtain ⟨u, hu, hvu⟩ :=
            ih (g := (g.start place (before ++ after)).finish place outcome g.running) hr hleft hrest
          refine ⟨u, .head (.start hv he) (.head hfinish hu), hvu.trans (congrArg some ?_)⟩
          rw [outlook_finish hf' (hr ▸ (List.append_nil _).symm ▸ hleft.symm)]
          exact outlook_start he _

theorem exists_reaches_of_splits {jobs : List (Except ε α)} {l : List (Nat × Except ε α)}
    (h : Splits jobs {} l) :
    ∃ g, Reaches (of jobs) g ∧ g.verdict? = some (settle jobs.length {} l) := by
  have hp : (List.range jobs.length).Perm (l.map Prod.fst) := h.places.symm
  obtain ⟨g, hg, hv⟩ := exists_reaches_of_order (g := of jobs) rfl hp h.future
  refine ⟨g, hg, hv.trans ?_⟩
  have hf : (of jobs).failure? = none := ending?_nil _ _
  rw [outlook, hf]
  rfl

end Group

end HostProbe.Fanout
