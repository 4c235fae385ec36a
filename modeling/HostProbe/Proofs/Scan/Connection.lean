import HostProbe.Scan.Connection

namespace HostProbe.Scan

def Finding.said (f : Finding) : Port × Status × Option String × Option String :=
  (f.port, f.status, f.service, f.errorMessage)

/-- An entry of a scan of many beside what the scan of its port alone makes of the same attempt. -/
inductive Agrees (p : Port) (c : Connection) (moment : Time.Stamp) :
    Except Failure Finding → Finding → Prop where
  | same {f : Finding} (h : f.status = .isOpen ∨ f.status = .closed) : Agrees p c moment (.ok f) f
  | filtered {e : Failure} (h : e.isPerPort = true) : Agrees p c moment (.error e)
      { Finding.of p .filtered moment with
        responseTime := some (Time.Span.ofNanos c.attempt.duration)
        errorMessage := some e.message }

theorem Agrees.isPerPort {p : Port} {c : Connection} {moment : Time.Stamp} {e : Failure} {f : Finding}
    (h : Agrees p c moment (.error e) f) : e.isPerPort = true := by
  cases h with
  | filtered he => exact he

theorem Failure.ofFault_of_not_isPerPort {target : String} {port : Nat} {f : Fault}
    (h : (ofFault target port f).isPerPort = false) :
    (∃ text, ofFault target port f = .permission text) ∨
      ∃ text, ofFault target port f = .connection text := by
  unfold ofFault at h ⊢
  split at h
  · cases h
  · next ht =>
      rw [if_neg ht]
      split at h
      · next hd => exact .inl ⟨_, if_pos hd⟩
      · next hd =>
          rw [if_neg hd]
          split at h
          · next ha => exact .inr ⟨_, if_pos ha⟩
          · cases h

namespace Connection

variable {c d : Connection} {target : Address} {p : Port} {moment : Time.Stamp}

inductive Judged (c : Connection) (target : Address) (p : Port) (moment : Time.Stamp) :
    Except Failure Finding → Prop where
  | isOpen : Judged c target p moment (.ok
      { Finding.of p .isOpen moment with
        responseTime := some (Time.Span.ofNanos c.attempt.duration)
        service := p.service? })
  | closed : Judged c target p moment (.ok
      { Finding.of p .closed moment with
        responseTime := some (Time.Span.ofNanos c.attempt.duration) })
  | failed (f : Fault) : Judged c target p moment (.error (.ofFault target.text p.number f))

theorem judged_of_judge {result : Except Failure Finding} (h : c.judge target p moment = result) :
    c.Judged target p moment result := by
  rw [← h, judge]
  split
  · exact .isOpen
  · split
    · exact .closed
    · exact .failed _

theorem status_of_judge {f : Finding} (h : c.judge target p moment = .ok f) :
    f.status = .isOpen ∨ f.status = .closed := by
  cases judged_of_judge h with
  | isOpen => exact .inl rfl
  | closed => exact .inr rfl

theorem exists_of_judge {e : Failure} (h : c.judge target p moment = .error e) :
    ∃ f, e = .ofFault target.text p.number f := by
  cases judged_of_judge h with
  | failed f => exact ⟨f, rfl⟩

theorem agrees_of_judgeAmong {f : Finding} (h : c.judgeAmong target p moment = .ok f) :
    Agrees p c moment (c.judge target p moment) f := by
  rw [judgeAmong] at h
  split at h
  · next g hg =>
      cases h
      rw [hg]
      exact .same (status_of_judge hg)
  · next e he =>
      split at h
      · next hp =>
          cases h
          rw [he]
          exact .filtered hp
      · cases h

theorem judge_of_judgeAmong {e : Failure} (h : c.judgeAmong target p moment = .error e) :
    c.judge target p moment = .error e ∧ e.isPerPort = false := by
  rw [judgeAmong] at h
  split at h
  · cases h
  · next e' he =>
      split at h
      · cases h
      · next hp =>
          cases h
          exact ⟨he, Bool.eq_false_iff.2 hp⟩

/-- Only the answer shows in what an attempt says. -/
theorem map_said_judge (h : c.attempt.answer = d.attempt.answer) (target : Address) (p : Port)
    (moment later : Time.Stamp) :
    (c.judge target p moment).map Finding.said = (d.judge target p later).map Finding.said := by
  unfold judge
  rw [h]
  cases d.attempt.answer with
  | ok => rfl
  | error f =>
      dsimp only
      split <;> rfl

theorem judge_eq_error (h : c.attempt.answer = d.attempt.answer) {later : Time.Stamp} {e : Failure}
    (hc : c.judge target p moment = .error e) : d.judge target p later = .error e := by
  have hm := map_said_judge h target p moment later
  rw [hc] at hm
  cases hd : d.judge target p later with
  | ok f =>
      rw [hd] at hm
      cases hm
  | error e' =>
      rw [hd] at hm
      cases hm
      rfl

theorem map_said_judgeAmong_eq (c : Connection) (target : Address) (p : Port)
    (moment : Time.Stamp) : (c.judgeAmong target p moment).map Finding.said =
      match (c.judge target p moment).map Finding.said with
      | .ok said => .ok said
      | .error e =>
        if e.isPerPort then .ok (p, .filtered, none, some e.message) else .error e := by
  unfold judgeAmong
  cases c.judge target p moment with
  | ok f => rfl
  | error e =>
      by_cases he : e.isPerPort = true
      · simp only [Except.map, if_pos he]
        rfl
      · simp only [Except.map, if_neg he]

theorem map_said_judgeAmong (h : c.attempt.answer = d.attempt.answer) (target : Address) (p : Port)
    (moment later : Time.Stamp) : (c.judgeAmong target p moment).map Finding.said =
      (d.judgeAmong target p later).map Finding.said := by
  rw [map_said_judgeAmong_eq, map_said_judgeAmong_eq, map_said_judge h target p moment later]

theorem said_eq (h : c.attempt.answer = d.attempt.answer) {later : Time.Stamp} {f g : Finding}
    (hf : c.judgeAmong target p moment = .ok f) (hg : d.judgeAmong target p later = .ok g) :
    f.said = g.said := by
  have hm := map_said_judgeAmong h target p moment later
  rw [hf, hg] at hm
  exact Except.ok.inj hm

end Connection

end HostProbe.Scan
