import HostProbe.Proofs.Binary64.Order
import HostProbe.Proofs.Datum.Record
import HostProbe.Proofs.Ping.Batch

namespace HostProbe.Ping

structure Lawful (success : Bool) (time : Option Binary64) (message : Option String) : Prop where
  answered : success = true →
    message = none ∧ ∃ x, time = some x ∧ x.isFinite = true ∧ 0 ≤ x.value
  failed : success = false → time = none

namespace Result

variable {success : Bool} {time : Option Binary64} {message : Option String}
  {hopLimit : Option UInt8} {packetSize : Option UInt16} {r : Result}

/-- Times of an answer: every finite number from 0 upwards, either zero included. -/
theorem isTime_iff {x : Binary64} :
    isTime x = true ↔ x.isFinite = true ∧ 0 ≤ x.value := by
  rw [isTime, Bool.and_eq_true, Bool.not_eq_true']
  refine and_congr_right fun hx => ?_
  have hnan := Binary64.not_isNaN (Binary64.isFinite_iff.1 hx)
  rw [← Bool.not_eq_true, Binary64.lt_iff, Binary64.value_zero, ← Int.not_lt]
  exact not_congr ⟨fun h => h.2.2, fun h => ⟨hnan, rfl, h⟩⟩

structure Has (r : Result) (success : Bool) (time : Option Binary64) (message : Option String)
    (hopLimit : Option UInt8) (packetSize : Option UInt16) : Prop where
  success_eq : r.success = success
  time_eq : r.responseTime = time
  message_eq : r.errorMessage = message
  hopLimit_eq : r.hopLimit = hopLimit
  packetSize_eq : r.packetSize = packetSize

theorem Has.unique {r' : Result} (h : r.Has success time message hopLimit packetSize)
    (h' : r'.Has success time message hopLimit packetSize) : r = r' := by
  obtain ⟨hs, ht, hm, hh, hp⟩ := h
  obtain ⟨hs', ht', hm', hh', hp'⟩ := h'
  obtain ⟨outcome, hops, size⟩ := r
  obtain ⟨outcome', hops', size'⟩ := r'
  cases hh.trans hh'.symm
  cases hp.trans hp'.symm
  cases outcome with
  | answered x =>
      cases outcome' with
      | answered x' =>
          cases ht.trans ht'.symm
          rfl
      | failed m' => cases hs.trans hs'.symm
  | failed m =>
      cases outcome' with
      | answered x' => cases hs.trans hs'.symm
      | failed m' =>
          cases hm.trans hm'.symm
          rfl

theorem of_of_lawful (h : Lawful success time message) :
    ∃ r, of success time message hopLimit packetSize = .ok r ∧
      r.Has success time message hopLimit packetSize := by
  cases success with
  | true =>
      obtain ⟨rfl, x, rfl, hx⟩ := h.answered rfl
      refine ⟨⟨.answered x, hopLimit, packetSize⟩, ?_, ⟨rfl, rfl, rfl, rfl, rfl⟩⟩
      rw [of, outcomeOf, if_pos (isTime_iff.2 hx)]
      rfl
  | false =>
      cases h.failed rfl
      exact ⟨⟨.failed message, hopLimit, packetSize⟩, rfl, ⟨rfl, rfl, rfl, rfl, rfl⟩⟩

theorem of_of_not_lawful (h : ¬ Lawful success time message) :
    ∃ flaw, of success time message hopLimit packetSize = .error (.pingResult flaw) := by
  cases success with
  | true =>
      cases time with
      | none => exact ⟨_, rfl⟩
      | some x =>
          rw [of, outcomeOf]
          split
          · next hx =>
              cases message with
              | none => exact absurd ⟨fun _ => ⟨rfl, x, rfl, isTime_iff.1 hx⟩, nofun⟩ h
              | some m => exact ⟨_, rfl⟩
          · exact ⟨_, rfl⟩
  | false =>
      cases time with
      | none => exact absurd ⟨nofun, fun _ => rfl⟩ h
      | some x => exact ⟨_, rfl⟩

theorem of_eq_ok_iff : of success time message hopLimit packetSize = .ok r ↔
    Lawful success time message ∧ r.Has success time message hopLimit packetSize := by
  by_cases h : Lawful success time message
  · obtain ⟨r', hr', hhas'⟩ : ∃ r', of success time message hopLimit packetSize = .ok r' ∧ _ :=
      of_of_lawful h
    rw [hr', Except.ok.injEq]
    constructor
    · rintro rfl
      exact ⟨h, hhas'⟩
    · rintro ⟨_, hhas⟩
      exact hhas'.unique hhas
  · obtain ⟨flaw, hflaw⟩ : ∃ flaw, of success time message hopLimit packetSize = .error _ :=
      of_of_not_lawful h
    rw [hflaw]
    exact ⟨nofun, fun hl => absurd hl.1 h⟩

def IsLawful (r : Result) : Prop := Lawful r.success r.responseTime r.errorMessage

theorem isLawful_of_eq_ok (h : of success time message hopLimit packetSize = .ok r) : r.IsLawful := by
  obtain ⟨hl, hs, ht, hm, _, _⟩ := of_eq_ok_iff.1 h
  rw [IsLawful, hs, ht, hm]
  exact hl

theorem isLawful_failed (message : String) (hopLimit : Option UInt8) (packetSize : Option UInt16) :
    (failed message hopLimit packetSize).IsLawful := ⟨nofun, fun _ => rfl⟩

theorem isLawful_of_read {d : Datum} (h : read d = .ok r) : r.IsLawful := by
  obtain ⟨p, _, h⟩ := Reading.bind_eq_ok_iff.1 h
  obtain ⟨success, _, h⟩ := Reading.bind_eq_ok_iff.1 h
  exact isLawful_of_eq_ok (Reading.ofRefusal_eq_ok_iff.1 h)

end Result

theorem Request.exists_of_ping {r : Request} {k : Conditions} {result : Result}
    (h : r.ping k = .ok result) : ∃ millis, (r.probe k).result = .ok millis ∧
      Result.answered millis r.hops (some r.packetSize.word) = .ok result := by
  rw [ping] at h
  cases hp : (r.probe k).result with
  | error e =>
      rw [hp] at h
      cases h
  | ok millis =>
      rw [hp, conclude] at h
      split at h
      · next hr =>
          cases h
          exact ⟨millis, rfl, hr⟩
      · cases h

theorem Request.isLawful_of_ping {r : Request} {k : Conditions} {result : Result}
    (h : r.ping k = .ok result) : result.IsLawful := by
  obtain ⟨_, _, hanswered⟩ := exists_of_ping h
  exact Result.isLawful_of_eq_ok hanswered

theorem BatchRequest.isLawful_of_verdict {b : BatchRequest} {k : Nat → Conditions}
    {g : Fanout.Group Failure Result} {results : List Result} (h : b.Scheduled (b.meets k) g)
    (hv : g.verdict? = some (.ok results)) {result : Result} (hr : result ∈ results) :
    result.IsLawful := by
  have hends := ends_of_verdict h hv
  obtain ⟨place, hplace, rfl⟩ := List.getElem_of_mem hr
  have hlt : place < b.each.length := by
    rw [length_each, ← hends.length_eq results rfl]
    exact hplace
  have hmeets := meets_eq (k := k) (List.getElem?_eq_getElem hlt)
  have hentry := hends.entry_eq results rfl place _ (List.getElem?_eq_getElem hlt)
  rw [List.getElem?_eq_getElem hplace, Option.some.injEq] at hentry
  rw [hentry, hmeets]
  cases hp : b.each[place].ping (k place) with
  | ok x => exact Request.isLawful_of_ping hp
  | error e => exact Result.isLawful_failed _ _ _

/-- The ways to a result: built, decoded, or from a ping under any conditions, alone, in a call that
pings one host after another, or in one that runs on any schedule. -/
inductive Result.Obtained : Result → Prop where
  | built {success : Bool} {time : Option Binary64} {message : Option String}
      {hopLimit : Option UInt8} {packetSize : Option UInt16} {r : Result}
      (h : of success time message hopLimit packetSize = .ok r) : Obtained r
  | answered {millis : Binary64} {hopLimit : Option UInt8} {packetSize : Option UInt16} {r : Result}
      (h : answered millis hopLimit packetSize = .ok r) : Obtained r
  | failed (message : String) (hopLimit : Option UInt8) (packetSize : Option UInt16) :
      Obtained (failed message hopLimit packetSize)
  | ofFailure (f : Failure) (hopLimit : Option UInt8) (packetSize : Option UInt16) :
      Obtained (ofFailure f hopLimit packetSize)
  | decoded {text : String} {r : Result} (h : readJson read text = .ok r) : Obtained r
  | pinged {request : Request} {k : Conditions} {r : Result} (h : request.ping k = .ok r) : Obtained r
  | pingedInTurn {b : BatchRequest} {s : System} {results : List Result} {r : Result}
      (h : (b.run s).1 = .ok results) (hr : r ∈ results) : Obtained r
  | pingedOnSchedule {b : BatchRequest} {k : Nat → Conditions} {g : Fanout.Group Failure Result}
      {results : List Result} {r : Result} (h : b.Scheduled (b.meets k) g)
      (hv : g.verdict? = some (.ok results)) (hr : r ∈ results) : Obtained r

/-- Every result that can be had is lawful. The constructor takes all lawful parts, whatever the
number of the response time, and refuses all others. -/
theorem results_lawful :
    (∀ r, Result.Obtained r → r.IsLawful) ∧
    ∀ success time message hopLimit packetSize,
      (Lawful success time message → ∃ r, Result.of success time message hopLimit packetSize = .ok r ∧
        r.Has success time message hopLimit packetSize) ∧
      (¬ Lawful success time message →
        ∃ flaw, Result.of success time message hopLimit packetSize = .error (.pingResult flaw)) := by
  refine ⟨fun r h => ?_, fun _ _ _ _ _ => ⟨Result.of_of_lawful, Result.of_of_not_lawful⟩⟩
  cases h with
  | built h => exact Result.isLawful_of_eq_ok h
  | answered h => exact Result.isLawful_of_eq_ok h
  | failed => exact Result.isLawful_failed _ _ _
  | ofFailure => exact Result.isLawful_failed _ _ _
  | decoded h =>
      obtain ⟨d, _, hr⟩ := readJson_eq_ok_iff.1 h
      exact Result.isLawful_of_read hr
  | pinged h => exact Request.isLawful_of_ping h
  | @pingedInTurn b s results _ h hr =>
      obtain ⟨g, hg, hv⟩ := b.exists_scheduled_pings fun i => s.conditions (s.traces.length + i)
      exact BatchRequest.isLawful_of_verdict hg (hv.trans (congrArg some h)) hr
  | pingedOnSchedule h hv hr => exact BatchRequest.isLawful_of_verdict h hv hr

/-- A result with the time -0, read from JSON with its members in another order, the same one built,
and a time that is no number. -/
theorem results_lawful_zero :
    (∃ r, readJson Result.read "\x7b\"response_time_ms\": -0.0, \"success\": true\x7d" = .ok r ∧
      r.responseTime = some (.ofMagnitude true 0) ∧ r.IsLawful) ∧
    (∃ r, Result.of true (some (.ofMagnitude true 0)) none none none = .ok r ∧ r.success = true) ∧
    ∃ flaw, Result.of true (some .nan) none none none = .error (.pingResult flaw) := by
  refine ⟨⟨⟨.answered (.ofMagnitude true 0), none, none⟩, ?_⟩, ?_, ?_⟩
  · have h : readJson Result.read "\x7b\"response_time_ms\": -0.0, \"success\": true\x7d" =
        .ok ⟨.answered (.ofMagnitude true 0), none, none⟩ := by
      rw [readJson_ofList]
      exact Reading.eq_ok_of_toOption (by decide +kernel)
    exact ⟨h, rfl, results_lawful.1 _ (.decoded h)⟩
  · have hzero : Lawful true (some (.ofMagnitude true 0)) none :=
      ⟨fun _ => ⟨rfl, _, rfl, by decide +kernel⟩, nofun⟩
    obtain ⟨r, hr, hhas⟩ := (results_lawful.2 true (some (.ofMagnitude true 0)) none none none).1 hzero
    exact ⟨r, hr, hhas.success_eq⟩
  · refine (results_lawful.2 true (some .nan) none none none).2 fun h => ?_
    obtain ⟨_, x, hx, hfinite, _⟩ := h.answered rfl
    cases hx
    revert hfinite
    decide

end HostProbe.Ping
