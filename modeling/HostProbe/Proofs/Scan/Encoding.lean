import HostProbe.Proofs.Port
import HostProbe.Proofs.Scan.Summary
import HostProbe.Proofs.Time.Encoding

namespace HostProbe.Scan

open Datum

theorem Status.faithful : Faithful read datum where
  plain _ := rfl
  reads s := by cases s <;> rfl

namespace Finding

def parts (f : Finding) : Parts :=
  ⟨some f.port, some f.status, f.responseTime, f.service, f.errorMessage, some f.scannedAt⟩

theorem faithful_responseTime : Faithful (readOption Time.Span.read) (.option Time.Span.datum) :=
  Time.Span.faithful.option fun _ => nofun

theorem faithful_text : Faithful (readOption readText) (.option .text) :=
  Faithful.text.option fun _ => nofun

def carried (f : Finding) : Finding := { f with scannedAt := f.scannedAt.carried }

theorem carried_eq_iff {f : Finding} : f.carried = f ↔ f.scannedAt.Spellable := by
  rw [← Time.Stamp.carried_eq_iff]
  exact ⟨fun h => congrArg scannedAt h, fun h => by rw [carried, h]⟩

theorem shape_read_datum (f : Finding) : shape.read f.datum = .ok f.carried.parts := by
  refine (Shape.read_ofFields_iff (by decide) rfl).2 ?_
  refine (Shape.readFields_cons f.port.read_datum).trans ?_
  refine (Shape.readFields_cons (Status.faithful.reads f.status)).trans ?_
  refine (Shape.readFields_cons (faithful_responseTime.reads f.responseTime)).trans ?_
  refine (Shape.readFields_cons (faithful_text.reads f.service)).trans ?_
  refine (Shape.readFields_cons (faithful_text.reads f.errorMessage)).trans ?_
  exact Shape.readFields_cons (Time.Stamp.returns.reads f.scannedAt)

theorem returns : Returns read datum carried where
  plain f := plain_ofFields.2 (by simp [Port.plain_datum, Status.faithful.plain,
    faithful_responseTime.plain, faithful_text.plain, Time.Stamp.returns.plain])
  reads f := Reading.bind_eq_ok_iff.2 ⟨f.carried.parts, f.shape_read_datum, rfl⟩

end Finding

namespace Summary

theorem faithful_count : Faithful readCount fun n => .int n.toNat where
  plain n := plain_int n.toNat_lt
  reads n := readCount_eq_ok_iff.2 ⟨rfl, n.toNat_lt⟩

def carried (s : Summary) : Summary :=
  { s with
    startedAt := s.startedAt.carried
    completedAt := s.completedAt.carried
    findings := s.findings.map Finding.carried }

structure Spellable (s : Summary) : Prop where
  startedAt : s.startedAt.Spellable
  completedAt : s.completedAt.Spellable
  findings : ∀ f ∈ s.findings, f.scannedAt.Spellable

theorem carried_eq_iff {s : Summary} : s.carried = s ↔ s.Spellable := by
  have hfindings : s.findings.map Finding.carried = s.findings ↔
      ∀ f ∈ s.findings, f.scannedAt.Spellable := by
    calc s.findings.map Finding.carried = s.findings
      _ ↔ s.findings.map Finding.carried = s.findings.map id := by rw [List.map_id]
      _ ↔ ∀ f ∈ s.findings, f.carried = f := List.map_inj_left
      _ ↔ ∀ f ∈ s.findings, f.scannedAt.Spellable := forall₂_congr fun _ _ => Finding.carried_eq_iff
  constructor
  · intro h
    exact ⟨Time.Stamp.carried_eq_iff.1 (congrArg startedAt h),
      Time.Stamp.carried_eq_iff.1 (congrArg completedAt h), hfindings.1 (congrArg findings h)⟩
  · intro h
    rw [carried, Time.Stamp.carried_of_spellable h.startedAt,
      Time.Stamp.carried_of_spellable h.completedAt, hfindings.2 h.findings]

theorem shape_read_datum (s : Summary) : shape.read s.datum = .ok s.carried.parts := by
  have hfindings := Finding.returns.list.reads s.findings
  refine (Shape.read_ofFields_iff plain_shape.distinct rfl).2 ?_
  refine (Shape.readFields_cons (Faithful.text.reads s.target)).trans ?_
  refine (Shape.readFields_cons (Faithful.text.reads s.portRange)).trans ?_
  refine (Shape.readFields_cons (faithful_count.reads s.total)).trans ?_
  refine (Shape.readFields_cons (faithful_count.reads s.isOpen)).trans ?_
  refine (Shape.readFields_cons (faithful_count.reads s.closed)).trans ?_
  refine (Shape.readFields_cons (faithful_count.reads s.filtered)).trans ?_
  refine (Shape.readFields_cons (Time.Span.faithful.reads s.duration)).trans ?_
  refine (Shape.readFields_cons (Time.Stamp.returns.reads s.startedAt)).trans ?_
  refine (Shape.readFields_cons (Time.Stamp.returns.reads s.completedAt)).trans ?_
  exact Shape.readFields_cons hfindings

theorem returns : Returns read datum carried where
  plain s := plain_ofFields.2 (by simp [Faithful.text.plain, faithful_count.plain,
    Time.Span.faithful.plain, Time.Stamp.returns.plain, Finding.returns.list.plain])
  reads s := Reading.bind_eq_ok_iff.2 ⟨s.carried.parts, s.shape_read_datum, rfl⟩

theorem readJson_json_eq_ok_iff {s : Summary} :
    readJson read s.datum.json = .ok s ↔ s.Spellable := by
  rw [returns.readJson_json s, Except.ok.injEq, carried_eq_iff]

/-- A summary reads back from the text that is written of it with every part as it was, but where a
second runs on before the end of its minute, what runs on is carried into the next second. It reads
back as the same summary exactly when no stamp is like that. -/
theorem summary_round_trip (s : Summary) :
    readJson read s.datum.json = .ok s.carried ∧
      (readJson read s.datum.json = .ok s ↔ s.Spellable) :=
  ⟨returns.readJson_json s, readJson_json_eq_ok_iff⟩

/-- A second that runs on in the middle of a minute, 23:56:04 and 1.333333333 seconds. -/
def runOn : Time.Stamp := ⟨86164, 1333333333, by decide⟩

def overrun : Summary := ofFindings "10.0.0.1" "1-2" runOn .origin .zero []

theorem carried_overrun :
    overrun.carried = { overrun with startedAt := ⟨86165, 333333333, by decide⟩ } := by
  have hstart : runOn.carried = ⟨86165, 333333333, by decide⟩ := dif_neg (by decide)
  have hcompleted : Time.Stamp.origin.carried = .origin := Time.Stamp.carried_of_spellable (by decide)
  change { overrun with startedAt := runOn.carried, completedAt := Time.Stamp.origin.carried } = _
  rw [hstart, hcompleted]
  rfl

/-- The start of this summary is read back as 23:56:05.333333333. -/
theorem not_forall_round_trip :
    readJson read overrun.datum.json =
      .ok { overrun with startedAt := ⟨86165, 333333333, by decide⟩ } ∧
    ¬ ∀ s : Summary, readJson read s.datum.json = .ok s := by
  refine ⟨carried_overrun ▸ returns.readJson_json overrun, fun h => ?_⟩
  have hstart : overrun.startedAt.Spellable := (readJson_json_eq_ok_iff.1 (h overrun)).startedAt
  exact absurd hstart (by decide)

end Summary

end HostProbe.Scan
