import HostProbe.Address
import HostProbe.Limit.HopLimit
import HostProbe.Limit.PacketSize
import HostProbe.Limit.Timeout
import HostProbe.Port.Range
import Mathlib.Data.List.Forall2

namespace HostProbe

variable {α β : Type}

def refusal? : Except Refusal α → Option Refusal
  | .ok _ => none
  | .error why => some why

theorem refusal?_map (f : α → β) (built : Except Refusal α) :
    refusal? (built.map f) = refusal? built := by
  cases built <;> rfl

theorem refusal?_eq_none_iff {built : Except Refusal α} :
    refusal? built = none ↔ ∃ a, built = .ok a := by
  cases built with
  | ok a => exact ⟨fun _ => ⟨a, rfl⟩, fun _ => rfl⟩
  | error why => exact ⟨nofun, nofun⟩

def firstRefusal? (checks : List (Option Refusal)) : Option Refusal := checks.findSome? id

theorem firstRefusal?_append (checks more : List (Option Refusal)) :
    firstRefusal? (checks ++ more) = (firstRefusal? checks).or (firstRefusal? more) :=
  List.findSome?_append

theorem firstRefusal?_eq_none_iff {checks : List (Option Refusal)} :
    firstRefusal? checks = none ↔ ∀ why, some why ∉ checks := by
  rw [firstRefusal?, List.findSome?_eq_none_iff]
  constructor
  · intro h why hw
    cases h _ hw
  · intro h check hc
    cases check with
    | none => rfl
    | some why => exact absurd hc (h why)

theorem mem_of_firstRefusal? {checks : List (Option Refusal)} {why : Refusal}
    (h : firstRefusal? checks = some why) : some why ∈ checks := by
  obtain ⟨_, hmem, rfl⟩ := List.exists_of_findSome?_eq_some h
  exact hmem

/-- What a row of checks comes to: the first refusal, or a value that fits. -/
inductive Checked (checks : List (Option Refusal)) (fits : α → Prop) : Except Refusal α → Prop where
  | refused {why : Refusal} (h : firstRefusal? checks = some why) : Checked checks fits (.error why)
  | admitted {a : α} (h : firstRefusal? checks = none) (ha : fits a) : Checked checks fits (.ok a)

namespace Checked

variable {checks more : List (Option Refusal)} {fits : α → Prop} {fits' : β → Prop}
  {built : Except Refusal α}

theorem eq_error_iff {why : Refusal} (h : Checked checks fits built) :
    built = .error why ↔ firstRefusal? checks = some why := by
  cases h with
  | refused h => rw [h, Except.error.injEq, Option.some.injEq]
  | admitted h _ =>
      rw [h]
      exact iff_of_false nofun nofun

theorem exists_eq_ok_iff (h : Checked checks fits built) :
    (∃ a, built = .ok a) ↔ ∀ check ∈ checks, check = none := by
  have hnone : firstRefusal? checks = none ↔ ∀ check ∈ checks, check = none :=
    List.findSome?_eq_none_iff
  rw [← hnone]
  cases h with
  | refused h => exact iff_of_false nofun (by rw [h]; exact nofun)
  | admitted h _ => exact iff_of_true ⟨_, rfl⟩ h

theorem of_ok (h : ∀ a, built = .ok a → fits a) : Checked [refusal? built] fits built := by
  cases built with
  | ok a => exact .admitted rfl (h a rfl)
  | error why => exact .refused rfl

theorem pure {a : α} (ha : fits a) : Checked [] fits (.ok a) := .admitted rfl ha

theorem congr (h : Checked checks fits built) (hm : firstRefusal? checks = firstRefusal? more) :
    Checked more fits built := by
  cases h with
  | refused h => exact .refused (hm ▸ h)
  | admitted h ha => exact .admitted (hm ▸ h) ha

theorem mono {good : α → Prop} (h : Checked checks fits built) (hg : ∀ a, fits a → good a) :
    Checked checks good built := by
  cases h with
  | refused h => exact .refused h
  | admitted h ha => exact .admitted h (hg _ ha)

theorem bind {f : α → Except Refusal β} (h : Checked checks fits built)
    (hf : ∀ a, fits a → Checked more fits' (f a)) : Checked (checks ++ more) fits' (built >>= f) := by
  cases h with
  | refused h =>
      apply refused
      rw [firstRefusal?_append, h]
      rfl
  | @admitted a h ha =>
      have hall : firstRefusal? more = firstRefusal? (checks ++ more) := by
        rw [firstRefusal?_append, h]
        rfl
      exact (hf a ha).congr hall

/-- The values of a list are checked in its order. -/
theorem mapM {f : α → Except Refusal β} {fits : α → β → Prop}
    (h : ∀ a, Checked [refusal? (f a)] (fits a) (f a)) (l : List α) :
    Checked (l.map fun a => refusal? (f a)) (List.Forall₂ fits l) (l.mapM f) := by
  induction l with
  | nil => exact pure .nil
  | cons a l ih =>
      rw [List.mapM_cons]
      refine (h a).bind fun b hb => ?_
      -- An empty row of checks for the list that is put together last.
      rw [← List.append_nil (l.map _)]
      exact ih.bind fun bs hbs => pure (.cons hb hbs)

end Checked

structure Address.Names (x : Address) (s : String) : Prop where
  text : x.text = String.ofList (Text.trim s.toList)
  numeric : Numeric.ofText? (Text.trim s.toList) = some x.numeric

theorem Address.names_of_parse {s : String} {x : Address} (h : parse s = .ok x) : x.Names s := by
  simp only [parse] at h
  split at h
  · next n hn =>
      cases h
      exact ⟨rfl, hn⟩
  · cases h

theorem Address.checked_parse (s : String) :
    Checked [refusal? (parse s)] (fun x : Address => x.Names s) (parse s) :=
  .of_ok fun _ => names_of_parse

theorem Port.checked_of (n : Nat) : Checked [refusal? (of n)] (fun p => p.number = n) (of n) := by
  apply Checked.of_ok
  intro p h
  rw [of] at h
  split at h <;> cases h
  rfl

theorem Timeout.checked_of (x : Binary64) :
    Checked [refusal? (of x)] (fun t => t.seconds = x) (of x) := by
  apply Checked.of_ok
  intro t h
  rw [of] at h
  split at h <;> cases h
  rfl

theorem PacketSize.checked_of (n : Nat) :
    Checked [refusal? (of n)] (fun s => s.bytes = n) (of n) := by
  apply Checked.of_ok
  intro s h
  rw [of] at h
  split at h <;> cases h
  rfl

theorem HopLimit.checked_ofOption (n : Option Nat) :
    Checked [refusal? (ofOption n)] (fun h => h.map hops = n) (ofOption n) := by
  apply Checked.of_ok
  intro h hn
  cases n with
  | none =>
      cases hn
      rfl
  | some n =>
      rw [ofOption, of] at hn
      split at hn <;> cases hn
      rfl

namespace PortRange

def orderRefusal? (first last : Nat) : Option Refusal :=
  if first ≤ last then none else some (.portRange first last)

theorem checked_of (first last : Port) :
    Checked [orderRefusal? first.number last.number] (fun r => r.first = first ∧ r.last = last)
      (of first last) := by
  by_cases h : first.number ≤ last.number
  · rw [of, dif_pos h]
    exact .admitted (by simp [firstRefusal?, orderRefusal?, h]) ⟨rfl, rfl⟩
  · rw [of, dif_neg h]
    exact .refused (by simp [firstRefusal?, orderRefusal?, h])

theorem checked_ofNumbers (first last : Nat) :
    Checked [refusal? (Port.of first), refusal? (Port.of last), orderRefusal? first last]
      (fun r => r.first.number = first ∧ r.last.number = last) (ofNumbers first last) := by
  refine (Port.checked_of first).bind fun a ha => (Port.checked_of last).bind fun b hb => ?_
  rw [← ha, ← hb]
  apply (checked_of a b).mono
  rintro r ⟨rfl, rfl⟩
  exact ⟨rfl, rfl⟩

end PortRange

end HostProbe
