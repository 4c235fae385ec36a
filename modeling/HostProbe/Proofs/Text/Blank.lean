import HostProbe.Text.Blank
import Mathlib.Data.List.Basic
import Mathlib.Data.List.TakeWhile

namespace HostProbe.Text

variable {s t : List Char}

theorem trimLeft_cons {c : Char} (h : isBlank c = false) (s : List Char) :
    trimLeft (c :: s) = c :: s := List.dropWhile_cons_of_neg (by rw [h]; exact Bool.false_ne_true)

theorem isBlank_of_trimLeft {c : Char} (h : c ∈ (trimLeft s).head?) : isBlank c = false := by
  induction s with
  | nil => cases h
  | cons d s ih =>
      cases hd : isBlank d with
      | true =>
          rw [trimLeft, List.dropWhile_cons_of_pos hd] at h
          exact ih h
      | false =>
          rw [trimLeft_cons hd] at h
          cases h
          exact hd

structure Trims (s t : List Char) : Prop where
  around : ∃ before after, s = before ++ (t ++ after) ∧
    (∀ c ∈ before, isBlank c = true) ∧ ∀ c ∈ after, isBlank c = true
  head : ∀ c ∈ t.head?, isBlank c = false
  last : ∀ c ∈ t.getLast?, isBlank c = false

theorem trims_trim (s : List Char) : Trims s (trim s) := by
  have hblank (u : List Char) : ∀ c ∈ u.takeWhile isBlank, isBlank c = true :=
    List.all_eq_true.1 List.all_takeWhile
  let after := ((trimLeft s).reverse.takeWhile isBlank).reverse
  have hafter : ∀ c ∈ after, isBlank c = true := fun c hc => hblank _ c (List.mem_reverse.1 hc)
  have hsplit : trimLeft s = trim s ++ after := by
    rw [trim, ← List.reverse_append, trimLeft, trimLeft, List.takeWhile_append_dropWhile,
      List.reverse_reverse]
  constructor
  · refine ⟨s.takeWhile isBlank, after, ?_, hblank s, hafter⟩
    rw [← hsplit, trimLeft, List.takeWhile_append_dropWhile]
  · intro c hc
    refine isBlank_of_trimLeft (s := s) ?_
    rw [hsplit]
    exact List.mem_head?_append_of_mem_head? hc
  · intro c hc
    rw [trim, List.getLast?_reverse] at hc
    exact isBlank_of_trimLeft hc

theorem trimLeft_append {before : List Char} (hb : ∀ c ∈ before, isBlank c = true) (ht : t ≠ [])
    (hh : ∀ c ∈ t.head?, isBlank c = false) (after : List Char) :
    trimLeft (before ++ (t ++ after)) = t ++ after := by
  rw [trimLeft, List.dropWhile_append_of_pos hb]
  cases t with
  | nil => exact absurd rfl ht
  | cons c t => exact trimLeft_cons (hh c rfl) _

theorem trim_eq_iff : trim s = t ↔ Trims s t := by
  constructor
  · rintro rfl
    exact trims_trim s
  · rintro ⟨⟨before, after, rfl, hb, ha⟩, hhead, hlast⟩
    by_cases ht : t = []
    · have hall : trimLeft (before ++ (t ++ after)) = [] := by
        rw [ht]
        exact List.dropWhile_eq_nil_iff.2 (List.forall_mem_append.2 ⟨hb, ha⟩)
      rw [trim, hall, ht]
      rfl
    · have hleft := trimLeft_append hb ht hhead after
      have hright := trimLeft_append (t := t.reverse) (fun c hc => ha c (List.mem_reverse.1 hc))
        (mt List.reverse_eq_nil_iff.1 ht) (by rwa [List.head?_reverse]) []
      rw [List.append_nil] at hright
      rw [trim, hleft, List.reverse_append, hright, List.reverse_reverse]

theorem Trims.self (h : Trims s t) : Trims t t :=
  ⟨⟨[], [], (List.append_nil t).symm, nofun, nofun⟩, h.head, h.last⟩

theorem trim_trim (s : List Char) : trim (trim s) = trim s := trim_eq_iff.2 (trims_trim s).self

theorem trims_of_forall (h : ∀ c ∈ s, isBlank c = false) : Trims s s :=
  ⟨⟨[], [], (List.append_nil s).symm, nofun, nofun⟩, fun c hc => h c (List.mem_of_mem_head? hc),
    fun c hc => h c (List.mem_of_mem_getLast? hc)⟩

end HostProbe.Text
