import HostProbe.Fanout
import Mathlib.Data.List.Nodup

namespace HostProbe.Fanout

variable {ε α : Type}

def State.places (s : State ε α) : List Nat := s.failures.map Prod.fst ++ s.results.map Prod.fst

theorem State.places_add (s : State ε α) (position : Nat) (outcome : Except ε α) :
    (s.add position outcome).places.Perm (position :: s.places) := by
  cases outcome with
  | ok a => exact List.perm_middle
  | error e =>
      simp only [add, places, List.map_append, List.map_cons, List.map_nil, List.append_assoc]
      exact List.perm_middle

structure State.All (P : Nat → Except ε α → Prop) (s : State ε α) : Prop where
  results : ∀ x ∈ s.results, P x.1 (.ok x.2)
  failures : ∀ x ∈ s.failures, P x.1 (.error x.2)

theorem State.All.add {P : Nat → Except ε α → Prop} {s : State ε α} (h : s.All P)
    {position : Nat} {outcome : Except ε α} (hp : P position outcome) :
    (s.add position outcome).All P := by
  cases outcome with
  | ok a => exact ⟨List.forall_mem_cons.2 ⟨hp, h.results⟩, h.failures⟩
  | error e =>
      refine ⟨h.results, fun x hx => ?_⟩
      rcases List.mem_append.1 hx with hx | hx
      · exact h.failures x hx
      · rw [List.mem_singleton.1 hx]
        exact hp

theorem mem_of_least {failures : List (Nat × ε)} {f : Nat × ε} (h : least failures = some f) :
    f ∈ failures := by
  induction failures generalizing f with
  | nil => cases h
  | cons g failures ih =>
      rw [least] at h
      split at h
      · cases h
        exact List.mem_cons_self
      · next k hk =>
          split at h
          · cases h
            exact List.mem_cons_of_mem _ (ih hk)
          · cases h
            exact List.mem_cons_self

theorem least_ne_none (f : Nat × ε) (failures : List (Nat × ε)) : least (f :: failures) ≠ none := by
  unfold least
  split
  · exact Option.some_ne_none _
  · split
    · exact Option.some_ne_none _
    · exact Option.some_ne_none _

theorem mem_of_ending? {size : Nat} {failures : List (Nat × ε)} {clear : Nat → Bool} {e : ε}
    (h : ending? size failures clear = some e) : ∃ position, (position, e) ∈ failures := by
  rw [ending?] at h
  split at h
  · obtain ⟨⟨position, _⟩, hf, rfl⟩ := Option.map_eq_some_iff.1 h
    exact ⟨position, List.mem_of_head? hf⟩
  · split at h
    · cases h
    · next position _ hl =>
        split at h
        · cases h
          exact ⟨position, mem_of_least hl⟩
        · cases h

theorem least_le {failures : List (Nat × ε)} {f g : Nat × ε} (h : least failures = some f)
    (hg : g ∈ failures) : f.1 ≤ g.1 := by
  induction failures generalizing f with
  | nil => cases hg
  | cons k failures ih =>
      rw [least] at h
      split at h
      · next hn =>
          cases failures with
          | nil =>
              cases h
              exact List.mem_singleton.1 hg ▸ Nat.le_refl _
          | cons l failures => exact absurd hn (least_ne_none l failures)
      · next l hl =>
          split at h
          · next hlt =>
              cases h
              rcases List.mem_cons.1 hg with rfl | hg
              · exact Nat.le_of_lt hlt
              · exact ih hl hg
          · next hlt =>
              cases h
              rcases List.mem_cons.1 hg with rfl | hg
              · exact Nat.le_refl _
              · exact Nat.le_trans (Nat.not_lt.1 hlt) (ih hl hg)

/-- A small group ends with the only failure it has. -/
theorem ending?_eq_some_iff_of_small {size : Nat} {failures : List (Nat × ε)} {clear : Nat → Bool}
    (hs : size ≤ small) (hl : failures.length ≤ 1) {e : ε} :
    ending? size failures clear = some e ↔ ∃ position, (position, e) ∈ failures := by
  rw [ending?, if_pos hs]
  match failures with
  | [] => exact ⟨nofun, nofun⟩
  | [x] =>
      simp only [List.head?_cons, Option.map_some, Option.some.injEq, List.mem_singleton]
      constructor
      · rintro rfl
        exact ⟨x.1, rfl⟩
      · rintro ⟨_, rfl⟩
        rfl
  | _ :: _ :: _ => exact absurd hl (by simp)

/-- A large group ends with the failure of the first job of those that failed, once no job before it
is under way. -/
theorem ending?_eq_some_iff_of_large {size : Nat} {failures : List (Nat × ε)} {clear : Nat → Bool}
    (hs : small < size) (hn : (failures.map Prod.fst).Nodup) {e : ε} :
    ending? size failures clear = some e ↔ ∃ position, (position, e) ∈ failures ∧
      (∀ x ∈ failures, position ≤ x.1) ∧ clear position = true := by
  rw [ending?, if_neg (Nat.not_le_of_lt hs)]
  constructor
  · intro h
    split at h
    · cases h
    · next position _ hl =>
        split at h
        · next hc =>
            cases h
            exact ⟨position, mem_of_least hl, fun _ hx => least_le hl hx, hc⟩
        · cases h
  · rintro ⟨position, hm, hle, hc⟩
    cases hl : least failures with
    | none =>
        cases failures with
        | nil => cases hm
        | cons f failures => exact absurd hl (least_ne_none f failures)
    | some f =>
        have hp : f.1 = position := Nat.le_antisymm (least_le hl hm) (hle f (mem_of_least hl))
        obtain rfl : f = (position, e) :=
          List.inj_on_of_nodup_map hn (mem_of_least hl) hm hp
        exact if_pos hc

/-- A group with a failure and no job that is not over has ended. -/
theorem ending?_ne_none {size : Nat} {clear : Nat → Bool} (hc : ∀ position, clear position = true)
    (f : Nat × ε) (failures : List (Nat × ε)) : ending? size (f :: failures) clear ≠ none := by
  unfold ending?
  split
  · exact Option.some_ne_none _
  · split
    · next hl => exact absurd hl (least_ne_none f failures)
    · rw [if_pos (hc _)]
      exact Option.some_ne_none _

section InOrder

variable {results : List (Nat × α)} {size : Nat}
  (h : (results.map Prod.fst).Perm (List.range size))
include h

theorem map_fst_mergeSort :
    (results.mergeSort fun x y => x.1 ≤ y.1).map Prod.fst = List.range size := by
  have htrans (x y z : Nat × α) (hxy : decide (x.1 ≤ y.1) = true)
      (hyz : decide (y.1 ≤ z.1) = true) : decide (x.1 ≤ z.1) = true :=
    decide_eq_true (Nat.le_trans (of_decide_eq_true hxy) (of_decide_eq_true hyz))
  have htotal (x y : Nat × α) : (decide (x.1 ≤ y.1) || decide (y.1 ≤ x.1)) = true := by
    simpa only [Bool.or_eq_true, decide_eq_true_eq] using Nat.le_total x.1 y.1
  have hs := List.pairwise_mergeSort htrans htotal results
  refine List.Perm.eq_of_pairwise (fun a b _ _ => Nat.le_antisymm) ?_ List.pairwise_le_range ?_
  · exact List.pairwise_map.2 (hs.imp of_decide_eq_true)
  · exact ((List.mergeSort_perm _ _).map _).trans h

theorem length_inOrder : (inOrder results).length = size := by
  rw [inOrder, List.length_map, List.length_mergeSort, ← List.length_map Prod.fst, h.length_eq,
    List.length_range]

theorem mem_of_getElem?_inOrder {i : Nat} {a : α} (ha : (inOrder results)[i]? = some a) :
    (i, a) ∈ results := by
  have hs := map_fst_mergeSort h
  simp only [inOrder, List.getElem?_map, Option.map_eq_some_iff] at ha
  obtain ⟨⟨j, _⟩, hj, rfl⟩ := ha
  have hi : (List.range size)[i]? = some j := by
    rw [← hs, List.getElem?_map, hj]
    rfl
  obtain ⟨_, rfl⟩ := List.getElem?_eq_some_iff.1 hi
  rw [List.getElem_range] at hj
  exact List.mem_mergeSort.1 (List.mem_of_getElem? hj)

end InOrder

end HostProbe.Fanout
