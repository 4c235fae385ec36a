import HostProbe.Proofs.Address.Grammar
import HostProbe.Proofs.Bytes

namespace HostProbe

open Text

namespace V4

theorem octet_octetText (o : UInt8) : Octet (octetText o) o :=
  isNumeral_toDigits (by decide) (by decide) (by decide) (Nat.lt_trans o.toNat_lt (by decide)) false

theorem spelt_written (x : V4) : x.Spelt x.written :=
  .dotted (octet_octetText x.a) (octet_octetText x.b) (octet_octetText x.c) (octet_octetText x.d)

end V4

namespace V6

theorem group_groupText (g : UInt16) : Group (groupText g) g :=
  isNumeral_toDigits (by decide) (Nat.le_refl 16) (by decide) g.toNat_lt true

theorem row_joined (g : UInt16) (gs : List UInt16) : Row false (joined (g :: gs)) (g :: gs) := by
  induction gs generalizing g with
  | nil => exact .group (group_groupText g)
  | cons g' gs ih => exact .cons (group_groupText g) (ih g')

theorem part_joined (gs : List UInt16) : Part false (joined gs) gs := by
  cases gs with
  | nil => exact .nil
  | cons g gs => exact .row (row_joined g gs)

theorem exists_of_longestRun {start first length : Nat} {gs : List UInt16}
    (h : longestRun start gs = (first, length)) (hpos : 0 < length) :
    ∃ before after, gs = before ++ List.replicate length 0 ++ after ∧
      first = start + before.length := by
  induction gs generalizing start with
  | nil =>
      cases h
      cases hpos
  | cons g gs ih =>
      rw [longestRun] at h
      split at h
      · -- The run starts here, and what comes after it is what is left of the groups.
        cases h
        refine ⟨[], (g :: gs).dropWhile (· == 0), ?_, rfl⟩
        have hz : (g :: gs).takeWhile (· == 0) = List.replicate (zerosAt (g :: gs)) 0 := by
          refine List.eq_replicate_of_mem fun x hx => ?_
          exact beq_iff_eq.1 (List.all_eq_true.1 List.all_takeWhile x hx)
        rw [List.nil_append, ← hz, List.takeWhile_append_dropWhile]
      · obtain ⟨before, after, rfl, rfl⟩ := ih h
        refine ⟨g :: before, after, rfl, ?_⟩
        rw [List.length_cons]
        omega

theorem groups_of_mapped? {x : V6} {v4 : V4} (h : x.mapped? = some v4) :
    x.groups = [0, 0, 0, 0, 0, 0xffff, Bytes.word v4.a v4.b, Bytes.word v4.c v4.d] := by
  unfold mapped? at h
  split at h
  · next hg =>
      obtain ⟨g0, g1, g2, g3, g4, g5, g6, g7⟩ := x
      cases h
      change [g0, g1, g2, g3, g4, g5] = _ at hg
      cases hg
      exact congrArg₂ (fun a b : UInt16 => [0, 0, 0, 0, 0, 0xffff, a, b])
        (Bytes.word_split g6).symm (Bytes.word_split g7).symm
  · cases h

theorem spelt_written (x : V6) : x.Spelt x.written := by
  unfold written
  split
  · next v4 h =>
      have hmark : Row true (['f', 'f', 'f', 'f'] ++ ':' :: v4.written)
          [0xffff, Bytes.word v4.a v4.b, Bytes.word v4.c v4.d] :=
        .cons (group_groupText 0xffff) (.quad v4.spelt_written)
      exact .gap (n := 4) .nil (.row hmark) (groups_of_mapped? h)
  · split
    next first length hrun =>
      split
      · next hl =>
          obtain ⟨before, after, hg, hfirst⟩ := exists_of_longestRun hrun (by omega)
          have htake : x.groups.take first = before := by
            rw [hg, List.append_assoc, hfirst, Nat.zero_add, List.take_left]
          have hdrop : x.groups.drop (first + length) = after := by
            rw [hg, List.drop_left' (by simp [hfirst])]
          obtain ⟨n, rfl⟩ := Nat.exists_eq_add_of_le' (show 1 ≤ length by omega)
          rw [htake, hdrop]
          exact .gap (part_joined before) (part_joined after) hg
      · exact .whole (row_joined x.g0 _)

end V6

theorem Numeric.spelt_written (x : Numeric) : x.Spelt x.written := by
  cases x with
  | v4 x => exact .v4 x.spelt_written
  | v6 x => exact .v6 x.spelt_written

end HostProbe
