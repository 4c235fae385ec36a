import HostProbe.Address
import HostProbe.Proofs.Text.Numeral

namespace HostProbe

open Text

namespace V4

variable {s cs rest : List Char} {x : V4}

def Octet (cs : List Char) (o : UInt8) : Prop := IsNumeral 10 3 false cs o.toNat

inductive Spelt : List Char → V4 → Prop where
  | dotted {ca cb cc cd : List Char} {a b c d : UInt8} (ha : Octet ca a) (hb : Octet cb b)
      (hc : Octet cc c) (hd : Octet cd d) :
      Spelt (ca ++ '.' :: (cb ++ '.' :: (cc ++ '.' :: cd))) ⟨a, b, c, d⟩

theorem readOctet_eq_some_iff {o : UInt8} :
    readOctet s = some (o, rest) ↔ ∃ cs, s = cs ++ rest ∧ Octet cs o ∧ Stops 10 rest := by
  simp only [readOctet, Option.bind_eq_bind, Option.bind_eq_some_iff, Prod.exists]
  constructor
  · rintro ⟨n, r, hn, h⟩
    split_ifs at h with hlt
    cases h
    have hto : (UInt8.ofNat n).toNat = n := UInt8.toNat_ofNat_of_lt' hlt
    simp only [Octet, hto]
    exact (numeral_eq_some_iff (by decide)).1 hn
  · rintro ⟨cs, hs, ho, hstop⟩
    refine ⟨o.toNat, rest, (numeral_eq_some_iff (by decide)).2 ⟨cs, hs, ho, hstop⟩, ?_⟩
    rw [if_pos o.toNat_lt, UInt8.ofNat_toNat]

theorem readDot_eq_some_iff : readDot s = some rest ↔ s = '.' :: rest := by
  unfold readDot
  split
  · simp
  · next h => simpa using fun he => h _ he

theorem stops_dot (s : List Char) : Stops 10 ('.' :: s) := stops_cons rfl s

theorem readText_eq_some_iff :
    readText s = some (x, rest) ↔ ∃ cs, s = cs ++ rest ∧ Spelt cs x ∧ Stops 10 rest := by
  constructor
  · intro h
    simp only [readText, Option.bind_eq_bind, Option.bind_eq_some_iff, Prod.exists,
      readOctet_eq_some_iff, readDot_eq_some_iff, Option.some.injEq, Prod.mk.injEq] at h
    obtain ⟨a, _, ⟨ca, rfl, ha, _⟩, _, rfl, b, _, ⟨cb, rfl, hb, _⟩, _, rfl, c, _, ⟨cc, rfl, hc, _⟩,
      _, rfl, d, _, ⟨cd, rfl, hd, hstop⟩, rfl, rfl⟩ := h
    exact ⟨_, by simp, .dotted ha hb hc hd, hstop⟩
  · rintro ⟨_, rfl, ⟨ha, hb, hc, hd⟩, hstop⟩
    have hdot {cs : List Char} {o : UInt8} (ho : Octet cs o) (s : List Char) :
        readOctet (cs ++ '.' :: s) = some (o, '.' :: s) :=
      readOctet_eq_some_iff.2 ⟨cs, rfl, ho, stops_dot s⟩
    have hlast := readOctet_eq_some_iff.2 ⟨_, rfl, hd, hstop⟩
    simp [readText, readDot, hdot ha, hdot hb, hdot hc, hlast]

/-- An IPv4 address has a dot after its first digits. -/
theorem readText_eq_none (h : (digitRun 10 s).2.head? ≠ some '.') : readText s = none := by
  rw [Option.eq_none_iff_forall_ne_some]
  rintro ⟨x, rest⟩ hx
  obtain ⟨cs, rfl, hs, _⟩ := readText_eq_some_iff.1 hx
  obtain ⟨ha, _, _, _⟩ := hs
  obtain ⟨ds, hd, _⟩ := ha.value
  rw [List.append_assoc, List.cons_append, digitRun_append (by decide) hd (stops_dot _)] at h
  exact h rfl

end V4

namespace V6

variable {q : Bool} {s cs rest : List Char} {gs : List UInt16} {x : V6}

def Group (cs : List Char) (g : UInt16) : Prop := IsNumeral 16 4 true cs g.toNat

inductive Row : (quad : Bool) → List Char → List UInt16 → Prop where
  | group {cs : List Char} {g : UInt16} (h : Group cs g) : Row false cs [g]
  | quad {cs : List Char} {y : V4} (h : y.Spelt cs) :
      Row true cs [Bytes.word y.a y.b, Bytes.word y.c y.d]
  | cons {quad : Bool} {cs ds : List Char} {g : UInt16} {gs : List UInt16} (h : Group cs g)
      (hs : Row quad ds gs) : Row quad (cs ++ ':' :: ds) (g :: gs)

inductive Part : (quad : Bool) → List Char → List UInt16 → Prop where
  | nil : Part false [] []
  | row {quad : Bool} {cs : List Char} {gs : List UInt16} (h : Row quad cs gs) : Part quad cs gs

/-- Eight groups; or fewer around a gap, which stands for at least one group of zeros. -/
inductive Spelt : List Char → V6 → Prop where
  | whole {quad : Bool} {cs : List Char} {x : V6} (h : Row quad cs x.groups) : Spelt cs x
  | gap {quad : Bool} {cs ds : List Char} {gs hs : List UInt16} {n : Nat} {x : V6}
      (head : Part false cs gs) (tail : Part quad ds hs)
      (hx : x.groups = gs ++ List.replicate (n + 1) 0 ++ hs) : Spelt (cs ++ ':' :: ':' :: ds) x

theorem readGroup_eq_some_iff {g : UInt16} :
    readGroup s = some (g, rest) ↔ ∃ cs, s = cs ++ rest ∧ Group cs g ∧ Stops 16 rest := by
  simp only [readGroup, Option.bind_eq_bind, Option.bind_eq_some_iff, Prod.exists, Option.some.injEq,
    Prod.mk.injEq]
  constructor
  · rintro ⟨n, r, hn, rfl, rfl⟩
    obtain ⟨cs, hs, hnum, hstop⟩ := (numeral_eq_some_iff (by decide)).1 hn
    have hto : (UInt16.ofNat n).toNat = n := UInt16.toNat_ofNat_of_lt' (hnum.lt (by decide))
    simp only [Group, hto]
    exact ⟨cs, hs, hnum, hstop⟩
  · rintro ⟨cs, hs, hg, hstop⟩
    exact ⟨g.toNat, rest, (numeral_eq_some_iff (by decide)).2 ⟨cs, hs, hg, hstop⟩,
      UInt16.ofNat_toNat, rfl⟩

def lead (first : Bool) (cs : List Char) : List Char := if first then cs else ':' :: cs

theorem lead_append (first : Bool) (cs rest : List Char) :
    lead first (cs ++ rest) = lead first cs ++ rest := by
  cases first <;> rfl

theorem afterColon_eq_some_iff {first : Bool} :
    afterColon first s = some rest ↔ s = lead first rest := by
  unfold afterColon lead
  split
  · cases first <;> simp
  · next h =>
      cases first
      · simpa using fun he => h _ he
      · simp

theorem readGroups_sound {room : Nat} {first : Bool} (h : readGroups room first s = (gs, q, rest)) :
    gs.length ≤ room ∧
      (gs = [] ∧ q = false ∧ s = rest ∨ ∃ cs, Row q cs gs ∧ s = lead first cs ++ rest) := by
  -- By the room that is left; the row that a group begins goes on with what is read after its colon.
  induction room generalizing first s gs q rest with
  | zero =>
      cases h
      exact ⟨Nat.le_refl 0, .inl ⟨rfl, rfl, rfl⟩⟩
  | succ room ih =>
      rw [readGroups] at h
      split at h
      · next y r hy =>
          cases h
          obtain ⟨hroom, hy⟩ := Option.ite_none_right_eq_some.1 hy
          obtain ⟨t, ht, hy⟩ := Option.bind_eq_some_iff.1 hy
          obtain ⟨cs, rfl, hcs, _⟩ := V4.readText_eq_some_iff.1 hy
          refine ⟨Nat.succ_le_succ hroom, .inr ⟨cs, .quad hcs, ?_⟩⟩
          rw [afterColon_eq_some_iff.1 ht, lead_append]
      · split at h
        · next g r hg =>
            obtain ⟨t, ht, hg⟩ := Option.bind_eq_some_iff.1 hg
            obtain ⟨cs, rfl, hcs, _⟩ := readGroup_eq_some_iff.1 hg
            generalize hr : readGroups room false r = later at h
            obtain ⟨gs', q', rest'⟩ := later
            cases h
            obtain ⟨hlen, htail⟩ := ih hr
            refine ⟨Nat.succ_le_succ hlen, .inr ?_⟩
            rw [afterColon_eq_some_iff.1 ht, lead_append]
            rcases htail with ⟨rfl, rfl, rfl⟩ | ⟨ds, hds, rfl⟩
            · exact ⟨cs, .group hcs, rfl⟩
            · refine ⟨cs ++ ':' :: ds, .cons hcs hds, ?_⟩
              rw [lead_append, List.append_assoc]
              rfl
        · cases h
          exact ⟨Nat.zero_le _, .inl ⟨rfl, rfl, rfl⟩⟩

inductive Closes : List Char → Prop where
  | nil : Closes []
  | gap (s : List Char) : Closes (':' :: ':' :: s)

theorem Group.dot_not_mem {g : UInt16} (h : Group cs g) : '.' ∉ cs := by
  intro hm
  obtain ⟨d, hd⟩ := h.digit_of_mem hm
  cases (digit?_eq_some_iff (by decide)).2 hd

/-- A group with a colon or nothing after it begins no IPv4 address. -/
theorem Group.readText_eq_none {g : UInt16} (h : Group cs g) (hrest : rest.head? ≠ some '.')
    (hstop : Stops 10 rest) : V4.readText (cs ++ rest) = none :=
  V4.readText_eq_none (head?_digitRun_append h.dot_not_mem hrest hstop)

theorem stops_colon (s : List Char) (radix : Nat) (hr : radix ≤ 16) : Stops radix (':' :: s) := by
  refine stops_cons ?_ s
  exact if_neg (Nat.not_lt.2 hr)

theorem head?_colon_ne (s : List Char) : (':' :: s).head? ≠ some '.' :=
  fun he => absurd (Option.some.inj he) (by decide)

theorem Closes.stops (h : Closes rest) (radix : Nat) (hr : radix ≤ 16) : Stops radix rest := by
  cases h with
  | nil => exact stops_nil radix
  | gap s => exact stops_colon _ radix hr

theorem Closes.head?_ne (h : Closes rest) : rest.head? ≠ some '.' := by
  cases h with
  | nil => exact nofun
  | gap s => exact head?_colon_ne _

theorem readGroups_cons (room : Nat) (first : Bool) {g : UInt16} (hg : Group cs g)
    (hrest : rest.head? ≠ some '.') (hstop : ∀ radix ≤ 16, Stops radix rest) :
    readGroups (room + 1) first (lead first cs ++ rest) =
      (g :: (readGroups room false rest).1, (readGroups room false rest).2) := by
  have hlead := afterColon_eq_some_iff.2 (lead_append first cs rest).symm
  have hquad := hg.readText_eq_none hrest (hstop 10 (by decide))
  have hread := readGroup_eq_some_iff.2 ⟨cs, rfl, hg, hstop 16 (Nat.le_refl 16)⟩
  simp only [readGroups, hlead, Option.bind_some, hquad, ite_self, hread, Prod.mk.eta]

theorem Closes.readGroups_eq (h : Closes rest) (room : Nat) (first : Bool) :
    readGroups room first rest = ([], false, rest) := by
  cases room with
  | zero => rfl
  | succ room =>
      have hquad : (afterColon first rest).bind V4.readText = none := by
        cases h <;> cases first <;> rfl
      have hgroup : (afterColon first rest).bind readGroup = none := by
        cases h <;> cases first <;> rfl
      simp only [readGroups, hquad, ite_self, hgroup]

theorem Row.readGroups_eq {room : Nat} (h : Row q cs gs) (first : Bool) (hroom : gs.length ≤ room)
    (hrest : Closes rest) : readGroups room first (lead first cs ++ rest) = (gs, q, rest) := by
  induction h generalizing room first with
  | group hg =>
      obtain ⟨room, rfl⟩ := Nat.exists_eq_add_of_le' hroom
      rw [List.length_singleton, readGroups_cons room first hg hrest.head?_ne hrest.stops,
        hrest.readGroups_eq]
  | @quad cs y hy =>
      obtain ⟨room, rfl⟩ := Nat.exists_eq_add_of_le' hroom
      have hlead := afterColon_eq_some_iff.2 (lead_append first cs rest).symm
      have hread := V4.readText_eq_some_iff.2 ⟨cs, rfl, hy, hrest.stops 10 (by decide)⟩
      change readGroups (room + 1 + 1) _ _ = _
      rw [readGroups, if_pos (Nat.le_add_left 1 room), hlead, Option.bind_some, hread]
  | @cons q cs ds g gs hg _ ih =>
      obtain ⟨room, rfl⟩ := Nat.exists_eq_add_of_le' (Nat.le_trans (Nat.le_add_left 1 _) hroom)
      have hlater : readGroups room false (':' :: (ds ++ rest)) = (gs, q, rest) :=
        ih false (Nat.le_of_succ_le_succ hroom)
      rw [lead_append, List.append_assoc, List.cons_append,
        readGroups_cons room first hg (head?_colon_ne _) (stops_colon _), hlater]

theorem Part.readGroups_eq {room : Nat} (h : Part q cs gs) (hroom : gs.length ≤ room)
    (hrest : Closes rest) : readGroups room true (cs ++ rest) = (gs, q, rest) := by
  cases h with
  | nil => exact hrest.readGroups_eq room true
  | row h => exact h.readGroups_eq true hroom hrest

theorem part_of_readGroups {room : Nat} (h : readGroups room true s = (gs, q, rest)) :
    gs.length ≤ room ∧ ∃ cs, Part q cs gs ∧ s = cs ++ rest := by
  obtain ⟨hlen, ⟨rfl, rfl, rfl⟩ | ⟨cs, hcs, hs⟩⟩ := readGroups_sound h
  · exact ⟨hlen, [], .nil, rfl⟩
  · exact ⟨hlen, cs, .row hcs, hs⟩

theorem ofGroups?_eq_some_iff : ofGroups? gs = some x ↔ x.groups = gs := by
  constructor
  · intro h
    unfold ofGroups? at h
    split at h
    · cases h
      rfl
    · cases h
  · rintro rfl
    rfl

theorem length_groups (x : V6) : x.groups.length = 8 := rfl

theorem Part.row_of_length {room : Nat} (h : Part q cs gs) (hl : gs.length = room + 1) :
    Row q cs gs := by
  cases h with
  | nil => cases hl
  | row h => exact h

theorem spelt_of_readText (h : readText s = some (x, [])) : Spelt s x := by
  rw [readText] at h
  generalize hhead : readGroups 8 true s = head at h
  obtain ⟨gs, q, rest⟩ := head
  obtain ⟨hlen, cs, hcs, rfl⟩ := part_of_readGroups hhead
  dsimp only at h
  split_ifs at h with hfull hquad
  · -- Eight groups leave nothing out.
    obtain ⟨y, hy, he⟩ := Option.map_eq_some_iff.1 h
    cases he
    rw [← ofGroups?_eq_some_iff.1 hy] at hcs hfull
    rw [List.append_nil]
    exact .whole (hcs.row_of_length hfull)
  · split at h
    · next rest =>
        generalize htail : readGroups (7 - gs.length) true rest = tail at h
        obtain ⟨hs, q', rest'⟩ := tail
        obtain ⟨hlen', ds, hds, rfl⟩ := part_of_readGroups htail
        obtain ⟨y, hy, he⟩ := Option.map_eq_some_iff.1 h
        cases he
        obtain ⟨n, hn⟩ : ∃ n, 8 - gs.length - hs.length = n + 1 :=
          Nat.exists_eq_add_of_le' (by omega)
        have hx := ofGroups?_eq_some_iff.1 hy
        rw [hn] at hx
        rw [Bool.not_eq_true] at hquad
        rw [hquad] at hcs
        rw [List.append_nil]
        exact .gap hcs hds hx
    · cases h

theorem Spelt.readText_eq (h : Spelt s x) : readText s = some (x, []) := by
  cases h with
  | @whole q cs x hrow =>
      have hread : readGroups 8 true (s ++ []) = (x.groups, q, []) :=
        hrow.readGroups_eq true (Nat.le_refl 8) .nil
      rw [List.append_nil] at hread
      rw [readText, hread]
      rfl
  | @gap q cs ds gs hs n x hhead htail hx =>
      have hlen := x.length_groups
      rw [hx, List.length_append, List.length_append, List.length_replicate] at hlen
      have hread := hhead.readGroups_eq (show gs.length ≤ 8 by omega) (.gap ds)
      have hread' := htail.readGroups_eq (show hs.length ≤ 7 - gs.length by omega) .nil
      rw [List.append_nil] at hread'
      have hn : 8 - gs.length - hs.length = n + 1 := by omega
      rw [readText, hread]
      dsimp only
      rw [if_neg (by omega), if_neg Bool.false_ne_true]
      simp only [hread', hn, ofGroups?_eq_some_iff.2 hx, Option.map_some]

theorem Row.readText_eq_none (h : Row q cs gs) (hq : q = false ∨ gs.length = 8)
    (hrest : Closes rest) : V4.readText (cs ++ rest) = none := by
  cases h with
  | group hg => exact hg.readText_eq_none hrest.head?_ne (hrest.stops 10 (by decide))
  | quad hy => exact absurd hq (by simp)
  | cons hg _ =>
      rw [List.append_assoc]
      exact hg.readText_eq_none (head?_colon_ne _) (stops_colon _ 10 (by decide))

/-- The first groups of an IPv6 address are no IPv4 address. -/
theorem Spelt.readText_eq_none (h : Spelt s x) : V4.readText s = none := by
  cases h with
  | whole h =>
      have hnone := h.readText_eq_none (.inr x.length_groups) .nil
      rwa [List.append_nil] at hnone
  | gap hhead _ _ =>
      cases hhead with
      | nil => rfl
      | row h => exact h.readText_eq_none (.inl rfl) (.gap _)

end V6

namespace Numeric

variable {s : List Char} {x : Numeric}

inductive Spelt : List Char → Numeric → Prop where
  | v4 {cs : List Char} {x : V4} (h : x.Spelt cs) : Spelt cs (.v4 x)
  | v6 {cs : List Char} {x : V6} (h : x.Spelt cs) : Spelt cs (.v6 x)

theorem ofText?_eq_some_iff : ofText? s = some x ↔ Spelt s x := by
  have hwhole : ofText? s = some x ↔ readText s = some (x, []) := by
    rw [ofText?, Text.whole]
    split
    · next y h => simp [h]
    · next h => simpa using h x
  rw [hwhole, readText]
  constructor
  · intro h
    split at h
    · next y rest hy =>
        cases h
        obtain ⟨cs, rfl, hcs, _⟩ := V4.readText_eq_some_iff.1 hy
        rw [List.append_nil]
        exact .v4 hcs
    · obtain ⟨⟨y, rest⟩, hy, he⟩ := Option.map_eq_some_iff.1 h
      cases he
      exact .v6 (V6.spelt_of_readText hy)
  · rintro (h | h)
    · have hread := V4.readText_eq_some_iff.2 ⟨s, rfl, h, stops_nil 10⟩
      rw [List.append_nil] at hread
      rw [hread]
    · rw [h.readText_eq_none, h.readText_eq]
      rfl

end Numeric

def Text.Unblank (cs : List Char) : Prop := ∀ c ∈ cs, isBlank c = false

namespace Text

theorem Unblank.append {cs ds : List Char} (hc : Unblank cs) (hd : Unblank ds) : Unblank (cs ++ ds) :=
  List.forall_mem_append.2 ⟨hc, hd⟩

theorem Unblank.cons {c : Char} {cs : List Char} (hc : isBlank c = false) (hcs : Unblank cs) :
    Unblank (c :: cs) := List.forall_mem_cons.2 ⟨hc, hcs⟩

theorem IsNumeral.unblank {radix limit n : Nat} {leadingZero : Bool} {cs : List Char}
    (h : IsNumeral radix limit leadingZero cs n) (hr : radix ≤ 16) : Unblank cs := by
  intro c hc
  obtain ⟨d, hd⟩ := h.digit_of_mem hc
  have hlt : d < 16 := Nat.lt_of_lt_of_le hd.lt hr
  cases hd <;> interval_cases d <;> rfl

end Text

theorem V4.Spelt.unblank {cs : List Char} {x : V4} (h : x.Spelt cs) : Unblank cs := by
  obtain ⟨ha, hb, hc, hd⟩ := h
  have octet {cs : List Char} {o : UInt8} (ho : Octet cs o) : Unblank cs := ho.unblank (by decide)
  exact (octet ha).append (.cons rfl ((octet hb).append (.cons rfl ((octet hc).append
    (.cons rfl (octet hd))))))

theorem V6.Row.unblank {q : Bool} {cs : List Char} {gs : List UInt16} (h : Row q cs gs) :
    Unblank cs := by
  induction h with
  | group hg => exact hg.unblank (Nat.le_refl 16)
  | quad hy => exact hy.unblank
  | cons hg _ ih => exact (hg.unblank (Nat.le_refl 16)).append (.cons rfl ih)

theorem V6.Part.unblank {q : Bool} {cs : List Char} {gs : List UInt16} (h : Part q cs gs) :
    Unblank cs := by
  cases h with
  | nil => exact nofun
  | row h => exact h.unblank

theorem Numeric.Spelt.unblank {cs : List Char} {x : Numeric} (h : x.Spelt cs) : Unblank cs := by
  cases h with
  | v4 h => exact h.unblank
  | v6 h =>
      cases h with
      | whole h => exact h.unblank
      | gap hhead htail _ => exact hhead.unblank.append (.cons rfl (.cons rfl htail.unblank))

end HostProbe
