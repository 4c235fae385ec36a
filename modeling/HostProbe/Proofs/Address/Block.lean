import HostProbe.Address.Block
import HostProbe.Proofs.Address.Text
import Mathlib.Algebra.Ring.Nat

namespace HostProbe

namespace Block

variable {width a : Nat} {b : Block} {blocks : List Block}

def mask (width : Nat) (b : Block) : BitVec width := BitVec.allOnes width <<< (width - b.length)

def Covers (width : Nat) (b : Block) (a : Nat) : Prop :=
  b.network ≤ a ∧ a ≤ b.network + (2 ^ (width - b.length) - 1)

def Aligned (width : Nat) (b : Block) : Prop := 2 ^ (width - b.length) ∣ b.network

instance : Decidable (b.Aligned width) := inferInstanceAs (Decidable (_ ∣ _))

theorem holds_iff_covers (h : b.Aligned width) : b.holds width a = true ↔ b.Covers width a := by
  obtain ⟨q, hq⟩ := h
  have hpos : 0 < 2 ^ (width - b.length) := Nat.two_pow_pos _
  rw [holds, decide_eq_true_iff, Covers, Nat.shiftRight_eq_div_pow, Nat.shiftLeft_eq, hq, Nat.mul_comm,
    Nat.mul_right_inj (Nat.ne_of_gt hpos), Nat.div_eq_iff hpos]
  rw [Nat.mul_comm q]
  omega

theorem and_mask_eq_iff {a : BitVec width} (hb : b.network < 2 ^ width) :
    a &&& b.mask width = BitVec.ofNat width b.network ↔ b.holds width a.toNat = true := by
  have hshift : a &&& b.mask width = a >>> (width - b.length) <<< (width - b.length) := by
    ext i hi
    by_cases h : i < width - b.length
    · simp [mask, h]
    · simp [mask, h, Nat.add_sub_cancel' (Nat.le_of_not_lt h), BitVec.getLsbD_eq_getElem hi]
  rw [hshift, ← BitVec.toNat_inj, BitVec.toNat_shiftLeft, BitVec.toNat_ushiftRight, BitVec.toNat_ofNat,
    Nat.mod_eq_of_lt hb, holds, decide_eq_true_iff, Nat.mod_eq_of_lt]
  rw [Nat.shiftRight_eq_div_pow, Nat.shiftLeft_eq]
  exact Nat.lt_of_le_of_lt (Nat.div_mul_le_self _ _) a.isLt

/-- What a block stands for: its mask lets the network through from just the addresses of its
interval. -/
structure Denotes (width : Nat) (b : Block) : Prop where
  masked (a : BitVec width) :
    b.holds width a.toNat = true ↔ a &&& b.mask width = BitVec.ofNat width b.network
  covers (a : Nat) : b.holds width a = true ↔ b.Covers width a

theorem denotes (hb : b.network < 2 ^ width) (h : b.Aligned width) : b.Denotes width where
  masked _ := (and_mask_eq_iff hb).symm
  covers _ := holds_iff_covers h

def Covered (width : Nat) (blocks : List Block) (a : Nat) : Prop := ∃ b ∈ blocks, b.Covers width a

theorem any_holds_iff (h : ∀ b ∈ blocks, b.Denotes width) :
    blocks.any (·.holds width a) = true ↔ Covered width blocks a := by
  rw [List.any_eq_true]
  exact exists_congr fun b => and_congr_right fun hb => (h b hb).covers a

end Block

namespace V4

variable (x : V4)

theorem toNat_eq : x.toNat =
    x.a.toNat * 2 ^ 24 + x.b.toNat * 2 ^ 16 + x.c.toNat * 2 ^ 8 + x.d.toNat := by
  simp [toNat, octets]
  omega

theorem toNat_lt : x.toNat < 2 ^ 32 := by
  have ha := x.a.toNat_lt
  have hb := x.b.toNat_lt
  have hc := x.c.toNat_lt
  have hd := x.d.toNat_lt
  rw [toNat_eq]
  omega

theorem denotes_of_private : ∀ b ∈ privateBlocks, b.Denotes 32 := by
  intro b hb
  have h : b.network < 2 ^ 32 ∧ b.Aligned 32 := by
    revert b
    decide
  exact Block.denotes h.1 h.2

theorem isPrivate_iff : x.isPrivate = true ↔ Block.Covered 32 privateBlocks x.toNat :=
  Block.any_holds_iff denotes_of_private

theorem isReserved_iff : x.isReserved = true ↔ (⟨240, 0, 0, 0⟩ : V4).toNat ≤ x.toNat := by
  have hblock : (⟨0xf0, 4⟩ : Block).Denotes 8 := Block.denotes (by decide) (by decide)
  have hmask : x.a &&& 0xf0 = 0xf0 ↔ (⟨0xf0, 4⟩ : Block).Covers 8 x.a.toNat := by
    rw [← hblock.covers, ← UInt8.toNat_toBitVec, hblock.masked, ← UInt8.toBitVec_inj,
      UInt8.toBitVec_and]
    rfl
  have ha := x.a.toNat_lt
  have hb := x.b.toNat_lt
  have hc := x.c.toNat_lt
  have hd := x.d.toNat_lt
  rw [isReserved, beq_iff_eq, hmask, Block.Covers, toNat_eq, toNat_eq]
  simp
  omega

variable {x}

theorem isPrivate_of_isLoopback (h : x.isLoopback = true) : x.isPrivate = true := by
  have ha : x.a = 127 := beq_iff_eq.1 h
  have hb := x.b.toNat_lt
  have hc := x.c.toNat_lt
  have hd := x.d.toNat_lt
  refine x.isPrivate_iff.2 ⟨block 127 0 0 0 8, by decide, ?_⟩
  simp [Block.Covers, block, toNat_eq, ha]
  omega

theorem isPrivate_of_isReserved (h : x.isReserved = true) : x.isPrivate = true := by
  have hlt := x.toNat_lt
  refine x.isPrivate_iff.2 ⟨block 240 0 0 0 4, by decide, x.isReserved_iff.1 h, ?_⟩
  simp [block, toNat_eq ⟨240, 0, 0, 0⟩]
  omega

theorem not_isPrivate_of_isMulticast (h : x.isMulticast = true) :
    x.isPrivate = false ∧ x.isReserved = false := by
  have ha : 224 ≤ x.a.toNat ∧ x.a.toNat ≤ 239 := of_decide_eq_true h
  have hb := x.b.toNat_lt
  have hc := x.c.toNat_lt
  have hd := x.d.toNat_lt
  have hx := x.toNat_eq
  have hgap : ∀ b ∈ privateBlocks, b.network + 2 ^ (32 - b.length) ≤ 224 * 2 ^ 24 ∨
      240 * 2 ^ 24 ≤ b.network := by decide
  constructor
  · rw [Bool.eq_false_iff, Ne, isPrivate_iff]
    rintro ⟨b, hb, hle, hlt⟩
    have hpos : 0 < 2 ^ (32 - b.length) := Nat.two_pow_pos _
    rcases hgap b hb with hg | hg
    · omega
    · omega
  · rw [Bool.eq_false_iff, Ne, isReserved_iff, toNat_eq ⟨240, 0, 0, 0⟩]
    simp
    omega

end V4

namespace V6

variable (x : V6)

theorem toNat_eq : x.toNat =
    x.g0.toNat * 2 ^ 112 + x.g1.toNat * 2 ^ 96 + x.g2.toNat * 2 ^ 80 + x.g3.toNat * 2 ^ 64 +
      x.g4.toNat * 2 ^ 48 + x.g5.toNat * 2 ^ 32 + x.g6.toNat * 2 ^ 16 + x.g7.toNat := by
  simp [toNat, groups]
  omega

theorem denotes_of_private : ∀ b ∈ privateBlocks, b.Denotes 128 := by
  intro b hb
  have h : b.network < 2 ^ 128 ∧ b.Aligned 128 := by
    revert b
    decide
  exact Block.denotes h.1 h.2

theorem denotes_of_reserved : ∀ b ∈ reservedBlocks, b.Denotes 16 := by
  intro b hb
  have h : b.network < 2 ^ 16 ∧ b.Aligned 16 := by
    revert b
    decide
  exact Block.denotes h.1 h.2

theorem isReserved_iff : x.isReserved = true ↔ x.g0.toNat ≤ 0x1fff ∨
    0x4000 ≤ x.g0.toNat ∧ x.g0.toNat ≤ 0xfbff ∨ 0xfe00 ≤ x.g0.toNat ∧ x.g0.toNat ≤ 0xfe7f := by
  rw [isReserved, Block.any_holds_iff denotes_of_reserved]
  simp [Block.Covered, reservedBlocks, Block.Covers]
  omega

def ofV4 (y : V4) : V6 := ⟨0, 0, 0, 0, 0, 0xffff, Bytes.word y.a y.b, Bytes.word y.c y.d⟩

theorem mapped?_ofV4 (y : V4) : (ofV4 y).mapped? = some y := by
  have hsplit (high low : UInt8) : split (Bytes.word high low) = [high, low] :=
    Bytes.bigEndian_word high low
  have hgroups : (ofV4 y).groups.take 6 = [0, 0, 0, 0, 0, 0xffff] := rfl
  rw [mapped?, if_pos hgroups, ofV4, hsplit, hsplit]
  rfl

theorem mapped?_eq_some_iff {y : V4} : x.mapped? = some y ↔ x = ofV4 y := by
  constructor
  · intro h
    have hg := groups_of_mapped? h
    obtain ⟨g0, g1, g2, g3, g4, g5, g6, g7⟩ := x
    cases hg
    rfl
  · rintro rfl
    exact mapped?_ofV4 y

theorem toNat_ofV4 (y : V4) : (ofV4 y).toNat = 0xffff * 2 ^ 32 + y.toNat := by
  have hzero : (0 : UInt16).toNat = 0 := rfl
  have hmark : (0xffff : UInt16).toNat = 0xffff := rfl
  simp only [toNat_eq, ofV4, hzero, hmark, Bytes.toNat_word, y.toNat_eq, Nat.zero_mul, Nat.zero_add]
  omega

theorem isPrivate_ofV4 (y : V4) : (ofV4 y).isPrivate = y.isPrivate := by
  rw [isPrivate, mapped?_ofV4]

theorem isPrivate_iff : x.isPrivate = true ↔
    Block.Covered 128 privateBlocks x.toNat ∨ ∃ y, x = ofV4 y ∧ y.isPrivate = true := by
  have hgap : ∀ b ∈ privateBlocks, b.network + 2 ^ (128 - b.length) ≤ 0xffff * 2 ^ 32 ∨
      2 ^ 48 ≤ b.network := by decide
  cases h : x.mapped? with
  | none =>
      have hx (y : V4) : x ≠ ofV4 y := fun he => by simp [x.mapped?_eq_some_iff.2 he] at h
      simp [isPrivate, h, Block.any_holds_iff denotes_of_private, hx]
  | some y =>
      obtain rfl := x.mapped?_eq_some_iff.1 h
      have hy := y.toNat_lt
      have hx := toNat_ofV4 y
      have hcovered : ¬ Block.Covered 128 privateBlocks (ofV4 y).toNat := by
        rintro ⟨b, hb, hle, hlt⟩
        have hpos : 0 < 2 ^ (128 - b.length) := Nat.two_pow_pos _
        rcases hgap b hb with hg | hg
        · omega
        · omega
      have hinj (z : V4) : ofV4 y = ofV4 z ↔ y = z := by
        rw [← mapped?_eq_some_iff, h, Option.some.injEq]
      simp [isPrivate, h, hcovered, hinj]

variable {x}

theorem isPrivate_of_isLoopback (h : x.isLoopback = true) : x.isPrivate = true := by
  have hx : x = loopback := beq_iff_eq.1 h
  rw [hx]
  decide

theorem isMulticast_iff : x.isMulticast = true ↔ 0xff00 ≤ x.g0.toNat := by
  have hblock : (⟨0xff00, 8⟩ : Block).Denotes 16 := Block.denotes (by decide) (by decide)
  have hmask : x.g0 &&& 0xff00 = 0xff00 ↔ (⟨0xff00, 8⟩ : Block).Covers 16 x.g0.toNat := by
    rw [← hblock.covers, ← UInt16.toNat_toBitVec, hblock.masked, ← UInt16.toBitVec_inj,
      UInt16.toBitVec_and]
    rfl
  have hg := x.g0.toNat_lt
  rw [isMulticast, beq_iff_eq, hmask, Block.Covers]
  simp
  omega

theorem not_isPrivate_of_isMulticast (h : x.isMulticast = true) :
    x.isPrivate = false ∧ x.isReserved = false := by
  have hg : 0xff00 ≤ x.g0.toNat := isMulticast_iff.1 h
  have hx := x.toNat_eq
  have hbelow : ∀ b ∈ privateBlocks, b.network + 2 ^ (128 - b.length) ≤ 0xff00 * 2 ^ 112 := by
    decide
  constructor
  · rw [Bool.eq_false_iff, Ne, isPrivate_iff]
    rintro (⟨b, hb, hle, hlt⟩ | ⟨y, rfl, _⟩)
    · have hpos : 0 < 2 ^ (128 - b.length) := Nat.two_pow_pos _
      have hend := hbelow b hb
      omega
    · exact absurd hg (show ¬ 0xff00 ≤ (0 : UInt16).toNat by decide)
  · rw [Bool.eq_false_iff, Ne, isReserved_iff]
    omega

end V6

/-- The flags of an address are memberships in sets of numbers. Each block of the tables is the
interval that its mask lets through; an address is private in the union of these, an IPv6 address
also as the IPv6 form of a private IPv4 address. -/
theorem flags_by_number :
    (∀ b ∈ V4.privateBlocks, b.Denotes 32) ∧ (∀ b ∈ V6.privateBlocks, b.Denotes 128) ∧
    (∀ b ∈ V6.reservedBlocks, b.Denotes 16) ∧
    (∀ x : V4, x.isPrivate = true ↔ Block.Covered 32 V4.privateBlocks x.toNat) ∧
    (∀ x : V6, x.isPrivate = true ↔ Block.Covered 128 V6.privateBlocks x.toNat ∨
      ∃ y, x = V6.ofV4 y ∧ y.isPrivate = true) ∧
    (∀ y, (V6.ofV4 y).toNat = 0xffff * 2 ^ 32 + y.toNat ∧
      (V6.ofV4 y).isPrivate = y.isPrivate ∧ (V6.ofV4 y).isReserved = true) ∧
    (∀ x : V6, x.isReserved = true ↔ x.g0.toNat ≤ 0x1fff ∨
      0x4000 ≤ x.g0.toNat ∧ x.g0.toNat ≤ 0xfbff ∨ 0xfe00 ≤ x.g0.toNat ∧ x.g0.toNat ≤ 0xfe7f) ∧
    (∀ x : V4, x.isReserved = true ↔ (⟨240, 0, 0, 0⟩ : V4).toNat ≤ x.toNat) ∧
    (∀ x : V4, x.isReserved = true → x.isPrivate = true) ∧
    (∀ x : Numeric, x.isLoopback = true → x.isPrivate = true) ∧
    ∀ x : Numeric, x.isMulticast = true → x.isPrivate = false ∧ x.isReserved = false := by
  refine ⟨V4.denotes_of_private, V6.denotes_of_private, V6.denotes_of_reserved, V4.isPrivate_iff,
    V6.isPrivate_iff, fun y => ⟨V6.toNat_ofV4 y, V6.isPrivate_ofV4 y, ?_⟩, V6.isReserved_iff,
    V4.isReserved_iff, fun _ => V4.isPrivate_of_isReserved, ?_, ?_⟩
  · exact (V6.isReserved_iff _).2 (.inl (Nat.zero_le _))
  · intro x h
    cases x with
    | v4 x => exact V4.isPrivate_of_isLoopback h
    | v6 x => exact V6.isPrivate_of_isLoopback h
  · intro x h
    cases x with
    | v4 x => exact V4.not_isPrivate_of_isMulticast h
    | v6 x => exact V6.not_isPrivate_of_isMulticast h

/-- A private IPv4 address in its IPv6 form, a loopback address and a multicast group. -/
theorem flags_by_number_mapped :
    (V6.ofV4 ⟨10, 0, 0, 1⟩).isPrivate = true ∧ (V6.ofV4 ⟨10, 0, 0, 1⟩).isReserved = true ∧
    (Numeric.v4 ⟨127, 0, 0, 1⟩).isPrivate = true ∧
    (Numeric.v6 ⟨0xff02, 0, 0, 0, 0, 0, 0, 1⟩).isPrivate = false := by
  obtain ⟨-, -, -, hv4, -, hmapped, -, -, -, hloopback, hmulticast⟩ := flags_by_number
  obtain ⟨-, hprivate, hreserved⟩ := hmapped ⟨10, 0, 0, 1⟩
  have hten : V4.isPrivate ⟨10, 0, 0, 1⟩ = true :=
    (hv4 _).2 ⟨V4.block 10 0 0 0 8, by decide, by unfold Block.Covers; decide⟩
  exact ⟨hprivate.trans hten, hreserved, hloopback _ rfl, (hmulticast _ rfl).1⟩

end HostProbe
