import HostProbe.Proofs.Icmp.Wire

namespace HostProbe.Icmp

namespace Message

def bytes (m : Message) : List UInt8 :=
  m.kind :: m.code :: (Bytes.bigEndian 2 m.checksum.toNat ++ Bytes.bigEndian 2 m.identifier.toNat ++
    Bytes.bigEndian 2 m.sequence.toNat ++ m.body)

theorem length_bytes (m : Message) : m.bytes.length = m.body.length + 8 := by
  simp only [bytes, List.length_cons, List.length_append, Bytes.length_bigEndian]
  omega

theorem ofBytes?_bytes (m : Message) : ofBytes? m.bytes = some m := ofBytes?_fields _ _ _ _ _ _

theorem ofBytes?_eq_some_iff {bytes : List UInt8} {m : Message} :
    ofBytes? bytes = some m ↔ bytes = m.bytes := by
  constructor
  · intro h
    unfold ofBytes? at h
    split at h
    · cases h
      simp only [Message.bytes, Bytes.bigEndian_word]
      rfl
    · cases h
  · rintro rfl
    exact m.ofBytes?_bytes

theorem exists_bytes {bytes : List UInt8} (h : 8 ≤ bytes.length) :
    ∃ m : Message, bytes = m.bytes := by
  match bytes, h with
  | _ :: _ :: _ :: _ :: _ :: _ :: _ :: _ :: _, _ => exact ⟨_, ofBytes?_eq_some_iff.1 rfl⟩

theorem ofBytes?_eq_none {bytes : List UInt8} (h : bytes.length < 8) : ofBytes? bytes = none := by
  cases hm : ofBytes? bytes with
  | none => rfl
  | some m =>
      rw [ofBytes?_eq_some_iff.1 hm, length_bytes] at h
      omega

structure LiesAt (m : Message) (frame : List UInt8) (start : Nat) : Prop where
  kind : frame[start]? = some m.kind
  code : frame[start + 1]? = some m.code
  checksum : Bytes.number ((frame.drop (start + 2)).take 2) = m.checksum.toNat
  identifier : Bytes.number ((frame.drop (start + 4)).take 2) = m.identifier.toNat
  sequence : Bytes.number ((frame.drop (start + 6)).take 2) = m.sequence.toNat
  body : frame.drop (start + 8) = m.body
  written : frame.drop start = m.bytes

theorem liesAt_iff {m : Message} {frame : List UInt8} {start : Nat} :
    m.LiesAt frame start ↔ frame.drop start = m.bytes := by
  refine ⟨LiesAt.written, fun h => ?_⟩
  have hbyte (i : Nat) : frame[start + i]? = m.bytes[i]? := by rw [← h, List.getElem?_drop]
  have hfield (i : Nat) : frame.drop (start + i) = m.bytes.drop i := by rw [← h, List.drop_drop]
  have hword (x : UInt16) : Bytes.number (Bytes.bigEndian 2 x.toNat) = x.toNat :=
    Bytes.number_bigEndian_of_lt x.toNat_lt
  exact {
    kind := hbyte 0
    code := hbyte 1
    checksum := by
      rw [hfield 2]
      exact hword m.checksum
    identifier := by
      rw [hfield 4]
      exact hword m.identifier
    sequence := by
      rw [hfield 6]
      exact hword m.sequence
    body := hfield 8
    written := h }

end Message

namespace Layout

def nibble (data : List UInt8) : Nat := (data.headD 0).toNat / 16

def words (data : List UInt8) : Nat := (data.headD 0).toNat % 16

theorem headerLength?_eq (data : List UInt8) : headerLength? data =
    if 20 ≤ data.length ∧ nibble data = 4 then
      if words data < 5 then none else some (4 * words data)
    else some 0 := by
  cases data with
  | nil => rfl
  | cons first rest => rfl

/-- Where the message of a datagram starts that is long enough to hold its header. -/
inductive Starts (layout : Layout) (data : List UInt8) : Nat → Prop where
  | alone (h : layout = .bare ∨ data.length < 20 ∨ nibble data ≠ 4) (hl : 8 ≤ data.length) :
      Starts layout data 0
  | behind (h : layout = .ipv4Header) (hf : 20 ≤ data.length) (hn : nibble data = 4)
      (hw : 5 ≤ words data) (hl : 4 * words data + 8 ≤ data.length) :
      Starts layout data (4 * words data)

variable {layout : Layout} {data : List UInt8} {start : Nat}

theorem Starts.add_le (h : layout.Starts data start) : start + 8 ≤ data.length := by
  cases h with
  | alone _ hl => omega
  | behind _ _ _ _ hl => exact hl

theorem words_lt (data : List UInt8) : words data < 16 := Nat.mod_lt _ (by decide)

theorem Starts.le (h : layout.Starts data start) : start ≤ 60 := by
  have hw := words_lt data
  cases h with
  | alone => omega
  | behind => omega

theorem offset?_of_starts (h : layout.Starts data start) : layout.offset? data = some start := by
  have hl := h.add_le
  cases h with
  | alone h _ =>
      cases layout with
      | bare => exact if_pos hl
      | ipv4Header =>
          have hn : ¬ (20 ≤ data.length ∧ nibble data = 4) := by
            rintro ⟨hf, hn⟩
            rcases h with h | h | h
            · cases h
            · omega
            · exact h hn
          rw [offset?]
          simp only [headerLength?_eq, if_neg hn, Option.bind_eq_bind, Option.bind_some, if_pos hl]
  | behind h hf hn hw _ =>
      subst h
      rw [offset?]
      simp only [headerLength?_eq, if_pos (And.intro hf hn), if_neg (Nat.not_lt.2 hw),
        Option.bind_eq_bind, Option.bind_some, if_pos hl]

theorem starts_of_offset? (h : layout.offset? data = some start) : layout.Starts data start := by
  cases layout with
  | bare =>
      obtain ⟨hl, he⟩ := Option.ite_none_right_eq_some.1 h
      cases he
      exact .alone (.inl rfl) (by omega)
  | ipv4Header =>
      obtain ⟨begins, hb, h⟩ := Option.bind_eq_some_iff.1 h
      obtain ⟨hl, he⟩ := Option.ite_none_right_eq_some.1 h
      cases he
      change headerLength? data = some start at hb
      rw [headerLength?_eq] at hb
      split at hb
      · next hn =>
          obtain ⟨hw, he⟩ := Option.ite_none_left_eq_some.1 hb
          cases he
          exact .behind rfl hn.1 hn.2 (Nat.not_lt.1 hw) hl
      · next hn =>
          cases hb
          refine .alone (.inr ?_) (by omega)
          rw [← Nat.not_le, ← not_and_or]
          exact hn

theorem offset?_eq_some_iff : layout.offset? data = some start ↔ layout.Starts data start :=
  ⟨starts_of_offset?, offset?_of_starts⟩

end Layout

namespace Message

variable {layout : Layout} {frame : List UInt8}

theorem ofFrame?_eq_some_iff {m : Message} : ofFrame? layout frame = some m ↔
    ∃ start, layout.Starts frame start ∧ m.LiesAt frame start := by
  rw [ofFrame?]
  simp only [Option.bind_eq_bind, Option.bind_eq_some_iff, Layout.offset?_eq_some_iff,
    ofBytes?_eq_some_iff, liesAt_iff]

theorem isSome_ofFrame?_iff :
    (ofFrame? layout frame).isSome ↔ ∃ start, layout.Starts frame start := by
  rw [Option.isSome_iff_exists]
  constructor
  · rintro ⟨m, hm⟩
    obtain ⟨start, hs, _⟩ := ofFrame?_eq_some_iff.1 hm
    exact ⟨start, hs⟩
  · rintro ⟨start, hs⟩
    have hl : 8 ≤ (frame.drop start).length := by
      have := hs.add_le
      rw [List.length_drop]
      omega
    obtain ⟨m, hm⟩ := exists_bytes hl
    exact ⟨m, ofFrame?_eq_some_iff.2 ⟨start, hs, liesAt_iff.2 hm⟩⟩

end Message

end HostProbe.Icmp
