import HostProbe.Icmp.Matcher
import HostProbe.Proofs.Icmp.Framing

namespace HostProbe

namespace Icmp

namespace Layout

variable {layout : Layout} {data : List UInt8} {n : Nat}

theorem headD_take (h : 0 < n) (data : List UInt8) : (data.take n).headD 0 = data.headD 0 := by
  obtain ⟨n, rfl⟩ := Nat.exists_eq_add_of_le' h
  cases data <;> rfl

theorem nibble_take (h : 0 < n) (data : List UInt8) : nibble (data.take n) = nibble data := by
  rw [nibble, headD_take h, nibble]

theorem words_take (h : 0 < n) (data : List UInt8) : words (data.take n) = words data := by
  rw [words, headD_take h, words]

/-- Whether a message starts is seen in the longest IPv4 header and eight bytes more. -/
theorem starts_take_iff (h : 68 ≤ n) {start : Nat} :
    layout.Starts (data.take n) start ↔ layout.Starts data start := by
  have hpos : 0 < n := Nat.lt_of_lt_of_le (by decide) h
  have hnibble := nibble_take hpos data
  have hwords := words_take hpos data
  have hlt := words_lt data
  have hlength : (data.take n).length = min n data.length := List.length_take
  constructor
  · intro hs
    cases hs with
    | alone hk hl =>
        rw [hlength, hnibble] at hk
        refine .alone (hk.imp_right (Or.imp_left fun hk => ?_)) ?_ <;> omega
    | behind hk hf hn hw hl =>
        rw [hwords] at hw hl ⊢
        exact .behind hk (by omega) (hnibble ▸ hn) hw (by omega)
  · intro hs
    cases hs with
    | alone hk hl =>
        refine .alone ?_ (by omega)
        rw [hlength, hnibble]
        exact hk.imp_right (Or.imp_left fun hk => by omega)
    | behind hk hf hn hw hl =>
        rw [← hwords]
        exact .behind hk (by omega) (hnibble.trans hn) (by omega) (by omega)

theorem offset?_take (h : 68 ≤ n) (layout : Layout) (data : List UInt8) :
    layout.offset? (data.take n) = layout.offset? data := by
  ext start
  rw [offset?_eq_some_iff, offset?_eq_some_iff, starts_take_iff h]

end Layout

namespace Message

variable {m : Message} {k n : Nat}

def cut (n : Nat) (m : Message) : Message := { m with body := m.body.take n }

theorem ofBytes?_take_eq (h : 8 ≤ n) (bytes : List UInt8) :
    ofBytes? (bytes.take n) = (ofBytes? bytes).map (cut (n - 8)) := by
  obtain ⟨n, rfl⟩ := Nat.exists_eq_add_of_le' h
  rcases Nat.lt_or_ge bytes.length 8 with hl | hl
  · have hs : (bytes.take (n + 8)).length < 8 := Nat.lt_of_le_of_lt (List.length_take_le' _ _) hl
    rw [ofBytes?_eq_none hl, ofBytes?_eq_none hs]
    rfl
  · match bytes, hl with
    | _ :: _ :: _ :: _ :: _ :: _ :: _ :: _ :: _, _ => rfl

theorem ofFrame?_take (h : 68 ≤ n) (layout : Layout) (frame : List UInt8) : ∃ k, n ≤ k + 68 ∧
    ofFrame? layout (frame.take n) = (ofFrame? layout frame).map (cut k) := by
  rw [ofFrame?, ofFrame?, Layout.offset?_take h]
  cases ho : layout.offset? frame with
  | none => exact ⟨n, Nat.le_add_right _ _, rfl⟩
  | some start =>
      have hs := (Layout.starts_of_offset? ho).le
      refine ⟨n - start - 8, by omega, ?_⟩
      change ofBytes? ((frame.take n).drop start) = _
      rw [List.drop_take, ofBytes?_take_eq (by omega)]
      rfl

theorem timestamp?_cut (h : 8 ≤ k) (m : Message) : (m.cut k).timestamp? = m.timestamp? := by
  have hl : 8 ≤ (m.body.take k).length ↔ 8 ≤ m.body.length := by
    rw [List.length_take]
    omega
  simp only [timestamp?, cut, hl, List.take_take, Nat.min_eq_left h]

theorem quotedHeader?_take (h : 0 < k) (version : Version) (body : List UInt8) :
    quotedHeader? version (body.take k) = quotedHeader? version body := by
  obtain ⟨k, rfl⟩ := Nat.exists_eq_add_of_le' h
  cases version with
  | v4 => cases body <;> rfl
  | v6 => rfl

theorem quotedHeader?_le {version : Version} {body : List UInt8} {start : Nat}
    (h : quotedHeader? version body = some start) : start ≤ 60 := by
  cases version with
  | v4 =>
      cases body with
      | nil => cases h
      | cons first rest =>
          obtain ⟨_, he⟩ := Option.ite_none_right_eq_some.1 h
          cases he
          omega
  | v6 =>
      cases h
      decide

/-- What an error quotes is seen in the longest IP header and eight bytes more. -/
theorem quotedEcho?_cut (h : 68 ≤ k) (m : Message) (version : Version) :
    (m.cut k).quotedEcho? version = m.quotedEcho? version := by
  rw [quotedEcho?, quotedEcho?, cut, quotedHeader?_take (Nat.lt_of_lt_of_le (by decide) h)]
  cases hq : quotedHeader? version m.body with
  | none => rfl
  | some start =>
      have hs := quotedHeader?_le hq
      simp only [Option.bind_eq_bind, Option.bind_some]
      rw [List.drop_take, ofBytes?_take_eq (by omega)]
      cases ofBytes? (m.body.drop start) <;> rfl

end Message

namespace Matcher

variable {n : Nat}

theorem judge_cut {k : Nat} (h : 68 ≤ k) (m : Matcher) (message : Message) :
    m.judge (message.cut k) = m.judge message := by
  have ht := message.timestamp?_cut (Nat.le_trans (by decide) h)
  have hq := message.quotedEcho?_cut h m.version
  rw [judge, judge, judgeReply, judgeReply, concerns, concerns, ht, hq]
  rfl

theorem classify_take (h : 136 ≤ n) (m : Matcher) (frame : List UInt8) :
    m.classify (frame.take n) = m.classify frame := by
  obtain ⟨k, hk, he⟩ := Message.ofFrame?_take (Nat.le_trans (by decide) h) m.layout frame
  rw [classify, classify, he]
  cases Message.ofFrame? m.layout frame with
  | none => rfl
  | some message => exact m.judge_cut (by omega) message

end Matcher

end Icmp

end HostProbe
