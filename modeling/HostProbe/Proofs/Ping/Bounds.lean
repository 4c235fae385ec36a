import HostProbe.Proofs.Icmp.Framing
import HostProbe.Proofs.Ping.Quotation

namespace HostProbe

structure Overrun where
  stop : Nat
  length : Nat
deriving DecidableEq, Repr

namespace Bytes

def byteAt (bytes : List UInt8) (i : Nat) : Except Overrun UInt8 :=
  if h : i < bytes.length then .ok bytes[i] else .error ⟨i + 1, bytes.length⟩

def wordAt (bytes : List UInt8) (i : Nat) : Except Overrun UInt16 := do
  let high ← byteAt bytes i
  let low ← byteAt bytes (i + 1)
  return word high low

def suffixAt (bytes : List UInt8) (start : Nat) : Except Overrun (List UInt8) :=
  if start ≤ bytes.length then .ok (bytes.drop start) else .error ⟨start, bytes.length⟩

def window? (bytes : List UInt8) (start count : Nat) : Option (List UInt8) :=
  if start + count ≤ bytes.length then some ((bytes.drop start).take count) else none

theorem byteAt_of_getElem? {bytes : List UInt8} {i : Nat} {b : UInt8} (h : bytes[i]? = some b) :
    byteAt bytes i = .ok b := by
  obtain ⟨hi, rfl⟩ := List.getElem?_eq_some_iff.1 h
  exact dif_pos hi

theorem suffixAt_of_le {bytes : List UInt8} {start : Nat} (h : start ≤ bytes.length) :
    suffixAt bytes start = .ok (bytes.drop start) := if_pos h

theorem wordAt_of_drop {bytes rest : List UInt8} {i : Nat} {x : UInt16}
    (h : bytes.drop i = bigEndian 2 x.toNat ++ rest) : wordAt bytes i = .ok x := by
  have hbyte (j : Nat) : bytes[i + j]? = (bigEndian 2 x.toNat ++ rest)[j]? := by
    rw [← h, List.getElem?_drop]
  have hhigh : byteAt bytes i = .ok _ := byteAt_of_getElem? (hbyte 0)
  have hlow : byteAt bytes (i + 1) = .ok _ := byteAt_of_getElem? (hbyte 1)
  rw [wordAt, hhigh, hlow]
  exact congrArg Except.ok (word_split x)

end Bytes

namespace Icmp

open Bytes

namespace ByPosition

def headerLength (data : List UInt8) : Except Overrun (Option Nat) :=
  if data.length < 20 then return some 0
  else do
    let version ← byteAt data 0
    if version.toNat / 16 = 4 then
      let words ← byteAt data 0
      let length := words.toNat % 16 * 4
      return if length < 20 then none else some length
    else return some 0

def offset (layout : Layout) (data : List UInt8) : Except Overrun (Option Nat) := do
  let start ← match layout with
    | .bare => pure (some 0)
    | .ipv4Header => headerLength data
  return start.bind fun start => if data.length < start + 8 then none else some start

def message (layout : Layout) (frame : List UInt8) : Except Overrun (Option Message) := do
  match ← offset layout frame with
  | none => return none
  | some start =>
    let icmp ← suffixAt frame start
    let kind ← byteAt icmp 0
    let code ← byteAt icmp 1
    let checksum ← wordAt icmp 2
    let identifier ← wordAt icmp 4
    let sequence ← wordAt icmp 6
    let body ← suffixAt icmp 8
    return some ⟨kind, code, checksum, identifier, sequence, body⟩

def timestamp (m : Message) : Option Binary64 :=
  (window? m.body 0 8).map fun bytes => ⟨UInt64.ofNat (number bytes)⟩

def quotedEcho (m : Message) (version : Version) : Except Overrun (Option (UInt16 × UInt16)) :=
  match (Message.quotedHeader? version m.body).bind fun start => window? m.body start 8 with
  | none => return none
  | some quoted => do
    let kind ← byteAt quoted 0
    if kind = (Kind.of version).echoRequest then
      let identifier ← wordAt quoted 4
      let sequence ← wordAt quoted 6
      return some (identifier, sequence)
    else return none

def verdict (m : Matcher) (frame : List UInt8) : Except Overrun Verdict := do
  let kind := Kind.of m.version
  match ← message m.layout frame with
  | none => return .unrelated
  | some message =>
    if message.kind = kind.echoReply then
      if m.isOurs message.identifier message.sequence then
        match timestamp message with
        | some sentAt => return .echoReply sentAt
        | none => return .unrelated
      else return .unrelated
    else if message.kind = kind.timeExceeded ∨ message.kind = kind.unreachable then
      match ← quotedEcho message m.version with
      | some (identifier, sequence) =>
        if m.isOurs identifier sequence then return m.blame message else return .unrelated
      | none => return m.blame message
    else return .unrelated

theorem headerLength_eq (data : List UInt8) :
    headerLength data = .ok (Layout.headerLength? data) := by
  unfold headerLength
  rw [Layout.headerLength?_eq]
  by_cases hshort : data.length < 20
  · rw [if_pos hshort, if_neg fun h => Nat.not_le.2 hshort h.1]
    rfl
  · have hfirst : byteAt data 0 = .ok (data.headD 0) := by
      cases data with
      | nil => exact absurd (Nat.zero_lt_succ 19) hshort
      | cons first rest => rfl
    rw [if_neg hshort, hfirst]
    change (if Layout.nibble data = 4 then
      Except.ok (if Layout.words data * 4 < 20 then none else some (Layout.words data * 4))
      else Except.ok (some 0)) = _
    by_cases hn : Layout.nibble data = 4
    · have hheader : 20 ≤ data.length ∧ Layout.nibble data = 4 := ⟨Nat.not_lt.1 hshort, hn⟩
      rw [if_pos hn, if_pos hheader, Nat.mul_comm]
      by_cases hw : Layout.words data < 5
      · rw [if_pos hw, if_pos (by omega)]
      · rw [if_neg hw, if_neg (by omega)]
    · rw [if_neg hn, if_neg fun h => hn h.2]

theorem offset_eq (layout : Layout) (data : List UInt8) :
    offset layout data = .ok (layout.offset? data) := by
  have hfits (start : Nat) : (if data.length < start + 8 then none else some start) =
      if start + 8 ≤ data.length then some start else none := by
    split
    · next h => rw [if_neg (Nat.not_le.2 h)]
    · next h => rw [if_pos (Nat.not_lt.1 h)]
  cases layout with
  | bare => exact congrArg Except.ok (hfits 0)
  | ipv4Header =>
      simp only [offset, headerLength_eq, hfits]
      rfl

theorem message_eq (layout : Layout) (frame : List UInt8) :
    message layout frame = .ok (Message.ofFrame? layout frame) := by
  rw [message, offset_eq]
  cases ho : layout.offset? frame with
  | none =>
      rw [Message.ofFrame?, ho]
      rfl
  | some start =>
      have hs := Layout.starts_of_offset? ho
      obtain ⟨m, hm⟩ := Option.isSome_iff_exists.1 (Message.isSome_ofFrame?_iff.2 ⟨start, hs⟩)
      have hicmp : suffixAt frame start = .ok m.bytes := by
        rw [suffixAt_of_le (Nat.le_of_add_right_le hs.add_le)]
        rw [Message.ofFrame?, ho] at hm
        exact congrArg Except.ok (Message.ofBytes?_eq_some_iff.1 hm)
      have hkind : byteAt m.bytes 0 = .ok m.kind := byteAt_of_getElem? rfl
      have hcode : byteAt m.bytes 1 = .ok m.code := byteAt_of_getElem? rfl
      have hchecksum : wordAt m.bytes 2 = .ok m.checksum := wordAt_of_drop rfl
      have hidentifier : wordAt m.bytes 4 = .ok m.identifier := wordAt_of_drop rfl
      have hsequence : wordAt m.bytes 6 = .ok m.sequence := wordAt_of_drop rfl
      have hbody : suffixAt m.bytes 8 = .ok m.body :=
        suffixAt_of_le (m.length_bytes ▸ Nat.le_add_left 8 _)
      rw [hm]
      change (suffixAt frame start >>= fun icmp => _) = _
      rw [hicmp]
      change (byteAt m.bytes 0 >>= fun kind => _) = _
      rw [hkind, hcode, hchecksum, hidentifier, hsequence, hbody]
      rfl

theorem quotedEcho_eq (m : Message) (version : Version) :
    quotedEcho m version = .ok (m.quotedEcho? version) := by
  rw [quotedEcho, Message.quotedEcho?]
  cases Message.quotedHeader? version m.body with
  | none => rfl
  | some start =>
      simp only [Option.bind_eq_bind, Option.bind_some, window?]
      by_cases hfull : start + 8 ≤ m.body.length
      · have hlong : 8 ≤ (m.body.drop start).length := by
          rw [List.length_drop]
          omega
        obtain ⟨p, hp⟩ := Message.exists_bytes hlong
        have hkind : byteAt (p.bytes.take 8) 0 = .ok p.kind := byteAt_of_getElem? rfl
        have hidentifier : wordAt (p.bytes.take 8) 4 = .ok p.identifier := wordAt_of_drop rfl
        have hsequence : wordAt (p.bytes.take 8) 6 = .ok p.sequence := wordAt_of_drop rfl
        rw [if_pos hfull, hp, p.ofBytes?_bytes]
        simp only [hkind, hidentifier, hsequence, Option.bind_some]
        change (if p.kind = (Kind.of version).echoRequest then
          Except.ok (some (p.identifier, p.sequence)) else Except.ok none) = _
        split <;> rfl
      · have hcut : (m.body.drop start).length < 8 := by
          rw [List.length_drop]
          omega
        rw [if_neg hfull, Message.ofBytes?_eq_none hcut]
        rfl

theorem timestamp_eq (m : Message) : timestamp m = m.timestamp? := by
  rw [timestamp, Message.timestamp?, window?, Nat.zero_add, List.drop_zero]
  split <;> rfl

theorem verdict_eq (m : Matcher) (frame : List UInt8) :
    verdict m frame = .ok (m.classify frame) := by
  rw [verdict, message_eq]
  cases hm : Message.ofFrame? m.layout frame with
  | none =>
      rw [Matcher.classify, hm]
      rfl
  | some message =>
      change (if message.kind = (Kind.of m.version).echoReply then _ else _) = _
      by_cases hr : message.kind = (Kind.of m.version).echoReply
      · rw [if_pos hr, Matcher.classify, hm]
        dsimp only
        rw [Matcher.judge, if_pos hr, Matcher.judgeReply, timestamp_eq]
        split
        · cases message.timestamp? <;> rfl
        · rfl
      rw [if_neg hr]
      by_cases he : message.kind = (Kind.of m.version).timeExceeded ∨
          message.kind = (Kind.of m.version).unreachable
      · rw [if_pos he, quotedEcho_eq, Matcher.classify_error hm he, Matcher.concerns]
        cases message.quotedEcho? m.version with
        | none => rfl
        | some subject => exact (apply_ite Except.ok _ _ _).symm
      · obtain ⟨ht, hu⟩ := not_or.1 he
        rw [if_neg he, Matcher.classify, hm]
        simp only [Matcher.judge, if_neg hr, if_neg ht, if_neg hu]
        rfl

end ByPosition

/-- A message is read from a datagram exactly when it starts at once or behind an IPv4 header and
the datagram holds its header; its fields are the bytes from there on and its body all the rest.
Reading by position, with a fault for every request beyond the end, gives the same offset, message,
send time, quotation and verdict for every datagram, and never the fault. -/
theorem frames_read_exactly :
    (∀ (layout : Layout) (frame : List UInt8),
      ((Message.ofFrame? layout frame).isSome ↔ ∃ start, layout.Starts frame start) ∧
      (∀ message, Message.ofFrame? layout frame = some message ↔
        ∃ start, layout.Starts frame start ∧ message.LiesAt frame start) ∧
      ByPosition.offset layout frame = .ok (layout.offset? frame) ∧
      ByPosition.message layout frame = .ok (Message.ofFrame? layout frame)) ∧
    (∀ message : Message, ByPosition.timestamp message = message.timestamp? ∧
      ∀ version, ByPosition.quotedEcho message version = .ok (message.quotedEcho? version)) ∧
    ∀ (m : Matcher) (frame : List UInt8), ByPosition.verdict m frame = .ok (m.classify frame) := by
  refine ⟨fun layout frame => ?_, fun message => ?_, ByPosition.verdict_eq⟩
  · exact ⟨Message.isSome_ofFrame?_iff, fun _ => Message.ofFrame?_eq_some_iff,
      ByPosition.offset_eq layout frame, ByPosition.message_eq layout frame⟩
  · exact ⟨ByPosition.timestamp_eq message, ByPosition.quotedEcho_eq message⟩

end Icmp

end HostProbe
