import HostProbe.Proofs.Icmp.Wire

namespace HostProbe.Icmp

namespace Matcher

/-- Of the identifiers that were also to be accepted the last one counts, those that are the
matcher's own left out. -/
theorem foldl_alsoAccept (m : Matcher) (also : List UInt16) : also.foldl alsoAccept m =
    { m with alternate := (also.filter (· ≠ m.identifier)).getLast?.or m.alternate } := by
  induction also generalizing m with
  | nil => rfl
  | cons a also ih =>
      by_cases h : a = m.identifier
      · rw [List.foldl_cons, alsoAccept, if_pos h, ih, List.filter_cons_of_neg (by simpa using h)]
      · rw [List.foldl_cons, alsoAccept, if_neg h, ih, List.filter_cons_of_pos (by simpa using h),
          List.getLast?_cons]
        cases (also.filter (· ≠ m.identifier)).getLast? <;> rfl

theorem isOurs_foldl (version : Version) (layout : Layout) (i s : UInt16) (also : List UInt16)
    (identifier sequence : UInt16) :
    (also.foldl alsoAccept (of version layout i s)).isOurs identifier sequence = true ↔
      sequence = s ∧ (identifier = i ∨ (also.filter (· ≠ i)).getLast? = some identifier) := by
  rw [foldl_alsoAccept]
  simp only [isOurs, of, Option.or_none, Bool.and_eq_true, Bool.or_eq_true, beq_iff_eq,
    eq_comm (a := some identifier)]
  rfl

theorem judge_reply (m : Matcher) (message : Message)
    (h : message.kind = (Kind.of m.version).echoReply) : m.judge message = m.judgeReply message :=
  if_pos h

theorem judge_request (m : Matcher) (message : Message)
    (h : message.kind = (Kind.of m.version).echoRequest) : m.judge message = .unrelated := by
  rw [judge, h]
  cases m.version <;> rfl

theorem classify_frame (m : Matcher) {version : Version} {layout : Layout} (hl : m.layout = layout)
    (c : Carriage version layout) {bytes : List UInt8} {message : Message}
    (h : Message.ofBytes? bytes = some message) (hk : message.kind.toNat / 16 ≠ 4) :
    m.classify (c.frame bytes) = m.judge message := by
  rw [classify, hl, Message.ofFrame?_frame c h hk]

end Matcher

/-- The type of an echo message, at the start of a datagram, never looks like the start of an IPv4
header. -/
theorem Kind.nibble_of_echo {version : Version} {kind : UInt8}
    (h : kind = (Kind.of version).echoReply ∨ kind = (Kind.of version).echoRequest) :
    kind.toNat / 16 ≠ 4 := by
  rcases h with rfl | rfl
  · cases version <;> decide
  · cases version <;> decide

/-- A reply brings the send time of its request back to the matchers that wait for it and says
nothing to all others. The request says nothing to any. -/
theorem classify_there_and_back (r : Request) (layout : Layout) (carriage : Carriage r.version layout)
    (c0 c1 : UInt8) (identifier sequence : UInt16) (also : List UInt16) :
    let m := also.foldl Matcher.alsoAccept (Matcher.of r.version layout identifier sequence)
    m.classify (carriage.frame (r.turned c0 c1)) =
        (if r.sequence = sequence ∧ (r.identifier = identifier ∨
            (also.filter (· ≠ identifier)).getLast? = some r.identifier)
          then .echoReply r.timestamp else .unrelated) ∧
      m.classify (carriage.frame r.packet) = .unrelated := by
  intro m
  have hm : m = { Matcher.of r.version layout identifier sequence with
      alternate := (also.filter (· ≠ identifier)).getLast?.or none } := Matcher.foldl_alsoAccept _ _
  have hv : m.version = r.version := by rw [hm]; rfl
  have hl : m.layout = layout := by rw [hm]; rfl
  constructor
  · rw [m.classify_frame hl carriage (r.ofBytes?_turned c0 c1) (Kind.nibble_of_echo (.inl rfl)),
      m.judge_reply _ (by rw [hv]), Matcher.judgeReply, r.timestamp?_payload _ rfl]
    simp only [m, Matcher.isOurs_foldl]
  · rw [m.classify_frame hl carriage r.ofBytes?_packet (Kind.nibble_of_echo (.inr rfl))]
    exact m.judge_request _ (by rw [hv])

end HostProbe.Icmp
