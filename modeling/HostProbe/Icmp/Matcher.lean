import HostProbe.Icmp.Message

namespace HostProbe.Icmp

inductive Verdict where
  | echoReply (sentAt : Binary64)
  | timeExceeded
  | unreachable (code : UInt8)
  | unrelated
deriving DecidableEq, Repr

structure Matcher where
  version : Version
  layout : Layout
  identifier : UInt16
  alternate : Option UInt16
  sequence : UInt16
deriving DecidableEq, Repr

namespace Matcher

def of (version : Version) (layout : Layout) (identifier sequence : UInt16) : Matcher :=
  ⟨version, layout, identifier, none, sequence⟩

/-- Also accepts replies with another identifier, in place of an earlier one. Unprivileged sockets
of Linux put their local port into the identifier field. -/
def alsoAccept (m : Matcher) (identifier : UInt16) : Matcher :=
  if identifier = m.identifier then m else { m with alternate := some identifier }

def isOurs (m : Matcher) (identifier sequence : UInt16) : Bool :=
  sequence == m.sequence && (identifier == m.identifier || some identifier == m.alternate)

def judgeReply (m : Matcher) (message : Message) : Verdict :=
  if m.isOurs message.identifier message.sequence then
    match message.timestamp? with
    | some sentAt => .echoReply sentAt
    | none => .unrelated
  else .unrelated

/-- An error message is ours unless it quotes an echo request that is not. -/
def concerns (m : Matcher) (message : Message) : Bool :=
  match message.quotedEcho? m.version with
  | some (identifier, sequence) => m.isOurs identifier sequence
  | none => true

def judge (m : Matcher) (message : Message) : Verdict :=
  let kind := Kind.of m.version
  if message.kind = kind.echoReply then m.judgeReply message
  else if message.kind = kind.timeExceeded then
    if m.concerns message then .timeExceeded else .unrelated
  else if message.kind = kind.unreachable then
    if m.concerns message then .unreachable message.code else .unrelated
  else .unrelated

def classify (m : Matcher) (frame : List UInt8) : Verdict :=
  match Message.ofFrame? m.layout frame with
  | some message => m.judge message
  | none => .unrelated

end Matcher

end HostProbe.Icmp
