import HostProbe.Binary64.Arithmetic
import HostProbe.Datum.Record
import HostProbe.Ping.Failure

namespace HostProbe.Ping

inductive Outcome where
  | answered (millis : Binary64)
  | failed (message : Option String)
deriving DecidableEq, Repr

structure Result where
  outcome : Outcome
  hopLimit : Option UInt8
  packetSize : Option UInt16
deriving DecidableEq, Repr

namespace Result

def success (r : Result) : Bool :=
  match r.outcome with
  | .answered _ => true
  | .failed _ => false

def responseTime (r : Result) : Option Binary64 :=
  match r.outcome with
  | .answered x => some x
  | .failed _ => none

def errorMessage (r : Result) : Option String :=
  match r.outcome with
  | .answered _ => none
  | .failed m => m

def isTime (x : Binary64) : Bool := x.isFinite && !Binary64.lt x Binary64.zero

/-- The outcome that loose parts describe. Whether the time fits the success is looked at first,
then the time itself, then the message. -/
def outcomeOf (success : Bool) (time : Option Binary64) (message : Option String) :
    Except Refusal Outcome :=
  match success, time with
  | true, none => .error (.pingResult "successful ping must have response time")
  | false, some _ => .error (.pingResult "cannot have response time for failed ping")
  | false, none => .ok (.failed message)
  | true, some x =>
    if isTime x then
      if message.isSome then .error (.pingResult "successful ping cannot carry an error message")
      else .ok (.answered x)
    else .error (.pingResult
      ("response time must be a non-negative number, got " ++ Decimal.message x))

def of (success : Bool) (time : Option Binary64) (message : Option String)
    (hopLimit : Option UInt8) (packetSize : Option UInt16) : Except Refusal Result :=
  (outcomeOf success time message).map (⟨·, hopLimit, packetSize⟩)

def answered (time : Binary64) (hopLimit : Option UInt8) (packetSize : Option UInt16) :
    Except Refusal Result :=
  of true (some time) none hopLimit packetSize

def failed (message : String) (hopLimit : Option UInt8) (packetSize : Option UInt16) : Result :=
  ⟨.failed (some message), hopLimit, packetSize⟩

def ofFailure (f : Failure) (hopLimit : Option UInt8) (packetSize : Option UInt16) : Result :=
  failed f.message hopLimit packetSize

def text (r : Result) : String :=
  match r.outcome with
  | .answered x => "Ping successful: " ++ Decimal.fixed 2 x ++ "ms"
  | .failed m => "Ping failed: " ++ m.getD "Unknown error"

def datum (r : Result) : Datum :=
  .ofFields
    [("success", .bool r.success), ("response_time_ms", .option .real r.responseTime),
     ("error_message", .option .text r.errorMessage),
     ("ttl", .option (fun n => .int n.toNat) r.hopLimit),
     ("packet_size", .option (fun n => .int n.toNat) r.packetSize)]

structure Parts where
  success : Option Bool := none
  time : Option Binary64 := none
  message : Option String := none
  hopLimit : Option UInt8 := none
  packetSize : Option UInt16 := none

open Datum in
def shape : Shape Parts where
  fields :=
    [field "success" readBool fun b p => { p with success := some b },
     field "response_time_ms" (readOption readReal) fun x p => { p with time := x },
     field "error_message" (readOption readText) fun m p => { p with message := m },
     field "ttl" (readOption (readNat 8)) fun n p => { p with hopLimit := n.map UInt8.ofNat },
     field "packet_size" (readOption (readNat 16)) fun n p =>
       { p with packetSize := n.map UInt16.ofNat }]
  start := {}
  strict := false
  partialList := false
  surplusList := false

def read (d : Datum) : Reading Result := do
  let p ← shape.read d
  Reading.ofRefusal (of (← Datum.required p.success) p.time p.message p.hopLimit p.packetSize)

end Result

end HostProbe.Ping
