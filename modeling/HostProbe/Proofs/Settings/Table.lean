import HostProbe.Proofs.Datum.Table
import HostProbe.Settings

namespace HostProbe

open Datum

variable {d : Datum} {ms : List (Datum × Datum)}

namespace PingDefaults

variable {p : PingDefaults}

def fieldNames : List String := ["timeout", "packet_size", "ttl"]

structure Told (ms : List (Datum × Datum)) (p : PingDefaults) : Prop where
  timeout : Settled ms "timeout" Number builtin.timeout p.timeout
  packetSize : Settled ms "packet_size" (Whole 32) builtin.packetSize p.packetSize
  hopLimit : Settled ms "ttl" (Optional (Whole 32)) builtin.hopLimit p.hopLimit

def Says (d : Datum) (p : PingDefaults) : Prop := ∃ ms, TableOf fieldNames d ms ∧ Told ms p

theorem loose_shape : (shape true).Loose := ⟨by decide, rfl, rfl, rfl⟩

theorem fills_timeout : Fills (shape true) "timeout" Number timeout :=
  .of_field rfl (fun _ _ => rfl) (said_iff fun _ _ => readReal_eq_ok_iff) (by simp [shape])

theorem fills_packetSize : Fills (shape true) "packet_size" (Whole 32) packetSize :=
  .of_field rfl (fun _ _ => rfl) (said_iff fun _ _ => readNat_eq_ok_iff) (by simp [shape])

theorem fills_hopLimit : Fills (shape true) "ttl" (Optional (Whole 32)) hopLimit :=
  .of_field rfl (fun _ _ => rfl) (optional_iff (fun _ _ => readNat_eq_ok_iff) nofun)
    (by simp [shape])

theorem read_eq_ok_iff (hd : d.Regular) : read true d = .ok p ↔ Says d p := by
  refine loose_shape.read_eq_ok_iff hd rfl ?_ ?_ ?_
  · intro ms p h
    exact ⟨fills_timeout.settled h, fills_packetSize.settled h, fills_hopLimit.settled h⟩
  · intro ms p ht hs
    exact List.forall_mem_cons.2 ⟨fills_timeout.readable_of_settled ht hs.timeout,
      List.forall_mem_cons.2 ⟨fills_packetSize.readable_of_settled ht hs.packetSize,
      List.forall_mem_singleton.2 (fills_hopLimit.readable_of_settled ht hs.hopLimit)⟩⟩
  · intro ms p p' ht hs hs'
    obtain ⟨timeout, packetSize, hopLimit⟩ := p
    cases fills_timeout.settled_unique ht hs.timeout hs'.timeout
    cases fills_packetSize.settled_unique ht hs.packetSize hs'.packetSize
    cases fills_hopLimit.settled_unique ht hs.hopLimit hs'.hopLimit
    rfl

end PingDefaults

namespace ScanDefaults

variable {p : ScanDefaults}

def fieldNames : List String := ["timeout", "max_concurrent"]

structure Told (ms : List (Datum × Datum)) (p : ScanDefaults) : Prop where
  timeout : Settled ms "timeout" Number builtin.timeout p.timeout
  maxConcurrent : Settled ms "max_concurrent" (Whole 64) builtin.maxConcurrent p.maxConcurrent

def Says (d : Datum) (p : ScanDefaults) : Prop := ∃ ms, TableOf fieldNames d ms ∧ Told ms p

theorem loose_shape : (shape true).Loose := ⟨by decide, rfl, rfl, rfl⟩

theorem fills_timeout : Fills (shape true) "timeout" Number timeout :=
  .of_field rfl (fun _ _ => rfl) (said_iff fun _ _ => readReal_eq_ok_iff) (by simp [shape])

theorem fills_maxConcurrent : Fills (shape true) "max_concurrent" (Whole 64) maxConcurrent :=
  .of_field rfl (fun _ _ => rfl) (said_iff fun _ _ => readNat_eq_ok_iff) (by simp [shape])

theorem read_eq_ok_iff (hd : d.Regular) : read true d = .ok p ↔ Says d p := by
  refine loose_shape.read_eq_ok_iff hd rfl ?_ ?_ ?_
  · intro ms p h
    exact ⟨fills_timeout.settled h, fills_maxConcurrent.settled h⟩
  · intro ms p ht hs
    exact List.forall_mem_cons.2 ⟨fills_timeout.readable_of_settled ht hs.timeout,
      List.forall_mem_singleton.2 (fills_maxConcurrent.readable_of_settled ht hs.maxConcurrent)⟩
  · intro ms p p' ht hs hs'
    obtain ⟨timeout, maxConcurrent⟩ := p
    cases fills_timeout.settled_unique ht hs.timeout hs'.timeout
    cases fills_maxConcurrent.settled_unique ht hs.maxConcurrent hs'.maxConcurrent
    rfl

end ScanDefaults

namespace Settings

variable {s : Settings}

def fieldNames : List String := ["ping", "scan"]

structure Told (ms : List (Datum × Datum)) (s : Settings) : Prop where
  ping : Settled ms "ping" PingDefaults.Says builtin.ping s.ping
  scan : Settled ms "scan" ScanDefaults.Says builtin.scan s.scan

def Says (d : Datum) (s : Settings) : Prop := ∃ ms, TableOf fieldNames d ms ∧ Told ms s

theorem loose_shape : (shape true).Loose := ⟨by decide, rfl, rfl, rfl⟩

structure Parts (ms : List (Datum × Datum)) (s : Settings) : Prop where
  ping : Settled ms "ping" (fun d p => PingDefaults.read true d = .ok p) builtin.ping s.ping
  scan : Settled ms "scan" (fun d p => ScanDefaults.read true d = .ok p) builtin.scan s.scan

theorem fills_ping :
    Fills (shape true) "ping" (fun d p => PingDefaults.read true d = .ok p) ping :=
  .of_field rfl (fun _ _ => rfl) (said_iff fun _ _ => Iff.rfl) (by simp [shape])

theorem fills_scan :
    Fills (shape true) "scan" (fun d p => ScanDefaults.read true d = .ok p) scan :=
  .of_field rfl (fun _ _ => rfl) (said_iff fun _ _ => Iff.rfl) (by simp [shape])

theorem read_eq_ok_iff_parts (hd : d.Regular) :
    read true d = .ok s ↔ ∃ ms, TableOf fieldNames d ms ∧ Parts ms s := by
  refine loose_shape.read_eq_ok_iff hd rfl ?_ ?_ ?_
  · intro ms s h
    exact ⟨fills_ping.settled h, fills_scan.settled h⟩
  · intro ms s ht hs
    exact List.forall_mem_cons.2 ⟨fills_ping.readable_of_settled ht hs.ping,
      List.forall_mem_singleton.2 (fills_scan.readable_of_settled ht hs.scan)⟩
  · intro ms s s' ht hs hs'
    obtain ⟨ping, scan⟩ := s
    cases fills_ping.settled_unique ht hs.ping hs'.ping
    cases fills_scan.settled_unique ht hs.scan hs'.scan
    rfl

theorem parts_iff_told (h : ∀ m ∈ ms, m.2.Regular) : Parts ms s ↔ Told ms s := by
  have hping : Settled ms "ping" (fun d p => PingDefaults.read true d = .ok p) builtin.ping s.ping ↔
      Settled ms "ping" PingDefaults.Says builtin.ping s.ping :=
    Settled.congr fun _ _ hm => PingDefaults.read_eq_ok_iff (h _ hm)
  have hscan : Settled ms "scan" (fun d p => ScanDefaults.read true d = .ok p) builtin.scan s.scan ↔
      Settled ms "scan" ScanDefaults.Says builtin.scan s.scan :=
    Settled.congr fun _ _ hm => ScanDefaults.read_eq_ok_iff (h _ hm)
  constructor
  · exact fun hs => ⟨hping.1 hs.ping, hscan.1 hs.scan⟩
  · exact fun hs => ⟨hping.2 hs.ping, hscan.2 hs.scan⟩

theorem read_eq_ok_iff (hd : d.Regular) : read true d = .ok s ↔ Says d s := by
  rw [read_eq_ok_iff_parts hd]
  exact exists_congr fun ms => and_congr_right fun ht => parts_iff_told (ht.regular hd)

end Settings

end HostProbe
