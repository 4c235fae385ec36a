import HostProbe.Proofs.Datum.Decoding
import HostProbe.Proofs.Ping.Result

namespace HostProbe.Ping.Result

open Datum

structure Raw where
  success : Bool
  time : Option Binary64
  message : Option String
  hopLimit : Option UInt8
  packetSize : Option UInt16

def Raw.result (raw : Raw) : Except Refusal Result :=
  of raw.success raw.time raw.message raw.hopLimit raw.packetSize

def fieldNames : List String :=
  ["success", "response_time_ms", "error_message", "ttl", "packet_size"]

def Octet (d : Datum) (n : UInt8) : Prop := d.Whole 8 n.toNat

def Word (d : Datum) (n : UInt16) : Prop := d.Whole 16 n.toNat

def Encodes (d : Datum) (raw : Raw) : Prop := ∃ ms, RecordOf fieldNames d ms ∧
  Member ms "success" (fun d b => d = .bool b) raw.success ∧
  Tells ms "response_time_ms" (Optional Number) raw.time ∧
  Tells ms "error_message" (Optional fun d s => d = .text s) raw.message ∧
  Tells ms "ttl" (Optional Octet) raw.hopLimit ∧
  Tells ms "packet_size" (Optional Word) raw.packetSize

theorem names_shape : shape.names = fieldNames := rfl

theorem plain_shape : shape.Plain := ⟨by decide, rfl, rfl, rfl⟩

theorem slot_success : Slot shape "success" (Given fun d b => d = .bool b) Parts.success :=
  .of_field rfl (fun _ _ => rfl) (given_iff fun _ _ => readBool_eq_ok_iff) rfl (by simp [shape])

theorem slot_time : Slot shape "response_time_ms" (Optional Number) Parts.time :=
  .of_field rfl (fun _ _ => rfl) (optional_iff (fun _ _ => readReal_eq_ok_iff) nofun) rfl
    (by simp [shape])

theorem slot_message :
    Slot shape "error_message" (Optional fun d s => d = .text s) Parts.message :=
  .of_field rfl (fun _ _ => rfl) (optional_iff (fun _ _ => readText_eq_ok_iff) nofun) rfl
    (by simp [shape])

theorem octet_iff (d : Datum) (n : UInt8) :
    Octet d n ↔ ∃ m, readNat 8 d = .ok m ∧ UInt8.ofNat m = n :=
  whole_iff (fun _ => UInt8.ofNat_toNat) fun _ h => UInt8.toNat_ofNat_of_lt' h

theorem word_iff (d : Datum) (n : UInt16) :
    Word d n ↔ ∃ m, readNat 16 d = .ok m ∧ UInt16.ofNat m = n :=
  whole_iff (fun _ => UInt16.ofNat_toNat) fun _ h => UInt16.toNat_ofNat_of_lt' h

theorem slot_hopLimit : Slot shape "ttl" (Optional Octet) Parts.hopLimit :=
  .of_field rfl (fun _ _ => rfl) (optional_map_iff octet_iff fun _ h => nomatch h.1) rfl
    (by simp [shape])

theorem slot_packetSize : Slot shape "packet_size" (Optional Word) Parts.packetSize :=
  .of_field rfl (fun _ _ => rfl) (optional_map_iff word_iff fun _ h => nomatch h.1) rfl
    (by simp [shape])

structure Says (ms : List (Datum × Datum)) (p : Parts) : Prop where
  success : Tells ms "success" (Given fun d b => d = .bool b) p.success
  time : Tells ms "response_time_ms" (Optional Number) p.time
  message : Tells ms "error_message" (Optional fun d s => d = .text s) p.message
  hopLimit : Tells ms "ttl" (Optional Octet) p.hopLimit
  packetSize : Tells ms "packet_size" (Optional Word) p.packetSize

theorem shape_read_eq_ok_iff {d : Datum} {p : Parts} :
    shape.read d = .ok p ↔ ∃ ms, RecordOf fieldNames d ms ∧ Says ms p := by
  refine plain_shape.read_eq_ok_iff names_shape ?_ ?_ ?_
  · intro ms p h
    exact ⟨slot_success.told h, slot_time.told h, slot_message.told h, slot_hopLimit.told h,
      slot_packetSize.told h⟩
  · intro ms p ht hs
    exact List.forall_mem_cons.2 ⟨slot_success.readable ht hs.success,
      List.forall_mem_cons.2 ⟨slot_time.readable ht hs.time,
      List.forall_mem_cons.2 ⟨slot_message.readable ht hs.message,
      List.forall_mem_cons.2 ⟨slot_hopLimit.readable ht hs.hopLimit,
      List.forall_mem_singleton.2 (slot_packetSize.readable ht hs.packetSize)⟩⟩⟩⟩
  · intro ms p p' ht hs hs'
    obtain ⟨success, time, message, hopLimit, packetSize⟩ := p
    obtain ⟨success', time', message', hopLimit', packetSize'⟩ := p'
    cases slot_success.unique ht hs.success hs'.success
    cases slot_time.unique ht hs.time hs'.time
    cases slot_message.unique ht hs.message hs'.message
    cases slot_hopLimit.unique ht hs.hopLimit hs'.hopLimit
    cases slot_packetSize.unique ht hs.packetSize hs'.packetSize
    rfl

def readRaw (d : Datum) : Reading Raw := do
  let p ← shape.read d
  return ⟨← Datum.required p.success, p.time, p.message, p.hopLimit, p.packetSize⟩

theorem read_eq (d : Datum) : read d = readRaw d >>= fun raw => Reading.ofRefusal raw.result := by
  rw [read, readRaw]
  cases shape.read d with
  | error e => rfl
  | ok p =>
      obtain ⟨success, time, message, hopLimit, packetSize⟩ := p
      cases success <;> rfl

theorem readRaw_eq_ok_iff {d : Datum} {raw : Raw} : readRaw d = .ok raw ↔ Encodes d raw := by
  have hraw : readRaw d = .ok raw ↔ shape.read d =
      .ok ⟨some raw.success, raw.time, raw.message, raw.hopLimit, raw.packetSize⟩ := by
    rw [readRaw, Reading.bind_eq_ok_iff]
    constructor
    · rintro ⟨⟨success, time, message, hopLimit, packetSize⟩, hr, h⟩
      obtain ⟨b, hb, h⟩ := Reading.bind_eq_ok_iff.1 h
      cases h
      obtain rfl : success = some b := required_eq_ok_iff.1 hb
      exact hr
    · intro h
      exact ⟨_, h, rfl⟩
  rw [hraw, shape_read_eq_ok_iff]
  refine exists_congr fun ms => and_congr_right fun _ => ?_
  rw [← tells_given_iff]
  exact ⟨fun h => ⟨h.success, h.time, h.message, h.hopLimit, h.packetSize⟩,
    fun ⟨hs, ht, hm, hh, hp⟩ => ⟨hs, ht, hm, hh, hp⟩⟩

theorem sound_of_encodes {d : Datum} {raw : Raw} (h : Encodes d raw) : d.sound = true := by
  obtain ⟨ms, hr, hs, ht, hm, hh, hp⟩ := h
  refine hr.sound (List.forall_mem_cons.2 ⟨?_, List.forall_mem_cons.2 ⟨?_, List.forall_mem_cons.2 ⟨?_,
    List.forall_mem_cons.2 ⟨?_, List.forall_mem_singleton.2 ?_⟩⟩⟩⟩)
  · exact (tells_given_iff.2 hs).soundAt (by decide) hr.once fun _ _ =>
      Given.sound fun _ _ he => by rw [he]; rfl
  · exact ht.soundAt (by decide) hr.once fun _ _ => Optional.sound fun _ _ => Number.sound
  · exact hm.soundAt (by decide) hr.once fun _ _ => Optional.sound fun _ _ he => by rw [he]; rfl
  · exact hh.soundAt (by decide) hr.once fun _ _ => Optional.sound fun _ _ => Whole.sound
  · exact hp.soundAt (by decide) hr.once fun _ _ => Optional.sound fun _ _ => Whole.sound

theorem decodes : Decodes read Encodes Raw.result fun raw r =>
    Lawful raw.success raw.time raw.message ∧
    r.Has raw.success raw.time raw.message raw.hopLimit raw.packetSize :=
  .of_parts read_eq (fun _ _ => readRaw_eq_ok_iff) (fun _ _ => sound_of_encodes)
    fun _ _ => of_eq_ok_iff

end HostProbe.Ping.Result
