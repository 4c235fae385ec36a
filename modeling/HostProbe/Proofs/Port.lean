import HostProbe.Port.Range
import HostProbe.Proofs.Datum.Encoding

namespace HostProbe

open Datum

namespace Port

theorem number_injective : Function.Injective number := by
  rintro ⟨n, _, _⟩ ⟨_, _, _⟩ rfl
  rfl

theorem toNat_word (p : Port) : p.word.toNat = p.number :=
  UInt16.toNat_ofNat_of_lt' (Nat.lt_succ_of_le p.bounded)

theorem of_eq_ok_iff {n : Nat} {p : Port} : of n = .ok p ↔ 1 ≤ n ∧ n ≤ 65535 ∧ p.number = n := by
  rw [of, dite_eq_ok_iff]
  constructor
  · rintro ⟨h, rfl⟩
    exact ⟨h.1, h.2, rfl⟩
  · rintro ⟨hl, hm, rfl⟩
    exact ⟨⟨hl, hm⟩, rfl⟩

theorem decodes : Decodes read (Whole 32) of fun n p => 1 ≤ n ∧ n ≤ 65535 ∧ p.number = n :=
  .of_nat (fun _ => rfl) fun _ _ => of_eq_ok_iff

def Encodes (d : Datum) (p : Port) : Prop := ∃ n, d.Whole 32 n ∧ of n = .ok p

theorem read_eq_ok_iff {d : Datum} {p : Port} : read d = .ok p ↔ Encodes d p := by
  rw [read, Reading.bind_eq_ok_iff]
  simp only [readNat_eq_ok_iff, Reading.ofRefusal_eq_ok_iff, Encodes]

theorem read_datum (p : Port) : read p.datum = .ok p :=
  read_natCast (fun _ => rfl) (Nat.lt_succ_of_le p.bounded) (of_eq_ok_iff.2 ⟨p.positive, p.bounded, rfl⟩)

theorem plain_datum (p : Port) : p.datum.plain = true := plain_natCast (Nat.lt_succ_of_le p.bounded)

theorem readJson_datum (p : Port) : readJson read p.datum.json = .ok p :=
  readJson_json p.plain_datum p.read_datum

end Port

namespace PortRange

theorem length_ports (r : PortRange) : r.ports.length = r.count := List.length_ofFn

/-- The ports of a range are its numbers in increasing order, both ends included. -/
theorem map_number_ports (r : PortRange) :
    r.ports.map Port.number = List.range' r.first.number r.count := by
  apply List.ext_getElem
  · rw [List.length_map, length_ports, List.length_range']
  · intro i hi hi'
    rw [List.getElem_map, List.getElem_range', Nat.one_mul]
    exact congrArg Port.number (List.getElem_ofFn _)

def Encodes (d : Datum) (ends : Port × Port) : Prop := ∃ ms, RecordOf ["start", "end"] d ms ∧
  Member ms "start" Port.Encodes ends.1 ∧ Member ms "end" Port.Encodes ends.2

theorem names_shape : shape.names = ["start", "end"] := rfl

theorem plain_shape : shape.Plain := ⟨by decide, rfl, rfl, rfl⟩

theorem slot_first : Slot shape "start" (Given Port.Encodes) Prod.fst :=
  .of_field rfl (fun _ _ => rfl) (given_iff fun _ _ => Port.read_eq_ok_iff) rfl (by simp [shape])

theorem slot_last : Slot shape "end" (Given Port.Encodes) Prod.snd :=
  .of_field rfl (fun _ _ => rfl) (given_iff fun _ _ => Port.read_eq_ok_iff) rfl (by simp [shape])

structure Says (ms : List (Datum × Datum)) (ends : Option Port × Option Port) : Prop where
  first : Tells ms "start" (Given Port.Encodes) ends.1
  last : Tells ms "end" (Given Port.Encodes) ends.2

theorem shape_read_eq_ok_iff {d : Datum} {t : Option Port × Option Port} :
    shape.read d = .ok t ↔ ∃ ms, RecordOf ["start", "end"] d ms ∧ Says ms t := by
  refine plain_shape.read_eq_ok_iff names_shape ?_ ?_ ?_
  · intro ms t h
    exact ⟨slot_first.told h, slot_last.told h⟩
  · intro ms t ht hs
    exact List.forall_mem_cons.2 ⟨slot_first.readable ht hs.first,
      List.forall_mem_singleton.2 (slot_last.readable ht hs.last)⟩
  · intro ms t t' ht hs hs'
    exact Prod.ext (slot_first.unique ht hs.first hs'.first) (slot_last.unique ht hs.last hs'.last)

def readEnds (d : Datum) : Reading (Port × Port) := do
  let (first, last) ← shape.read d
  return (← Datum.required first, ← Datum.required last)

theorem read_eq (d : Datum) :
    read d = readEnds d >>= fun ends => Reading.ofRefusal (of ends.1 ends.2) := by
  rw [read, readEnds]
  cases shape.read d with
  | error e => rfl
  | ok t =>
      obtain ⟨first, last⟩ := t
      cases first with
      | none => rfl
      | some p => cases last <;> rfl

theorem readEnds_eq_ok_iff {d : Datum} {ends : Port × Port} :
    readEnds d = .ok ends ↔ Encodes d ends := by
  have hends : readEnds d = .ok ends ↔ shape.read d = .ok (some ends.1, some ends.2) := by
    rw [readEnds, Reading.bind_eq_ok_iff]
    constructor
    · rintro ⟨⟨first, last⟩, hr, h⟩
      obtain ⟨p, hp, h⟩ := Reading.bind_eq_ok_iff.1 h
      obtain ⟨q, hq, h⟩ := Reading.bind_eq_ok_iff.1 h
      cases h
      rw [hr, required_eq_ok_iff.1 hp, required_eq_ok_iff.1 hq]
    · intro h
      exact ⟨_, h, rfl⟩
  rw [hends, shape_read_eq_ok_iff]
  refine exists_congr fun ms => and_congr_right fun _ => ?_
  rw [← tells_given_iff, ← tells_given_iff]
  exact ⟨fun h => ⟨h.first, h.last⟩, fun h => ⟨h.1, h.2⟩⟩

theorem sound_of_encodes {d : Datum} {ends : Port × Port} (h : Encodes d ends) : d.sound = true := by
  obtain ⟨ms, hr, hfirst, hlast⟩ := h
  have hport : ∀ d o, Given Port.Encodes d o → d.sound = true :=
    fun _ _ => Given.sound fun _ _ ⟨_, hw, _⟩ => hw.sound
  refine hr.sound (List.forall_mem_cons.2 ⟨?_, List.forall_mem_singleton.2 ?_⟩)
  · exact (tells_given_iff.2 hfirst).soundAt (by decide) hr.once hport
  · exact (tells_given_iff.2 hlast).soundAt (by decide) hr.once hport

theorem of_eq_ok_iff {ends : Port × Port} {r : PortRange} : of ends.1 ends.2 = .ok r ↔
    ends.1.number ≤ ends.2.number ∧ r.first = ends.1 ∧ r.last = ends.2 := by
  rw [of, dite_eq_ok_iff]
  constructor
  · rintro ⟨h, rfl⟩
    exact ⟨h, rfl, rfl⟩
  · obtain ⟨first, last⟩ := ends
    rintro ⟨h, rfl, rfl⟩
    exact ⟨h, rfl⟩

theorem decodes : Decodes read Encodes (fun ends => of ends.1 ends.2) fun ends r =>
    ends.1.number ≤ ends.2.number ∧ r.first = ends.1 ∧ r.last = ends.2 :=
  .of_parts read_eq (fun _ _ => readEnds_eq_ok_iff) (fun _ _ => sound_of_encodes)
    fun _ _ => of_eq_ok_iff

theorem shape_read_datum (r : PortRange) : shape.read r.datum = .ok (some r.first, some r.last) := by
  refine (Shape.read_ofFields_iff plain_shape.distinct rfl).2 ?_
  exact (Shape.readFields_cons r.first.read_datum).trans (Shape.readFields_cons r.last.read_datum)

theorem read_datum (r : PortRange) : read r.datum = .ok r := by
  have hof : of r.first r.last = .ok r := dif_pos r.ordered
  rw [read, r.shape_read_datum]
  exact Reading.ofRefusal_eq_ok_iff.2 hof

theorem plain_datum (r : PortRange) : r.datum.plain = true :=
  plain_ofFields.2 (List.forall_mem_cons.2 ⟨r.first.plain_datum,
    List.forall_mem_singleton.2 r.last.plain_datum⟩)

theorem readJson_datum (r : PortRange) : readJson read r.datum.json = .ok r :=
  readJson_json r.plain_datum r.read_datum

end PortRange

end HostProbe
