import HostProbe.Proofs.Address
import HostProbe.Proofs.Limit
import HostProbe.Proofs.Ping.Encoding
import HostProbe.Proofs.Port

namespace HostProbe

open Datum

namespace Address

theorem read_eq_ok_iff {d : Datum} {x : Address} :
    read d = .ok x ↔ ∃ s, d = .text s ∧ parse s = .ok x := by
  rw [read, Reading.bind_eq_ok_iff]
  simp only [readText_eq_ok_iff, Reading.ofRefusal_eq_ok_iff]

/-- An address is the trimmed text and what that names. -/
theorem parse_eq_ok_iff {s : String} {x : Address} : parse s = .ok x ↔
    x.text = String.ofList (Text.trim s.toList) ∧ parse x.text = .ok x := by
  constructor
  · exact fun h => ⟨(parse_eq_ok_iff_ofText?.1 h).1, parse_text h⟩
  · rintro ⟨ht, h⟩
    have hn := (parse_eq_ok_iff_ofText?.1 h).2
    rw [ht, String.toList_ofList, Text.trim_trim] at hn
    simp only [parse, hn, ← ht]

theorem decodes : Decodes read (fun d s => d = .text s) parse fun s x =>
    x.text = String.ofList (Text.trim s.toList) ∧ parse x.text = .ok x :=
  .of_parts (fun _ => rfl) (fun _ _ => readText_eq_ok_iff) (fun _ _ h => by rw [h]; rfl)
    fun _ _ => parse_eq_ok_iff

/-- The ways to an address: parsed, parsed as of one version, made of its number, or decoded. -/
inductive Built : Address → Prop where
  | parsed {s : String} {x : Address} (h : parse s = .ok x) : Built x
  | parsedAs {version : Version} {s : String} {x : Address} (h : parseAs version s = .ok x) : Built x
  | ofNumeric (n : Numeric) : Built (ofNumeric n)
  | decoded {text : String} {x : Address} (h : readJson read text = .ok x) : Built x

theorem Built.parse_text {x : Address} (h : x.Built) : parse x.text = .ok x := by
  cases h with
  | parsed h => exact Address.parse_text h
  | parsedAs h => exact Address.parse_text (parse_of_parseAs h)
  | ofNumeric n => exact parse_ofNumeric n
  | decoded h =>
      obtain ⟨d, _, hr⟩ := readJson_eq_ok_iff.1 h
      obtain ⟨s, _, hs⟩ := read_eq_ok_iff.1 hr
      exact Address.parse_text hs

theorem Built.readJson_datum {x : Address} (h : x.Built) : readJson read x.datum.json = .ok x :=
  readJson_json rfl (read_eq_ok_iff.2 ⟨x.text, rfl, h.parse_text⟩)

end Address

/-- No text decodes to a value that its constructor would refuse, and every value of the types
without real numbers reads back from the text that is written of it. -/
theorem decoding_validates :
    Decodes Port.read (Whole 32) Port.of (fun n p => 1 ≤ n ∧ n ≤ 65535 ∧ p.number = n) ∧
    Decodes PortRange.read PortRange.Encodes (fun ends => PortRange.of ends.1 ends.2)
      (fun ends r => ends.1.number ≤ ends.2.number ∧ r.first = ends.1 ∧ r.last = ends.2) ∧
    Decodes Timeout.read Number Timeout.of (fun x t =>
      x.isFinite = true ∧ 0 < x.value ∧ x.value ≤ 300 * Binary64.one ∧ t.seconds = x) ∧
    Decodes PacketSize.read (Whole 32) PacketSize.of (fun n s => 8 ≤ n ∧ n ≤ 1500 ∧ s.bytes = n) ∧
    Decodes HopLimit.read (Whole 32) HopLimit.of (fun n h => 1 ≤ n ∧ n ≤ 255 ∧ h.hops = n) ∧
    Decodes Address.read (fun d s => d = .text s) Address.parse (fun s x =>
      x.text = String.ofList (Text.trim s.toList) ∧ Address.parse x.text = .ok x) ∧
    Decodes Ping.Result.read Ping.Result.Encodes Ping.Result.Raw.result (fun raw r =>
      Ping.Lawful raw.success raw.time raw.message ∧
      r.Has raw.success raw.time raw.message raw.hopLimit raw.packetSize) ∧
    (∀ p : Port, readJson Port.read p.datum.json = .ok p) ∧
    (∀ r : PortRange, readJson PortRange.read r.datum.json = .ok r) ∧
    (∀ s : PacketSize, readJson PacketSize.read s.datum.json = .ok s) ∧
    (∀ h : HopLimit, readJson HopLimit.read h.datum.json = .ok h) ∧
    ∀ x : Address, x.Built → readJson Address.read x.datum.json = .ok x :=
  ⟨Port.decodes, PortRange.decodes, Timeout.decodes, PacketSize.decodes, HopLimit.decodes,
    Address.decodes, Ping.Result.decodes, Port.readJson_datum, PortRange.readJson_datum,
    PacketSize.readJson_datum, HopLimit.readJson_datum, fun _ => Address.Built.readJson_datum⟩

/-- An address of some blanks and digits reads back, and the ends of a range the wrong way round are
refused. -/
theorem decoding_validates_wrong_way :
    (∃ x, Address.parse " 127.0.0.1\t" = .ok x ∧ x.datum.json = "\"127.0.0.1\"" ∧
      readJson Address.read "\"127.0.0.1\"" = .ok x) ∧
    readJson PortRange.read "[8443,8080]" = .error (.refused (.portRange 8443 8080)) := by
  obtain ⟨-, hrange, -, -, -, -, -, -, -, -, -, haddress⟩ := decoding_validates
  constructor
  · have hx : Address.parse " 127.0.0.1\t" = .ok ⟨"127.0.0.1", .v4 ⟨127, 0, 0, 1⟩⟩ := by
      decide +kernel
    have hj : Datum.json (.text "127.0.0.1") = "\"127.0.0.1\"" := by decide +kernel
    have hread := haddress _ (.parsed hx)
    rw [Address.datum, hj] at hread
    exact ⟨_, hx, hj, hread⟩
  · have hj : Datum.json (.list [.int 8443, .int 8080]) = "[8443,8080]" := by decide +kernel
    have ho := ofJson_json (d := .list [.int 8443, .int 8080]) (by decide +kernel)
    rw [hj] at ho
    have he : PortRange.Encodes (.list [.int 8443, .int 8080])
        (⟨8443, by decide, by decide⟩, ⟨8080, by decide, by decide⟩) :=
      PortRange.readEnds_eq_ok_iff.1 rfl
    exact hrange.refused _ _ _ _ ⟨ho, rfl⟩ he rfl

end HostProbe
