import HostProbe.Proofs.Icmp.Checksum

namespace HostProbe.Icmp

theorem wordSum_pseudoHeader (source destination : V6) (length : Nat) (rest : List UInt8) :
    wordSum (pseudoHeader source destination length ++ rest) =
      wordSum source.octets + (wordSum destination.octets +
        wordSum (Bytes.bigEndian 4 length ++ [0, 0, 0, 58] ++ rest)) := by
  have ho (x : V6) : x.octets.length % 2 = 0 := by rw [length_octets]
  rw [pseudoHeader, List.append_assoc, List.append_assoc, List.append_assoc,
    wordSum_append (ho source), wordSum_append (ho destination), List.append_assoc]

theorem wordSum_pseudoHeader_comm (source destination : V6) (length : Nat) (rest : List UInt8) :
    wordSum (pseudoHeader destination source length ++ rest) =
      wordSum (pseudoHeader source destination length ++ rest) := by
  rw [wordSum_pseudoHeader, wordSum_pseudoHeader, Nat.add_left_comm]

/-- What is summed counts only by its sum. -/
theorem checksum_congr {data other : List UInt8} (h : data.length ≤ 131074)
    (ho : other.length ≤ 131074) (hs : wordSum data = wordSum other) :
    checksum data = checksum other := by
  rw [← UInt16.toNat_inj, toNat_checksum h, toNat_checksum ho, hs]

namespace Request

structure Lays (r : Request) (bytes : List UInt8) : Prop where
  length_eq : bytes.length = 8 + max r.size 8
  kind_eq : bytes[0]? = some (Kind.of r.version).echoRequest
  code_eq : bytes[1]? = some 0
  identifier_eq : Bytes.number ((bytes.drop 4).take 2) = r.identifier.toNat
  sequence_eq : Bytes.number ((bytes.drop 6).take 2) = r.sequence.toNat
  timestamp_eq : Bytes.number ((bytes.drop 8).take 8) = r.timestamp.bits.toNat
  filler_eq : ∀ b ∈ bytes.drop 16, b = 0x51

variable (r : Request)

theorem lays_withChecksum (sum : UInt16) : r.Lays (r.withChecksum sum) where
  length_eq := r.length_withChecksum sum
  kind_eq := rfl
  code_eq := rfl
  identifier_eq := by
    have hb : ((r.withChecksum sum).drop 4).take 2 = Bytes.bigEndian 2 r.identifier.toNat := rfl
    rw [hb, Bytes.number_bigEndian_of_lt r.identifier.toNat_lt]
  sequence_eq := by
    have hb : ((r.withChecksum sum).drop 6).take 2 = Bytes.bigEndian 2 r.sequence.toNat := rfl
    rw [hb, Bytes.number_bigEndian_of_lt r.sequence.toNat_lt]
  timestamp_eq := by
    have hb : ((r.withChecksum sum).drop 8).take 8 = Bytes.bigEndian 8 r.timestamp.bits.toNat := rfl
    rw [hb, Bytes.number_bigEndian_of_lt r.timestamp.bits.toNat_lt]
  filler_eq b hb := List.eq_of_mem_replicate hb

def cleared (bytes : List UInt8) : List UInt8 := (bytes.set 2 0).set 3 0

theorem cleared_withChecksum (sum : UInt16) : cleared (r.withChecksum sum) = r.withChecksum 0 := rfl

theorem number_checksum : Bytes.number ((r.packet.drop 2).take 2) =
    (checksum (r.covered ++ cleared r.packet)).toNat := by
  have hb : (r.packet.drop 2).take 2 =
      Bytes.bigEndian 2 (checksum (r.covered ++ r.withChecksum 0)).toNat := rfl
  rw [hb, Bytes.number_bigEndian_of_lt (UInt16.toNat_lt _), packet, cleared_withChecksum]

theorem covered_eq {source destination : V6} (hv : r.version = .v6)
    (hr : r.route = some (source, destination)) :
    r.covered = pseudoHeader source destination r.packet.length := by
  rw [covered, hv, hr, length_packet, length_withChecksum]

theorem covered_eq_nil (h : r.version = .v4 ∨ r.route = none) : r.covered = [] := by
  rw [covered]
  rcases h with hv | hr
  · rw [hv]
  · rw [hr]
    cases r.version <;> rfl

end Request

/-- A request has its fields in their places. Its checksum is that of what it covers, and it
verifies: a receiver sums up to zero, for an ICMPv6 request with a route also when it takes the
pseudo-header of the way back. -/
theorem request_verifies (r : Request) (h : r.covered.length + r.packet.length ≤ 131074) :
    r.Lays r.packet ∧
    (∀ source destination, r.version = .v6 → r.route = some (source, destination) →
      checksum (pseudoHeader source destination r.packet.length ++ r.packet) = 0 ∧
      checksum (pseudoHeader destination source r.packet.length ++ r.packet) = 0) ∧
    (r.version = .v4 ∨ r.route = none → checksum r.packet = 0) ∧
    (∀ source destination, r.version = .v6 → r.route = some (source, destination) →
      Bytes.number ((r.packet.drop 2).take 2) = (checksum (pseudoHeader source destination
        r.packet.length ++ Request.cleared r.packet)).toNat) ∧
    (r.version = .v4 ∨ r.route = none → Bytes.number ((r.packet.drop 2).take 2) =
      (checksum (Request.cleared r.packet)).toNat) := by
  have hzero : checksum (r.covered ++ r.packet) = 0 :=
    r.checksum_packet (by rwa [List.length_append])
  refine ⟨r.lays_withChecksum _, ?_, ?_, ?_, ?_⟩
  · intro source destination hv hr
    rw [r.covered_eq hv hr] at h hzero
    rw [length_pseudoHeader] at h
    refine ⟨hzero, ?_⟩
    rw [← hzero]
    refine checksum_congr ?_ ?_ (wordSum_pseudoHeader_comm ..)
    · rwa [List.length_append, length_pseudoHeader]
    · rwa [List.length_append, length_pseudoHeader]
  · intro hplain
    rwa [r.covered_eq_nil hplain, List.nil_append] at hzero
  · intro source destination hv hr
    rw [r.number_checksum, r.covered_eq hv hr]
  · intro hplain
    rw [r.number_checksum, r.covered_eq_nil hplain, List.nil_append]

def Request.odd : Request where
  version := .v6
  identifier := 0xbeef
  sequence := 7
  size := 13
  timestamp := ⟨0x41d954fc40200000⟩
  route := some (.loopback, ⟨0xfe80, 0, 0, 0, 0, 0, 0, 1⟩)

theorem request_verifies_odd : Request.odd.Lays Request.odd.packet ∧
    checksum (pseudoHeader .loopback ⟨0xfe80, 0, 0, 0, 0, 0, 0, 1⟩ Request.odd.packet.length ++
      Request.odd.packet) = 0 := by
  have h : Request.odd.covered.length + Request.odd.packet.length ≤ 131074 := by
    rw [Request.length_packet]
    decide
  obtain ⟨hlays, hroute, _⟩ := request_verifies Request.odd h
  exact ⟨hlays, (hroute _ _ rfl rfl).1⟩

end HostProbe.Icmp
