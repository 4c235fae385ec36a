import HostProbe.Icmp.Request
import HostProbe.Proofs.Bytes

namespace HostProbe.Icmp

theorem wordSum_cons_cons (high low : UInt8) (rest : List UInt8) :
    wordSum (high :: low :: rest) = 256 * high.toNat + low.toNat + wordSum rest := by
  have hh := high.toNat_lt
  have hl := low.toNat_lt
  have hw : (Bytes.word high low).toNat = 256 * high.toNat + low.toNat := by
    rw [Bytes.word, UInt16.toNat_ofNat', Bytes.number_cons, Bytes.number_cons]
    simp only [List.length_cons, List.length_nil, Bytes.number, List.foldl_nil]
    omega
  rw [← hw]
  rfl

theorem wordSum_append {data : List UInt8} (h : data.length % 2 = 0) (more : List UInt8) :
    wordSum (data ++ more) = wordSum data + wordSum more := by
  induction data using words.induct with
  | case1 high low rest ih =>
      have hr : rest.length % 2 = 0 := by
        simp only [List.length_cons] at h
        omega
      rw [List.cons_append, List.cons_append, wordSum_cons_cons, wordSum_cons_cons, ih hr,
        ← Nat.add_assoc]
  | case2 last => simp at h
  | case3 => exact (Nat.zero_add _).symm

theorem wordSum_replicate (n : Nat) :
    wordSum (List.replicate n 255) = n / 2 * 65535 + n % 2 * 65280 := by
  induction n using Nat.twoStepInduction with
  | zero => rfl
  | one => rfl
  | more n ih _ =>
      rw [List.replicate_succ, List.replicate_succ, wordSum_cons_cons, ih,
        show (255 : UInt8).toNat = 255 from rfl]
      omega

theorem length_words_le (data : List UInt8) : 2 * (words data).length ≤ data.length + 1 := by
  induction data using words.induct with
  | case1 high low rest ih =>
      simp only [words, List.length_cons]
      omega
  | case2 last => simp [words]
  | case3 => simp [words]

def runningSums (data : List UInt8) : List Nat :=
  (words data).scanl (fun sum w => sum + w.toNat) 0

def registers (data : List UInt8) : List UInt32 :=
  (words data).scanl (fun sum w => sum + w.toUInt32) 0

def foldedSums (sum : Nat) : List Nat :=
  if sum < 65536 then [sum] else sum :: foldedSums (sum % 65536 + sum / 65536)
termination_by sum

theorem foldl_words (ws : List UInt16) (sum : Nat) : ws.foldl (fun sum w => sum + w.toNat) sum =
    sum + ws.foldr (fun w sum => w.toNat + sum) 0 := by
  induction ws generalizing sum with
  | nil => rfl
  | cons w ws ih => rw [List.foldl_cons, ih, List.foldr_cons, Nat.add_assoc]

theorem getLast?_runningSums (data : List UInt8) :
    (runningSums data).getLast? = some (wordSum data) := by
  rw [runningSums, List.getLast?_scanl, foldl_words, Nat.zero_add]
  rfl

theorem getLast?_registers (data : List UInt8) :
    (registers data).getLast? = some (register data) := List.getLast?_scanl

theorem getLast?_foldedSums (sum : Nat) : (foldedSums sum).getLast? = some (foldCarries sum) := by
  induction sum using foldCarries.induct with
  | case1 sum h =>
      rw [foldedSums, foldCarries, if_pos h, if_pos h]
      rfl
  | case2 sum h ih =>
      rw [foldedSums, foldCarries, if_neg h, if_neg h, List.getLast?_cons, ih]
      rfl

theorem map_toNat_scanl (ws : List UInt16) (sum : UInt32)
    (h : sum.toNat + 65535 * ws.length < 4294967296) :
    (ws.scanl (fun sum w => sum + w.toUInt32) sum).map UInt32.toNat =
      ws.scanl (fun sum w => sum + w.toNat) sum.toNat := by
  induction ws generalizing sum with
  | nil => rfl
  | cons w ws ih =>
      have hw := w.toNat_lt
      simp only [List.length_cons] at h
      have hs : (sum + w.toUInt32).toNat = sum.toNat + w.toNat := by
        rw [UInt32.toNat_add, UInt16.toNat_toUInt32, Nat.mod_eq_of_lt (by omega)]
      rw [List.scanl_cons, List.scanl_cons, List.map_cons, ih _ (by omega), hs]

/-- The register never overflows over so many bytes. -/
theorem map_toNat_registers {data : List UInt8} (h : data.length ≤ 131074) :
    (registers data).map UInt32.toNat = runningSums data := by
  have hl := length_words_le data
  refine map_toNat_scanl (words data) 0 ?_
  rw [UInt32.toNat_zero]
  omega

theorem toNat_register {data : List UInt8} (h : data.length ≤ 131074) :
    (register data).toNat = wordSum data := by
  have hlast := congrArg List.getLast? (map_toNat_registers h)
  rw [List.getLast?_map, getLast?_registers, getLast?_runningSums] at hlast
  exact Option.some.inj hlast

theorem foldCarries_eq (sum : Nat) :
    foldCarries sum = if sum = 0 then 0 else (sum - 1) % 65535 + 1 := by
  induction sum using foldCarries.induct with
  | case1 sum h =>
      rw [foldCarries, if_pos h]
      split <;> omega
  | case2 sum h ih =>
      rw [foldCarries, if_neg h, ih]
      split <;> split <;> omega

theorem foldedSums_le (sum : Nat) : ∀ n ∈ foldedSums sum, n ≤ sum := by
  induction sum using foldCarries.induct with
  | case1 sum h =>
      rw [foldedSums, if_pos h]
      exact List.forall_mem_singleton.2 (Nat.le_refl sum)
  | case2 sum h ih =>
      rw [foldedSums, if_neg h]
      refine List.forall_mem_cons.2 ⟨Nat.le_refl sum, fun n hn => ?_⟩
      have hfold := ih n hn
      omega

theorem toNat_checksum {data : List UInt8} (h : data.length ≤ 131074) :
    (checksum data).toNat = 65535 - foldCarries (wordSum data) := by
  have hlt : 65535 - foldCarries (wordSum data) < 65536 := by omega
  rw [checksum, toNat_register h]
  exact UInt16.toNat_ofNat_of_lt' hlt

/-- The checksum of at most 131074 bytes never overflows its register, neither while the words are
added up nor while the carries are folded in, and is the complement of the sum of the words modulo
65535, where a multiple of 65535 other than 0 counts as 65535. Of any greater length there are bytes
whose sum overflows. -/
theorem checksum_exact :
    (∀ data : List UInt8, data.length ≤ 131074 →
      (registers data).map UInt32.toNat = runningSums data ∧
      (∀ n ∈ runningSums data ++ foldedSums (wordSum data), n ≤ 0xFFFFFFFF) ∧
      (foldedSums (wordSum data)).getLast? = some (0xFFFF - (checksum data).toNat) ∧
      (checksum data).toNat = if wordSum data = 0 then 0xFFFF
        else 65535 - ((wordSum data - 1) % 65535 + 1)) ∧
    ∀ length, 131074 < length → ∃ data : List UInt8, data.length = length ∧
      ∃ n ∈ runningSums data, 0xFFFFFFFF < n := by
  constructor
  · intro data h
    have hregisters := map_toNat_registers h
    have hlast := toNat_register h
    have hfits (x : UInt32) : x.toNat ≤ 0xFFFFFFFF := Nat.le_of_lt_succ x.toNat_lt
    have hsum : (checksum data).toNat = if wordSum data = 0 then 0xFFFF
        else 65535 - ((wordSum data - 1) % 65535 + 1) := by
      rw [toNat_checksum h, foldCarries_eq]
      split <;> rfl
    refine ⟨hregisters, List.forall_mem_append.2 ⟨?_, ?_⟩, ?_, hsum⟩
    · rw [← hregisters]
      exact List.forall_mem_map.2 fun x _ => hfits x
    · intro n hn
      rw [← hlast] at hn
      exact Nat.le_trans (foldedSums_le _ n hn) (hfits _)
    · rw [getLast?_foldedSums, hsum, foldCarries_eq]
      congr 1
      split <;> omega
  · -- No bytes of this length have a greater sum than these.
    intro length h
    refine ⟨List.replicate length 255, List.length_replicate, _,
      List.mem_of_getLast? (getLast?_runningSums _), ?_⟩
    rw [wordSum_replicate]
    omega

def reference : List UInt8 := [0x00, 0x01, 0xf2, 0x03, 0xf4, 0xf5, 0xf6, 0xf7]

theorem checksum_exact_reference : (checksum reference).toNat = 0x220d ∧
    ∃ data : List UInt8, data.length = 131075 ∧ ∃ n ∈ runningSums data, 0xFFFFFFFF < n := by
  obtain ⟨_, _, _, hsum⟩ := checksum_exact.1 reference (by decide)
  exact ⟨hsum.trans (by decide), checksum_exact.2 131075 (by decide)⟩

theorem length_octets (x : V6) : x.octets.length = 16 := rfl

theorem length_pseudoHeader (source destination : V6) (length : Nat) :
    (pseudoHeader source destination length).length = 40 := rfl

namespace Request

variable (r : Request)

theorem length_withChecksum (sum : UInt16) : (r.withChecksum sum).length = 8 + max r.size 8 := by
  simp only [withChecksum, payload, List.length_cons, List.length_append, Bytes.length_bigEndian,
    List.length_replicate]
  omega

theorem length_packet : r.packet.length = 8 + max r.size 8 := r.length_withChecksum _

theorem length_covered : r.covered.length ≤ 40 ∧ r.covered.length % 2 = 0 := by
  unfold covered
  split
  · rw [length_pseudoHeader]
    exact ⟨Nat.le_refl 40, rfl⟩
  · exact ⟨Nat.zero_le 40, rfl⟩

/-- The first word of a message, its checksum and the words behind that. -/
theorem wordSum_withChecksum (sum : UInt16) : wordSum (r.withChecksum sum) =
    (Bytes.word (Kind.of r.version).echoRequest 0).toNat + (sum.toNat +
      wordSum (Bytes.bigEndian 2 r.identifier.toNat ++ Bytes.bigEndian 2 r.sequence.toNat ++
        r.payload)) := by
  conv => rhs; rw [← Bytes.word_split sum]
  rfl

theorem wordSum_covered (sum : UInt16) : wordSum (r.covered ++ r.withChecksum sum) =
    sum.toNat + wordSum (r.covered ++ r.withChecksum 0) := by
  rw [wordSum_append r.length_covered.2, wordSum_append r.length_covered.2, wordSum_withChecksum,
    r.wordSum_withChecksum 0, UInt16.toNat_zero]
  omega

theorem wordSum_covered_pos : 0 < wordSum (r.covered ++ r.withChecksum 0) := by
  have hfirst : 0 < (Bytes.word (Kind.of r.version).echoRequest 0).toNat := by
    cases r.version <;> decide
  rw [wordSum_append r.length_covered.2, wordSum_withChecksum]
  omega

/-- A request is summed to zero with its checksum in it. -/
theorem checksum_packet (h : (r.covered ++ r.packet).length ≤ 131074) :
    checksum (r.covered ++ r.packet) = 0 := by
  have hl : (r.covered ++ r.withChecksum 0).length ≤ 131074 := by
    rw [List.length_append, length_withChecksum]
    rw [List.length_append, length_packet] at h
    exact h
  have hpos := r.wordSum_covered_pos
  rw [← UInt16.toNat_inj, toNat_checksum h, packet, wordSum_covered, toNat_checksum hl,
    foldCarries_eq, foldCarries_eq, if_neg (Nat.ne_of_gt hpos), if_neg (by omega), UInt16.toNat_zero]
  omega

end Request

end HostProbe.Icmp
