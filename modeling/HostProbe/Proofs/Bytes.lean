import HostProbe.Bytes
import Mathlib.Tactic.Ring

namespace HostProbe.Bytes

theorem length_bigEndian (count n : Nat) : (bigEndian count n).length = count := by
  induction count with
  | zero => rfl
  | succ count ih => simp [bigEndian, ih]

theorem number_cons (b : UInt8) (bytes : List UInt8) :
    number (b :: bytes) = b.toNat * 256 ^ bytes.length + number bytes := by
  have shift (n : Nat) : bytes.foldl (fun n b => n * 256 + b.toNat) n =
      n * 256 ^ bytes.length + number bytes := by
    induction bytes generalizing n with
    | nil => simp [number]
    | cons c bytes ih =>
        rw [number, List.foldl_cons, List.foldl_cons, ih, ih (0 * 256 + c.toNat), List.length_cons]
        ring
  rw [number, List.foldl_cons, shift, Nat.zero_mul, Nat.zero_add]

/-- Writing a number in too few bytes drops the high ones. -/
theorem number_bigEndian (count n : Nat) : number (bigEndian count n) = n % 256 ^ count := by
  induction count with
  | zero => simp [bigEndian, number, Nat.mod_one]
  | succ count ih =>
      rw [bigEndian, number_cons, length_bigEndian, ih, UInt8.toNat_ofNat', Nat.shiftRight_eq_div_pow,
        Nat.pow_mul, Nat.mod_pow_succ (b := 256), Nat.add_comm, Nat.mul_comm]

theorem number_bigEndian_of_lt {count n : Nat} (h : n < 256 ^ count) :
    number (bigEndian count n) = n := by
  rw [number_bigEndian, Nat.mod_eq_of_lt h]

theorem toNat_word (high low : UInt8) : (word high low).toNat = high.toNat * 256 + low.toNat := by
  have hh := high.toNat_lt
  have hl := low.toNat_lt
  have hn : number [high, low] = high.toNat * 256 + low.toNat := by simp [number]
  rw [word, hn]
  exact UInt16.toNat_ofNat_of_lt' (show _ < 65536 by omega)

theorem bigEndian_word (high low : UInt8) : bigEndian 2 (word high low).toNat = [high, low] := by
  have hl := low.toNat_lt
  have hhigh : UInt8.ofNat ((high.toNat * 256 + low.toNat) >>> 8) = high := by
    rw [Nat.shiftRight_eq_div_pow, show (high.toNat * 256 + low.toNat) / 2 ^ 8 = high.toNat by omega]
    exact UInt8.ofNat_toNat
  have hlow : UInt8.ofNat (high.toNat * 256 + low.toNat) = low := by
    apply UInt8.toNat_inj.1
    rw [UInt8.toNat_ofNat']
    omega
  rw [toNat_word]
  exact congrArg₂ (fun a b => [a, b]) hhigh hlow

theorem word_split (x : UInt16) :
    word (UInt8.ofNat (x.toNat >>> 8)) (UInt8.ofNat x.toNat) = x := by
  have h : number (bigEndian 2 x.toNat) = x.toNat := number_bigEndian_of_lt x.toNat_lt
  calc
    word (UInt8.ofNat (x.toNat >>> 8)) (UInt8.ofNat x.toNat) =
        UInt16.ofNat (number (bigEndian 2 x.toNat)) := rfl
    _ = x := by rw [h, UInt16.ofNat_toNat]

end HostProbe.Bytes
