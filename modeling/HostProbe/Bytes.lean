namespace HostProbe.Bytes

def bigEndian : (count : Nat) → Nat → List UInt8
  | 0, _ => []
  | count + 1, n => UInt8.ofNat (n >>> (8 * count)) :: bigEndian count n

def number (bytes : List UInt8) : Nat := bytes.foldl (fun n b => n * 256 + b.toNat) 0

def word (high low : UInt8) : UInt16 := UInt16.ofNat (number [high, low])

end HostProbe.Bytes
