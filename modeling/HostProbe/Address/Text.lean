import HostProbe.Address.Numeric
import HostProbe.Text.Numeral

namespace HostProbe

def Text.numeral (radix limit : Nat) (leadingZero : Bool) (s : List Char) :
    Option (Nat × List Char) :=
  match Text.digitRun radix s with
  | ([], _) => none
  | (ds, rest) =>
    if limit < ds.length then none
    else if !leadingZero && ds.head? == some 0 && 1 < ds.length then none
    else some (Text.number radix ds, rest)

namespace V4

def readOctet (s : List Char) : Option (UInt8 × List Char) := do
  let (n, rest) ← Text.numeral 10 3 false s
  if n < 256 then some (UInt8.ofNat n, rest) else none

def readDot : List Char → Option (List Char)
  | '.' :: s => some s
  | _ => none

def readText (s : List Char) : Option (V4 × List Char) := do
  let (a, s) ← readOctet s
  let (b, s) ← readOctet (← readDot s)
  let (c, s) ← readOctet (← readDot s)
  let (d, s) ← readOctet (← readDot s)
  some (⟨a, b, c, d⟩, s)

def octetText (o : UInt8) : List Char := Nat.toDigits 10 o.toNat

def written (x : V4) : List Char :=
  octetText x.a ++ '.' :: (octetText x.b ++ '.' :: (octetText x.c ++ '.' :: octetText x.d))

end V4

namespace V6

def readGroup (s : List Char) : Option (UInt16 × List Char) := do
  let (n, rest) ← Text.numeral 16 4 true s
  some (UInt16.ofNat n, rest)

def afterColon (first : Bool) : List Char → Option (List Char)
  | ':' :: s => if first then some (':' :: s) else some s
  | s => if first then some s else none

def readGroups : (room : Nat) → (first : Bool) → List Char → List UInt16 × Bool × List Char
  | 0, _, s => ([], false, s)
  | room + 1, first, s =>
    match if 1 ≤ room then (afterColon first s).bind V4.readText else none with
    | some (v4, rest) => ([Bytes.word v4.a v4.b, Bytes.word v4.c v4.d], true, rest)
    | none =>
      match (afterColon first s).bind readGroup with
      | some (g, rest) =>
        let (gs, tail, rest) := readGroups room false rest
        (g :: gs, tail, rest)
      | none => ([], false, s)

/-- The address at the start of a text. A `::` stands for at least one group. -/
def readText (s : List Char) : Option (V6 × List Char) :=
  let (head, v4Tail, rest) := readGroups 8 true s
  if head.length = 8 then (ofGroups? head).map (·, rest)
  else if v4Tail then none
  else match rest with
    | ':' :: ':' :: rest =>
      let (tail, _, rest) := readGroups (7 - head.length) true rest
      let zeros := List.replicate (8 - head.length - tail.length) 0
      (ofGroups? (head ++ zeros ++ tail)).map (·, rest)
    | _ => none

def zerosAt (gs : List UInt16) : Nat := (gs.takeWhile (· == 0)).length

def longestRun : (start : Nat) → List UInt16 → Nat × Nat
  | _, [] => (0, 0)
  | start, g :: gs =>
    let here := zerosAt (g :: gs)
    let later := longestRun (start + 1) gs
    if later.2 ≤ here then (start, here) else later

def groupText (g : UInt16) : List Char := Text.hex g.toNat

def joined : List UInt16 → List Char
  | [] => []
  | [g] => groupText g
  | g :: gs => groupText g ++ ':' :: joined gs

def written (x : V6) : List Char :=
  match x.mapped? with
  | some v4 => [':', ':', 'f', 'f', 'f', 'f', ':'] ++ v4.written
  | none =>
    let (start, length) := longestRun 0 x.groups
    if 1 < length then
      joined (x.groups.take start) ++ ':' :: ':' :: joined (x.groups.drop (start + length))
    else joined x.groups

end V6

def Text.whole (read : List Char → Option (α × List Char)) (s : List Char) : Option α :=
  match read s with
  | some (a, []) => some a
  | _ => none

def V4.ofText? (s : List Char) : Option V4 := Text.whole V4.readText s

def V6.ofText? (s : List Char) : Option V6 := Text.whole V6.readText s

namespace Numeric

def readText (s : List Char) : Option (Numeric × List Char) :=
  match V4.readText s with
  | some (x, rest) => some (.v4 x, rest)
  | none => (V6.readText s).map fun (x, rest) => (.v6 x, rest)

def ofText? (s : List Char) : Option Numeric := Text.whole readText s

def written : Numeric → List Char
  | .v4 x => x.written
  | .v6 x => x.written

def text (x : Numeric) : String := String.ofList x.written

end Numeric

end HostProbe
