namespace HostProbe.Text

def digit? (radix : Nat) (c : Char) : Option Nat :=
  let n := c.toNat
  let v :=
    if 48 ≤ n ∧ n ≤ 57 then n - 48
    else if 97 ≤ n ∧ n ≤ 102 then n - 87
    else if 65 ≤ n ∧ n ≤ 70 then n - 55
    else 16
  if v < radix then some v else none

def digits (radix : Nat) : (limit : Nat) → List Char → List Nat × List Char
  | 0, s => ([], s)
  | _ + 1, [] => ([], [])
  | limit + 1, c :: s =>
    match digit? radix c with
    | none => ([], c :: s)
    | some d => let (ds, rest) := digits radix limit s; (d :: ds, rest)

def digitRun (radix : Nat) : List Char → List Nat × List Char
  | [] => ([], [])
  | c :: s =>
    match digit? radix c with
    | none => ([], c :: s)
    | some d => let (ds, rest) := digitRun radix s; (d :: ds, rest)

def number (radix : Nat) (ds : List Nat) : Nat := ds.foldl (fun n d => n * radix + d) 0

def integer (n : Int) : List Char :=
  if n < 0 then '-' :: Nat.toDigits 10 n.natAbs else Nat.toDigits 10 n.natAbs

def hex (n : Nat) : List Char := Nat.toDigits 16 n

def hexPadded (width n : Nat) : List Char :=
  List.replicate (width - (hex n).length) '0' ++ hex n

end HostProbe.Text
