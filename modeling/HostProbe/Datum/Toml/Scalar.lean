import HostProbe.Binary64.Rounding
import HostProbe.Datum
import HostProbe.Datum.Toml.Lexeme

namespace HostProbe.Datum.Toml

def moreDigits (radix : Nat) : List Char → Option (List Nat × List Char)
  | '_' :: c :: s =>
    match Text.digit? radix c with
    | some d => (moreDigits radix s).map fun (ds, rest) => (d :: ds, rest)
    | none => none
  | '_' :: [] => none
  | c :: s =>
    match Text.digit? radix c with
    | some d => (moreDigits radix s).map fun (ds, rest) => (d :: ds, rest)
    | none => some ([], c :: s)
  | [] => some ([], [])

def someDigits (radix : Nat) : List Char → Option (List Nat × List Char)
  | c :: s =>
    match Text.digit? radix c with
    | some d => (moreDigits radix s).map fun (ds, rest) => (d :: ds, rest)
    | none => none
  | [] => none

def wholeDigits : List Char → Option (List Nat × List Char)
  | '0' :: s => some ([0], s)
  | s => someDigits 10 s

def sign : List Char → Bool × List Char
  | '-' :: s => (true, s)
  | '+' :: s => (false, s)
  | s => (false, s)

def integer? (negative : Bool) (radix : Nat) (ds : List Nat) : Option Datum :=
  let n : Int := Text.number radix ds
  let n := if negative then -n else n
  if -0x8000000000000000 ≤ n ∧ n < 0x8000000000000000 then some (.int n) else none

/-- A number above all of binary64 is refused; one below all of it is minus infinity. -/
def real? (negative : Bool) (ds : List Nat) (places : Nat) (exponent : Int) : Option Datum :=
  let x := Binary64.ofDecimal negative (Text.number 10 ds) (exponent - places)
  if x = Binary64.infinity then none else some (.real x)

def fraction (s : List Char) : Option (List Nat × List Char) :=
  match s with
  | '.' :: s => someDigits 10 s
  | s => some ([], s)

def exponent (s : List Char) : Option (Int × List Char) :=
  let (negative, s) := sign s
  (someDigits 10 s).map fun (ds, rest) =>
    let n : Int := Text.number 10 ds
    (if negative then -n else n, rest)

def startsExponent : List Char → Option (List Char)
  | 'e' :: s => some s
  | 'E' :: s => some s
  | _ => none

def decimal (s : List Char) : Option (Datum × List Char) := do
  let (negative, s) := sign s
  let (whole, s) ← wholeDigits s
  let (places, rest) ← fraction s
  match startsExponent rest with
  | some rest =>
    let (e, rest) ← exponent rest
    return (← real? negative (whole ++ places) places.length e, rest)
  | none =>
    if places.isEmpty then return (← integer? negative 10 whole, rest)
    else return (← real? negative (whole ++ places) places.length 0, rest)

def radixInteger (radix : Nat) (s : List Char) : Option (Datum × List Char) := do
  let (ds, rest) ← someDigits radix s
  return (← integer? false radix ds, rest)

def special (negative : Bool) : List Char → Option (Datum × List Char)
  | 'i' :: 'n' :: 'f' :: s => some (.real (Binary64.ofMagnitude negative Binary64.infinite), s)
  | 'n' :: 'a' :: 'n' :: s => some (.real Binary64.nan, s)
  | _ => none

def number : List Char → Option (Datum × List Char)
  | '0' :: 'x' :: s => radixInteger 16 s
  | '0' :: 'o' :: s => radixInteger 8 s
  | '0' :: 'b' :: s => radixInteger 2 s
  | s =>
    let (negative, rest) := sign s
    match special negative rest with
    | some r => some r
    | none => decimal s

def field? (width low high : Nat) (s : List Char) : Option (Nat × List Char) :=
  let (ds, rest) := Text.digits 10 width s
  let n := Text.number 10 ds
  if ds.length = width ∧ low ≤ n ∧ n ≤ high then some (n, rest) else none

def mark? (c : Char) : List Char → Option (List Char)
  | d :: s => if c = d then some s else none
  | [] => none

def daysIn (year month : Nat) : Nat :=
  if month = 2 then
    if year % 4 = 0 ∧ (year % 100 ≠ 0 ∨ year % 400 = 0) then 29 else 28
  else if month = 4 ∨ month = 6 ∨ month = 9 ∨ month = 11 then 30
  else 31

def dateStart? (s : List Char) : Option (Nat × List Char) := do
  let (year, s) ← field? 4 0 9999 s
  return (year, ← mark? '-' s)

def dateTail? (year : Nat) (s : List Char) : Option (List Char) := do
  let (month, s) ← field? 2 1 12 s
  let (day, s) ← field? 2 1 31 (← mark? '-' s)
  if day ≤ daysIn year month then some s else none

def timeStart? (s : List Char) : Option (List Char) := do
  let (_, s) ← field? 2 0 23 s
  mark? ':' s

def timeTail? (s : List Char) : Option (List Char) := do
  let (_, s) ← field? 2 0 59 s
  let (_, s) ← field? 2 0 60 (← mark? ':' s)
  match s with
  | '.' :: rest =>
    match Text.digitRun 10 rest with
    | ([], _) => some s
    | (_, rest) => some rest
  | s => some s

def offset? : List Char → Option (List Char)
  | c :: s =>
    if c = 'Z' ∨ c = 'z' then some s
    else if c = '+' ∨ c = '-' then do
      let (_, s) ← field? 2 0 59 (← timeStart? s)
      some s
    else some (c :: s)
  | [] => some []

def dateTimeTail? : List Char → Option (List Char)
  | c :: s =>
    if c = 'T' ∨ c = 't' ∨ c = ' ' then
      match timeStart? s with
      | some rest => do offset? (← timeTail? rest)
      | none => some (c :: s)
    else some (c :: s)
  | [] => some []

/-- A date or a time is neither a number nor a text: it reads as a record of one entry under a name
that no setting has. -/
def moment : Datum := .ofFields [("$__toml_private_datetime", .text "")]

/-- A date, a time, both, or a number. A year with a hyphen starts a date and an hour with a colon a
time, whatever follows. -/
def momentOrNumber (s : List Char) : Option (Datum × List Char) :=
  match dateStart? s with
  | some (year, rest) => do return (moment, ← dateTimeTail? (← dateTail? year rest))
  | none =>
    match timeStart? s with
    | some rest => do return (moment, ← timeTail? rest)
    | none => number s

end HostProbe.Datum.Toml
