import HostProbe.Time.Stamp
import HostProbe.Text.Blank
import HostProbe.Text.Numeral

namespace HostProbe.Time.Stamp

def two (n : Nat) : List Char :=
  List.replicate (2 - (Nat.toDigits 10 n).length) '0' ++ Nat.toDigits 10 n

def decimals (width n : Nat) : List Char :=
  List.replicate (width - (Nat.toDigits 10 n).length) '0' ++ Nat.toDigits 10 n

/-- Four digits; a sign in front of them outside the years 0 to 9999. -/
def yearText (year : Int) : List Char :=
  if 0 ≤ year ∧ year ≤ 9999 then decimals 4 year.natAbs
  else (if year < 0 then '-' else '+') :: decimals 4 year.natAbs

/-- No decimals, or three, six or nine: the fewest that are exact. -/
def fractionText (nanos : Nat) : List Char :=
  if nanos = 0 then []
  else if nanos % 1000000 = 0 then '.' :: decimals 3 (nanos / 1000000)
  else if nanos % 1000 = 0 then '.' :: decimals 6 (nanos / 1000)
  else '.' :: decimals 9 nanos

def written (t : Stamp) : List Char :=
  let d := t.date
  let s := t.ofDay
  let leap := if second ≤ t.nanos then 1 else 0
  yearText d.year ++ '-' :: (two d.month ++ '-' :: (two d.day ++ 'T' ::
    (two (s / 3600) ++ ':' :: (two (s / 60 % 60) ++ ':' :: (two (s % 60 + leap) ++
      (fractionText (t.nanos % second) ++ ['Z']))))))

def text (t : Stamp) : String := String.ofList t.written

def datum (t : Stamp) : Datum := .text t.text

def number (width : Nat) (s : List Char) : Option (Nat × List Char) :=
  match Text.digits 10 width (Text.trimLeft s) with
  | ([], _) => none
  | (ds, rest) => some (Text.number 10 ds, rest)

def mark (c : Char) (s : List Char) : Option (List Char) :=
  match Text.trimLeft s with
  | d :: rest => if c = d then some rest else none
  | [] => none

def signedNumber (negative : Bool) (s : List Char) : Option (Int × List Char) :=
  match Text.digitRun 10 s with
  | ([], _) => none
  | (ds, rest) =>
    let n : Int := Text.number 10 ds
    some (if negative then -n else n, rest)

/-- A year has at most four digits, or a sign and any number of them. -/
def year (s : List Char) : Option (Int × List Char) :=
  match Text.trimLeft s with
  | '-' :: s => signedNumber true s
  | '+' :: s => signedNumber false s
  | s => (number 4 s).map fun (n, rest) => (n, rest)

def date? (s : List Char) : Option (Date × List Char) := do
  let (y, s) ← year s
  let (m, s) ← number 2 (← mark '-' s)
  let (d, s) ← number 2 (← mark '-' s)
  let date : Date := ⟨y, m, d⟩
  if date.inCalendar ∧ firstYear ≤ y ∧ y ≤ lastYear then some (date, s) else none

/-- The decimals of a second as nanoseconds; those after the ninth are dropped. -/
def nanos? : List Char → Option (Nat × List Char)
  | '.' :: s =>
    match Text.digits 10 9 s with
    | ([], _) => none
    | (ds, rest) => some (Text.number 10 ds * Nat.pow 10 (9 - ds.length), (Text.digitRun 10 rest).2)
  | s => some (0, s)

/-- The second of the day and the nanoseconds. A sixtieth second is the leap second after the
fifty-ninth. -/
def time? (s : List Char) : Option (Nat × Nat × List Char) := do
  let (h, s) ← number 2 s
  let (m, s) ← number 2 (← mark ':' s)
  let (sec, s) ← number 2 (← mark ':' s)
  let (n, s) ← nanos? s
  if h ≤ 23 ∧ m ≤ 59 ∧ sec ≤ 60 then
    if sec = 60 then some (h * 3600 + m * 60 + 59, second + n, s)
    else some (h * 3600 + m * 60 + sec, n, s)
  else none

def twoDigits : List Char → Option (Nat × List Char)
  | a :: b :: rest => do some (10 * (← Text.digit? 10 a) + (← Text.digit? 10 b), rest)
  | _ => none

def offsetTail (s : List Char) : Option (Nat × List Char) := do
  let (h, s) ← twoDigits s
  let (m, s) ← twoDigits (s.dropWhile fun c => c == ':' || Text.isBlank c)
  if h ≤ 23 ∧ m ≤ 59 then some (h * 3600 + m * 60, s) else none

/-- An offset in seconds: `Z`, `UTC` in any case, or signed hours and minutes. -/
def offset? (s : List Char) : Option (Int × List Char) :=
  match Text.trimLeft s with
  | a :: b :: c :: rest =>
    if a.toUpper = 'U' ∧ b.toUpper = 'T' ∧ c.toUpper = 'C' then some (0, rest)
    else signed (a :: b :: c :: rest)
  | s => signed s
where
  signed : List Char → Option (Int × List Char)
    | 'Z' :: s => some (0, s)
    | 'z' :: s => some (0, s)
    | '+' :: s => (offsetTail s).map fun (n, rest) => ((n : Int), rest)
    | '-' :: s => (offsetTail s).map fun (n, rest) => (-(n : Int), rest)
    | '−' :: s => (offsetTail s).map fun (n, rest) => (-(n : Int), rest)
    | _ => none

def timeMark : List Char → Option (List Char)
  | 'T' :: s => some s
  | 't' :: s => some s
  | ' ' :: s => some s
  | _ => none

def ofText? (s : List Char) : Option Stamp := do
  let (date, s) ← date? s
  let (seconds, nanos, s) ← time? (← timeMark s)
  let (offset, s) ← offset? s
  if (Text.trimLeft s).isEmpty then
    of? ((date.toDay - epoch) * 86400 + seconds - offset) nanos
  else none

def read (d : Datum) : Reading Stamp := do
  let s ← Datum.readText d
  Datum.required (ofText? s.toList)

end HostProbe.Time.Stamp
