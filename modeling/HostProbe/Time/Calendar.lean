namespace HostProbe.Time

structure Date where
  year : Int
  month : Nat
  day : Nat
deriving DecidableEq, Repr

def isLeap (year : Int) : Bool :=
  decide (year % 4 = 0 ∧ (year % 100 ≠ 0 ∨ year % 400 = 0))

def monthLengths (year : Int) : List Nat :=
  [31, if isLeap year then 29 else 28, 31, 30, 31, 30, 31, 31, 30, 31, 30, 31]

def yearStart (year : Int) : Int :=
  365 * year + (year + 3) / 4 - (year + 99) / 100 + (year + 399) / 400

/-- The year of a day. The mean length of a year gives it up to one. -/
def yearOf (day : Int) : Int :=
  let guess := day * 400 / 146097
  if day < yearStart guess then guess - 1
  else if yearStart (guess + 1) ≤ day then guess + 1
  else guess

def monthOf : (month : Nat) → List Nat → Nat → Nat × Nat
  | month, [], rest => (month, rest + 1)
  | month, n :: ns, rest => if rest < n then (month, rest + 1) else monthOf (month + 1) ns (rest - n)

def Date.ofDay (day : Int) : Date :=
  let year := yearOf day
  let (month, d) := monthOf 1 (monthLengths year) (day - yearStart year).toNat
  ⟨year, month, d⟩

def daysBefore (year : Int) (month : Nat) : Nat :=
  ((monthLengths year).take (month - 1)).foldr (· + ·) 0

def Date.toDay (date : Date) : Int :=
  yearStart date.year + daysBefore date.year date.month + (date.day - 1 : Nat)

def Date.inCalendar (date : Date) : Bool :=
  decide (1 ≤ date.month ∧ date.month ≤ 12 ∧ 1 ≤ date.day ∧
    date.day ≤ (monthLengths date.year).getD (date.month - 1) 0)

def epoch : Int := 719528

end HostProbe.Time
