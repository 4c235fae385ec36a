import HostProbe.Port

namespace HostProbe

structure PortRange where
  first : Port
  last : Port
  ordered : first.number ≤ last.number
deriving DecidableEq, Repr

namespace PortRange

def of (first last : Port) : Except Refusal PortRange :=
  if h : first.number ≤ last.number then .ok ⟨first, last, h⟩
  else .error (.portRange first.number last.number)

/-- A range from plain numbers. The first end is looked at before the last, and both before their
order. -/
def ofNumbers (first last : Nat) : Except Refusal PortRange := do
  of (← Port.of first) (← Port.of last)

def common : PortRange := ⟨⟨1, by decide, by decide⟩, ⟨1023, by decide, by decide⟩, by decide⟩

def registered : PortRange :=
  ⟨⟨1024, by decide, by decide⟩, ⟨49151, by decide, by decide⟩, by decide⟩

def dynamic : PortRange :=
  ⟨⟨49152, by decide, by decide⟩, ⟨65535, by decide, by decide⟩, by decide⟩

def all : PortRange := ⟨⟨1, by decide, by decide⟩, ⟨65535, by decide, by decide⟩, by decide⟩

def count (r : PortRange) : Nat := r.last.number - r.first.number + 1

def contains (r : PortRange) (p : Port) : Bool :=
  decide (r.first.number ≤ p.number ∧ p.number ≤ r.last.number)

def nth (r : PortRange) (i : Fin r.count) : Port :=
  ⟨r.first.number + i, Nat.add_pos_left r.first.positive _, by
    have h := i.isLt
    have hr := r.ordered
    have hb := r.last.bounded
    simp only [count] at h
    omega⟩

def ports (r : PortRange) : List Port := List.ofFn r.nth

/-- A run through the numbers of a range on sixteen bits. The last number does not move it on, which
could wrap, but marks it as spent. -/
structure Counter where
  next : UInt16
  last : UInt16
  spent : Bool
deriving DecidableEq, Repr

/-- The next number, and the run after it. -/
def Counter.step? (c : Counter) : Option (UInt16 × Counter) :=
  if c.spent || decide (c.last < c.next) then none
  else if c.next < c.last then some (c.next, { c with next := c.next + 1 })
  else some (c.next, { c with spent := true })

def counter (r : PortRange) : Counter := ⟨r.first.word, r.last.word, false⟩

def text (r : PortRange) : String := r.first.text ++ "-" ++ r.last.text

def datum (r : PortRange) : Datum :=
  .ofFields [("start", r.first.datum), ("end", r.last.datum)]

def shape : Datum.Shape (Option Port × Option Port) where
  fields :=
    [Datum.field "start" Port.read fun p s => (some p, s.2),
     Datum.field "end" Port.read fun p s => (s.1, some p)]
  start := (none, none)
  strict := false
  partialList := false
  surplusList := false

def read (d : Datum) : Reading PortRange := do
  let (first, last) ← shape.read d
  Reading.ofRefusal (of (← Datum.required first) (← Datum.required last))

end PortRange

end HostProbe
