namespace HostProbe.Fanout

def small : Nat := 30

def least : List (Nat × ε) → Option (Nat × ε)
  | [] => none
  | f :: fs => match least fs with
    | none => some f
    | some g => if g.1 < f.1 then some g else some f

/-- The failure that ends a group of a given size, from the failures so far in the order in which
they came, each with the position of its job. Whether a position is clear, with no job before it
that is not over, is asked only of large groups. -/
def ending? (size : Nat) (failures : List (Nat × ε)) (clear : Nat → Bool) : Option ε :=
  if size ≤ small then failures.head?.map Prod.snd
  else match least failures with
    | none => none
    | some (position, e) => if clear position then some e else none

def inOrder (results : List (Nat × α)) : List α :=
  (results.mergeSort fun x y => x.1 ≤ y.1).map Prod.snd

structure State (ε α : Type) where
  failures : List (Nat × ε) := []
  results : List (Nat × α) := []

def State.add (s : State ε α) (position : Nat) : Except ε α → State ε α
  | .ok a => { s with results := (position, a) :: s.results }
  | .error e => { s with failures := s.failures ++ [(position, e)] }

def clearOf (rest : List (Nat × α)) (position : Nat) : Bool := rest.all fun r => position < r.1

def settle (size : Nat) : State ε α → List (Nat × Except ε α) → Except ε (List α)
  | s, [] => .ok (inOrder s.results)
  | s, (position, outcome) :: rest =>
    let s := s.add position outcome
    match ending? size s.failures (clearOf rest) with
    | some e => .error e
    | none => settle size s rest

def awaited (size : Nat) : State ε α → List (Nat × Except ε α) → Nat
  | _, [] => 0
  | s, (position, outcome) :: rest =>
    let s := s.add position outcome
    match ending? size s.failures (clearOf rest) with
    | some _ => 1
    | none => 1 + awaited size s rest

end HostProbe.Fanout
