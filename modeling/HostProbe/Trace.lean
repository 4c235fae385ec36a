import HostProbe.Journal

namespace HostProbe

inductive Step (κ : Type) where
  | call (call : κ)
  | note (entry : Entry)
deriving DecidableEq, Repr

def Step.map (f : κ → μ) : Step κ → Step μ
  | .call c => .call (f c)
  | .note e => .note e

def Step.calls (steps : List (Step κ)) : List κ :=
  steps.filterMap fun
    | .call c => some c
    | .note _ => none

def Step.entries (steps : List (Step κ)) : List Entry :=
  steps.filterMap fun
    | .call _ => none
    | .note e => some e

structure Traced (κ ε α : Type) where
  steps : List (Step κ)
  result : Except ε α

namespace Traced

def after (steps : List (Step κ)) (t : Traced κ ε α) : Traced κ ε α := ⟨steps ++ t.steps, t.result⟩

def closing (t : Traced κ ε α) (steps : List (Step κ)) : Traced κ ε α := ⟨t.steps ++ steps, t.result⟩

def andThen (t : Traced κ ε α) (f : α → Traced κ ε β) : Traced κ ε β :=
  match t.result with
  | .ok a => (f a).after t.steps
  | .error e => ⟨t.steps, .error e⟩

end Traced

end HostProbe
