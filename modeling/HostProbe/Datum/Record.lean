import HostProbe.Datum.Json.Reader
import HostProbe.Binary64.Rounding
import HostProbe.Refusal

namespace HostProbe

/-- Why a datum is no value of a type: the type's own constructor refused it, or its form is not
that of the type. -/
inductive Misread where
  | refused (why : Refusal)
  | malformed
deriving DecidableEq, Repr

abbrev Reading (α : Type) := Except Misread α

def Reading.ofRefusal : Except Refusal α → Reading α
  | .ok a => .ok a
  | .error why => .error (.refused why)

namespace Datum

def readNat (bits : Nat) : Datum → Reading Nat
  | .int n => if 0 ≤ n ∧ n < (1 <<< bits : Nat) then .ok n.toNat else .error .malformed
  | _ => .error .malformed

def readReal : Datum → Reading Binary64
  | .real x => .ok x
  | .int n => .ok (Binary64.ofInt n)
  | _ => .error .malformed

def readBool : Datum → Reading Bool
  | .bool b => .ok b
  | _ => .error .malformed

def readText : Datum → Reading String
  | .text s => .ok s
  | _ => .error .malformed

def readOption (read : Datum → Reading α) : Datum → Reading (Option α)
  | .null => .ok none
  | d => (read d).map some

def readItems (read : Datum → Reading α) : List Datum → Reading (List α)
  | [] => .ok []
  | d :: ds =>
    match read d with
    | .error e => .error e
    | .ok a => (readItems read ds).map (a :: ·)

def readList (read : Datum → Reading α) : Datum → Reading (List α)
  | .list ds => readItems read ds
  | _ => .error .malformed

/-- One of a list of names, as a text or as a record of that name and `null`. -/
def readName (names : List (String × α)) : Datum → Reading α
  | .text s => found s
  | .record [(.text s, .null)] => found s
  | _ => .error .malformed
where
  found (s : String) : Reading α :=
    match names.lookup s with
    | some a => .ok a
    | none => .error .malformed

structure Field (σ : Type) where
  name : String
  read : Datum → Reading (σ → σ)

def field (name : String) (read : Datum → Reading α) (put : α → σ → σ) : Field σ :=
  ⟨name, fun d => (read d).map put⟩

/-- The form of a record. A strict one has no members but its fields. In list form it may end before
its last field when it is partial, and go on after that when it takes a surplus. -/
structure Shape (σ : Type) where
  fields : List (Field σ)
  start : σ
  strict : Bool
  partialList : Bool
  surplusList : Bool

def Shape.readMembers (shape : Shape σ) : (seen : List String) → σ → List (Datum × Datum) → Reading σ
  | _, s, [] => .ok s
  | seen, s, (.text name, d) :: ms =>
    match shape.fields.find? (·.name == name) with
    | some f =>
      if seen.contains name then .error .malformed
      else match f.read d with
        | .error e => .error e
        | .ok put => shape.readMembers (name :: seen) (put s) ms
    | none =>
      if shape.strict || !d.sound then .error .malformed else shape.readMembers seen s ms
  | _, _, _ :: _ => .error .malformed

def Shape.readFields (shape : Shape σ) : List (Field σ) → σ → List Datum → Reading σ
  | [], s, [] => .ok s
  | [], s, _ :: _ => if shape.surplusList then .ok s else .error .malformed
  | _ :: _, s, [] => if shape.partialList then .ok s else .error .malformed
  | f :: fs, s, d :: ds =>
    match f.read d with
    | .error e => .error e
    | .ok put => shape.readFields fs (put s) ds

def Shape.read (shape : Shape σ) : Datum → Reading σ
  | .record ms => shape.readMembers [] shape.start ms
  | .list ds => shape.readFields shape.fields shape.start ds
  | _ => .error .malformed

def required : Option α → Reading α
  | some a => .ok a
  | none => .error .malformed

end Datum

/-- Reads a value from a JSON text. What follows the value is looked at only when the value itself
was accepted. -/
def readJson (read : Datum → Reading α) (s : String) : Reading α :=
  let (d, ended) := Datum.ofJson s
  match read d with
  | .error e => .error e
  | .ok a => if ended then .ok a else .error .malformed

end HostProbe
