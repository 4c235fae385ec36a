import HostProbe.Binary64

namespace HostProbe

/-- The tree that a text describes. A part that is `unfit` is well formed and has no value, as a
number beyond binary64 or a text that is no Unicode: it can be skipped and not be read. -/
inductive Datum where
  | null
  | bool (value : Bool)
  | int (value : Int)
  | real (value : Binary64)
  | text (value : String)
  | list (items : List Datum)
  | record (members : List (Datum × Datum))
  | unfit
  | broken
deriving Repr, Inhabited

namespace Datum

mutual

def sound : Datum → Bool
  | .list items => soundItems items
  | .record members => soundMembers members
  | .broken => false
  | _ => true

def soundItems : List Datum → Bool
  | [] => true
  | d :: ds => sound d && soundItems ds

def soundMembers : List (Datum × Datum) → Bool
  | [] => true
  | (k, d) :: ds => sound k && sound d && soundMembers ds

end

def ofFields (fields : List (String × Datum)) : Datum :=
  .record (fields.map fun (name, value) => (.text name, value))

def option (f : α → Datum) : Option α → Datum
  | none => .null
  | some a => f a

end Datum

end HostProbe
