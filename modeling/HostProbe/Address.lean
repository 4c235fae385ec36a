import HostProbe.Address.Block
import HostProbe.Address.Text
import HostProbe.Datum.Record
import HostProbe.Text.Blank

namespace HostProbe

structure Address where
  text : String
  numeric : Numeric
deriving DecidableEq, Repr

namespace Address

def version (x : Address) : Version := x.numeric.version

def parse (s : String) : Except Refusal Address :=
  let trimmed := Text.trim s.toList
  match Numeric.ofText? trimmed with
  | some n => .ok ⟨String.ofList trimmed, n⟩
  | none => .error (.address s)

def parseAs (version : Version) (s : String) : Except Refusal Address :=
  match parse s with
  | .error e => .error e
  | .ok x =>
    if x.version = version then .ok x
    else .error (.address s!"expected IPv{version.number} address, got: {s}")

def ofNumeric (n : Numeric) : Address := ⟨n.text, n⟩

def datum (x : Address) : Datum := .text x.text

def read (d : Datum) : Reading Address := do
  Reading.ofRefusal (parse (← Datum.readText d))

end Address

def Version.names : List (String × Version) := [("V4", .v4), ("V6", .v6)]

def Version.datum : Version → Datum
  | .v4 => .text "V4"
  | .v6 => .text "V6"

end HostProbe
