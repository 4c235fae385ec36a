import HostProbe.Datum
import HostProbe.Decimal.Text
import HostProbe.Text.Numeral

namespace HostProbe.Datum.Json

def escaped (c : Char) : List Char :=
  if c = '"' then ['\\', '"']
  else if c = '\\' then ['\\', '\\']
  else if c.toNat = 8 then ['\\', 'b']
  else if c.toNat = 9 then ['\\', 't']
  else if c.toNat = 10 then ['\\', 'n']
  else if c.toNat = 12 then ['\\', 'f']
  else if c.toNat = 13 then ['\\', 'r']
  else if c.toNat < 0x20 then '\\' :: 'u' :: Text.hexPadded 4 c.toNat
  else [c]

def quoted (s : String) : List Char := '"' :: (s.toList.flatMap escaped ++ ['"'])

def real (x : Binary64) : List Char :=
  if x.isFinite then (Decimal.jsonStyle.text x).toList else ['n', 'u', 'l', 'l']

mutual

def written : Datum → List Char
  | .null => ['n', 'u', 'l', 'l']
  | .bool true => ['t', 'r', 'u', 'e']
  | .bool false => ['f', 'a', 'l', 's', 'e']
  | .int n => Text.integer n
  | .real x => real x
  | .text s => quoted s
  | .list [] => ['[', ']']
  | .list (d :: ds) => '[' :: (written d ++ writtenItems ds)
  | .record [] => ['{', '}']
  | .record ((k, d) :: ds) => '{' :: (written k ++ ':' :: (written d ++ writtenMembers ds))
  | .unfit => ['n', 'u', 'l', 'l']
  | .broken => ['n', 'u', 'l', 'l']

def writtenItems : List Datum → List Char
  | [] => [']']
  | d :: ds => ',' :: (written d ++ writtenItems ds)

def writtenMembers : List (Datum × Datum) → List Char
  | [] => ['}']
  | (k, d) :: ds => ',' :: (written k ++ ':' :: (written d ++ writtenMembers ds))

end

end HostProbe.Datum.Json

namespace HostProbe.Datum

def json (d : Datum) : String := String.ofList (Json.written d)

end HostProbe.Datum
