import HostProbe.Decimal.Shortest

namespace HostProbe.Decimal

structure Style where
  positional : Int → Bool
  wholePoint : Bool
  tie : Tie

def messageStyle : Style := ⟨fun _ => true, false, .up⟩

def jsonStyle : Style := ⟨fun e => decide (-5 ≤ e ∧ e ≤ 15), true, .even⟩

def zeros (n : Nat) : String := String.ofList (List.replicate n '0')

def significant (digits : List Char) : List Char :=
  (digits.reverse.dropWhile (· == '0')).reverse

def places (wholePoint : Bool) (digits : List Char) (top : Int) : String :=
  let whole := (top + 1).toNat
  if top < 0 then "0." ++ zeros (-top - 1).toNat ++ String.ofList digits
  else if digits.length ≤ whole then
    String.ofList digits ++ zeros (whole - digits.length) ++ (if wholePoint then ".0" else "")
  else String.ofList (digits.take whole) ++ "." ++ String.ofList (digits.drop whole)

def scientific (digits : List Char) (top : Int) : String :=
  let head := match digits with
    | [] => "0"
    | [d] => d.toString
    | d :: ds => d.toString ++ "." ++ String.ofList ds
  head ++ "e" ++ (if top < 0 then "-" else "+") ++ toString top.natAbs

def Style.unsigned (style : Style) (x : Binary64) : String :=
  if x.magnitude = 0 then if style.wholePoint then "0.0" else "0"
  else
    let d := shortest style.tie x
    let all := Nat.toDigits 10 d.digits
    let top := d.exponent + all.length - 1
    let digits := significant all
    if style.positional top then places style.wholePoint digits top else scientific digits top

def signed (x : Binary64) (body : String) : String := if x.negative then "-" ++ body else body

def Style.text (style : Style) (x : Binary64) : String :=
  if x.isNaN then "NaN"
  else if x.isInfinite then signed x "inf"
  else signed x (style.unsigned x)

def message (x : Binary64) : String := messageStyle.text x

def padded (width n : Nat) : String :=
  let digits := toString n
  zeros (width - digits.length) ++ digits

def fixed (decimals : Nat) (x : Binary64) : String :=
  if x.isNaN then "NaN"
  else if x.isInfinite then signed x "inf"
  else
    let power := Nat.pow 10 decimals
    let n := roundDiv .even (x.units * power) Binary64.one
    signed x (toString (n / power) ++ "." ++ padded decimals (n % power))

end HostProbe.Decimal
