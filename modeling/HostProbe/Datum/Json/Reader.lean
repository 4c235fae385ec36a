import HostProbe.Datum
import HostProbe.Binary64.Rounding
import HostProbe.Text.Numeral

namespace HostProbe.Datum.Json

def isBlank (c : Char) : Bool := c == ' ' || c == '\n' || c == '\t' || c == '\r'

def skipBlanks (s : List Char) : List Char := s.dropWhile isBlank

def hex4 (s : List Char) : Option (Nat × List Char) :=
  match Text.digits 16 4 s with
  | ([a, b, c, d], rest) => some (Text.number 16 [a, b, c, d], rest)
  | _ => none

def escape? : Char → Option Char
  | '"' => some '"'
  | '\\' => some '\\'
  | '/' => some '/'
  | 'b' => some '\x08'
  | 'f' => some '\x0c'
  | 'n' => some '\n'
  | 'r' => some '\r'
  | 't' => some '\t'
  | _ => none

inductive Piece where
  | char (c : Char)
  | lone
  | close
  | broken
deriving DecidableEq, Repr

def isHigh (n : Nat) : Bool := decide (0xd800 ≤ n ∧ n < 0xdc00)

def isLow (n : Nat) : Bool := decide (0xdc00 ≤ n ∧ n < 0xe000)

def unicodePiece (s : List Char) : Piece × List Char :=
  match hex4 s with
  | none => (.broken, [])
  | some (n, rest) =>
    if isHigh n then
      match rest with
      | '\\' :: 'u' :: after =>
        match hex4 after with
        | some (m, rest') =>
          if isLow m then (.char (Char.ofNat (0x10000 + (n - 0xd800) * 0x400 + (m - 0xdc00))), rest')
          else (.lone, rest)
        | none => (.lone, rest)
      | _ => (.lone, rest)
    else if isLow n then (.lone, rest)
    else (.char (Char.ofNat n), rest)

def piece : List Char → Piece × List Char
  | [] => (.broken, [])
  | '"' :: s => (.close, s)
  | '\\' :: 'u' :: s => unicodePiece s
  | '\\' :: c :: s =>
    match escape? c with
    | some e => (.char e, s)
    | none => (.broken, [])
  | c :: s => if c.toNat < 0x20 then (.broken, []) else (.char c, s)

/-- A quoted text after its opening quote. The characters so far come in reverse, or `none` after a
lone surrogate. -/
def quotedTail : (fuel : Nat) → Option (List Char) → List Char → Datum × List Char
  | 0, _, _ => (.broken, [])
  | fuel + 1, sofar, s =>
    match piece s with
    | (.char c, rest) => quotedTail fuel (sofar.map (c :: ·)) rest
    | (.lone, rest) => quotedTail fuel none rest
    | (.close, rest) =>
      (match sofar with
        | some cs => .text (String.ofList cs.reverse)
        | none => .unfit, rest)
    | (.broken, _) => (.broken, [])

def fraction : List Char → Option (Option (List Nat) × List Char)
  | '.' :: s =>
    match Text.digitRun 10 s with
    | ([], _) => none
    | (ds, rest) => some (some ds, rest)
  | s => some (none, s)

def signedExponent (negative : Bool) (s : List Char) : Option (Option Int × List Char) :=
  match Text.digitRun 10 s with
  | ([], _) => none
  | (ds, rest) =>
    let n : Int := Text.number 10 ds
    some (some (if negative then -n else n), rest)

def exponent : List Char → Option (Option Int × List Char)
  | e :: s =>
    if e = 'e' ∨ e = 'E' then
      match s with
      | '+' :: s => signedExponent false s
      | '-' :: s => signedExponent true s
      | s => signedExponent false s
    else some (none, e :: s)
  | [] => some (none, [])

/-- How many leading digits of a number are told apart. No binary64 number and no midpoint between
two neighbours has more. -/
def digitLimit : Nat := 768

/-- The digits of a number as a whole number and its decimal exponent. Zeros at the end of the
fraction do not count. Past the limit the digits are read as a single 1, so that the number lies
above its kept digits; zeros before the point count there too. -/
def significand (whole fraction : List Nat) (exponent : Int) : Nat × Int :=
  let fraction := (fraction.reverse.dropWhile (· == 0)).reverse
  let digits := (whole ++ fraction).dropWhile (· == 0)
  let exponent := exponent - fraction.length
  let excess := digits.length - digitLimit
  if excess = 0 then (Text.number 10 digits, exponent)
  else (Text.number 10 (digits.take digitLimit ++ [1]), exponent + excess - 1)

def realOf (negative : Bool) (whole fraction : List Nat) (exponent : Int) : Datum :=
  let (m, e) := significand whole fraction exponent
  let x := Binary64.ofDecimal negative m e
  if x.isFinite then .real x else .unfit

/-- A number written without point and exponent is an integer while it fits 64 bits. Minus zero is
no integer. -/
def integerOf (negative : Bool) (digits : List Nat) : Datum :=
  let n := Text.number 10 digits
  if negative then
    if n = 0 ∨ 0x8000000000000000 < n then realOf true digits [] 0 else .int (-n)
  else if 0x10000000000000000 ≤ n then realOf false digits [] 0 else .int n

def numberTail (negative : Bool) (s : List Char) : Datum × List Char :=
  match Text.digitRun 10 s with
  | ([], _) => (.broken, [])
  | (0 :: _ :: _, _) => (.broken, [])
  | (whole, rest) =>
    match fraction rest with
    | none => (.broken, [])
    | some (places, rest) =>
      match exponent rest with
      | none => (.broken, [])
      | some (none, rest) =>
        match places with
        | none => (integerOf negative whole, rest)
        | some ds => (realOf negative whole ds 0, rest)
      | some (some e, rest) => (realOf negative whole (places.getD []) e, rest)

def literal (name : List Char) (value : Datum) (s : List Char) : Datum × List Char :=
  if name.isPrefixOf s then (value, s.drop name.length) else (.broken, [])

mutual

/-- One value. Each opening bracket takes two steps and each other value one, so twice the length of
the text is enough fuel. -/
def value : (fuel : Nat) → List Char → Datum × List Char
  | 0, _ => (.broken, [])
  | fuel + 1, s =>
    match skipBlanks s with
    | [] => (.broken, [])
    | '"' :: s => quotedTail fuel (some []) s
    | '[' :: s =>
      match skipBlanks s with
      | ']' :: rest => (.list [], rest)
      | s => let (items, rest) := items fuel s; (.list items, rest)
    | '{' :: s =>
      match skipBlanks s with
      | '}' :: rest => (.record [], rest)
      | s => let (members, rest) := members fuel s; (.record members, rest)
    | '-' :: s => numberTail true s
    | 'n' :: s => literal ['u', 'l', 'l'] .null s
    | 't' :: s => literal ['r', 'u', 'e'] (.bool true) s
    | 'f' :: s => literal ['a', 'l', 's', 'e'] (.bool false) s
    | s => numberTail false s

def items : (fuel : Nat) → List Char → List Datum × List Char
  | 0, _ => ([.broken], [])
  | fuel + 1, s =>
    let (d, rest) := value fuel s
    match skipBlanks rest with
    | ',' :: rest =>
      let (ds, rest) := items fuel rest
      (d :: ds, rest)
    | ']' :: rest => ([d], rest)
    | _ => ([d, .broken], [])

def members : (fuel : Nat) → List Char → List (Datum × Datum) × List Char
  | 0, _ => ([(.broken, .broken)], [])
  | fuel + 1, s =>
    match skipBlanks s with
    | '"' :: s =>
      let (k, rest) := quotedTail fuel (some []) s
      match skipBlanks rest with
      | ':' :: rest =>
        let (d, rest) := value fuel rest
        match skipBlanks rest with
        | ',' :: rest =>
          let (ds, rest) := members fuel rest
          ((k, d) :: ds, rest)
        | '}' :: rest => ([(k, d)], rest)
        | _ => ([(k, d), (.broken, .broken)], [])
      | _ => ([(k, .broken)], [])
    | _ => ([(.broken, .broken)], [])

end

end HostProbe.Datum.Json

namespace HostProbe.Datum

def ofJson (s : String) : Datum × Bool :=
  let (d, rest) := Json.value (2 * s.length + 1) s.toList
  (d, (Json.skipBlanks rest).isEmpty)

end HostProbe.Datum
