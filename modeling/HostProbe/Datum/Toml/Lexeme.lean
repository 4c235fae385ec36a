import HostProbe.Text.Numeral

namespace HostProbe.Datum.Toml

def isBlank (c : Char) : Bool := c == ' ' || c == '\t'

def skipBlanks (s : List Char) : List Char := s.dropWhile isBlank

def isPlain (c : Char) : Bool :=
  c == '\t' || decide (0x20 ≤ c.toNat ∧ c.toNat ≤ 0x7e ∨ 0x80 ≤ c.toNat)

def newline? : List Char → Option (List Char)
  | '\n' :: s => some s
  | '\r' :: '\n' :: s => some s
  | _ => none

def lineEnd? (s : List Char) : Option (List Char) :=
  let s := match skipBlanks s with
    | '#' :: s => s.dropWhile isPlain
    | s => s
  if s.isEmpty then some [] else newline? s

def skipLayout : (inComment : Bool) → List Char → Option (List Char)
  | false, [] => some []
  | true, [] => none
  | _, '\n' :: s => skipLayout false s
  | _, '\r' :: '\n' :: s => skipLayout false s
  | true, c :: s => if isPlain c then skipLayout true s else none
  | false, c :: s =>
    if c = '#' then skipLayout true s
    else if isBlank c then skipLayout false s
    else if c = '\r' then none
    else some (c :: s)

def codePoint? (width : Nat) (s : List Char) : Option (Char × List Char) :=
  let (ds, rest) := Text.digits 16 width s
  let n := Text.number 16 ds
  if ds.length = width ∧ n.isValidChar then some (Char.ofNat n, rest) else none

def escape? : List Char → Option (Char × List Char)
  | 'b' :: s => some ('\x08', s)
  | 't' :: s => some ('\t', s)
  | 'n' :: s => some ('\n', s)
  | 'f' :: s => some ('\x0c', s)
  | 'r' :: s => some ('\r', s)
  | '"' :: s => some ('"', s)
  | '\\' :: s => some ('\\', s)
  | 'u' :: s => codePoint? 4 s
  | 'U' :: s => codePoint? 8 s
  | _ => none

def basicTail : (fuel : Nat) → List Char → List Char → Option (String × List Char)
  | 0, _, _ => none
  | _ + 1, _, [] => none
  | _ + 1, sofar, '"' :: s => some (String.ofList sofar.reverse, s)
  | fuel + 1, sofar, '\\' :: s =>
    match escape? s with
    | some (c, s) => basicTail fuel (c :: sofar) s
    | none => none
  | fuel + 1, sofar, c :: s => if isPlain c then basicTail fuel (c :: sofar) s else none

def literalTail : List Char → List Char → Option (String × List Char)
  | _, [] => none
  | sofar, c :: s =>
    if c = '\x27' then some (String.ofList sofar.reverse, s)
    else if isPlain c then literalTail (c :: sofar) s
    else none

/-- The break of a line that a backslash joins to the next: blanks, a line break, and all blanks and
line breaks after it. -/
def joint? (s : List Char) : Option (List Char) :=
  (newline? (skipBlanks s)).map skipSpace
where
  skipSpace : List Char → List Char
    | '\r' :: '\n' :: s => skipSpace s
    | c :: s => if isBlank c || c == '\n' then skipSpace s else c :: s
    | [] => []

/-- The end of a text over several lines: three quotes, of which up to two more in front belong to
the text. -/
def closing? (quote : Char) (s : List Char) : Option (List Char × List Char) :=
  let n := min 5 (s.takeWhile (· == quote)).length
  if 3 ≤ n then some (List.replicate (n - 3) quote, s.drop n) else none

def blockTail (quote : Char) (escapes : Bool) :
    (fuel : Nat) → List Char → List Char → Option (String × List Char)
  | 0, _, _ => none
  | fuel + 1, sofar, s =>
    match closing? quote s with
    | some (extra, rest) => some (String.ofList (sofar.reverse ++ extra), rest)
    | none =>
      match newline? s with
      | some rest => blockTail quote escapes fuel ('\n' :: sofar) rest
      | none =>
        match s with
        | [] => none
        | c :: rest =>
          if escapes && c == '\\' then
            match joint? rest with
            | some rest => blockTail quote escapes fuel sofar rest
            | none =>
              match escape? rest with
              | some (e, rest) => blockTail quote escapes fuel (e :: sofar) rest
              | none => none
          else if isPlain c then blockTail quote escapes fuel (c :: sofar) rest
          else none

def block (quote : Char) (escapes : Bool) (s : List Char) : Option (String × List Char) :=
  blockTail quote escapes (s.length + 1) [] ((newline? s).getD s)

def quoted (quote : Char) (s : List Char) : Option (String × List Char) :=
  let escapes := quote == '"'
  match s with
  | a :: b :: rest =>
    if a = quote ∧ b = quote then block quote escapes rest else line quote escapes (a :: b :: rest)
  | s => line quote escapes s
where
  line (quote : Char) (escapes : Bool) (s : List Char) : Option (String × List Char) :=
    if escapes then basicTail (s.length + 1) [] s
    else if quote = '\x27' then literalTail [] s else none

def isBareKey (c : Char) : Bool :=
  c.isAlphanum || c == '-' || c == '_'

def keyPart (s : List Char) : Option (String × List Char) :=
  match skipBlanks s with
  | '"' :: s => basicTail (s.length + 1) [] s
  | '\x27' :: s => literalTail [] s
  | s =>
    let name := s.takeWhile isBareKey
    if name.isEmpty then none else some (String.ofList name, s.dropWhile isBareKey)

def keyParts : (fuel : Nat) → List Char → Option (List String × List Char)
  | 0, _ => none
  | fuel + 1, s =>
    match keyPart s with
    | none => none
    | some (name, s) =>
      match skipBlanks s with
      | '.' :: s => (keyParts fuel s).map fun (names, s) => (name :: names, s)
      | s => some ([name], s)

def depthLimit : Nat := 80

def key (s : List Char) : Option (List String × List Char) := keyParts (depthLimit - 1) s

end HostProbe.Datum.Toml
