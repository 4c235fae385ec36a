import HostProbe.Datum.Toml.Scalar
import HostProbe.Datum.Toml.Table

namespace HostProbe.Datum.Toml

def assignment? (parts : List String) (value : Datum) : Option Assignment :=
  parts.getLast?.map fun name => ⟨parts.dropLast, name, value⟩

mutual

def value : (fuel depth : Nat) → List Char → Option (Datum × List Char)
  | 0, _, _ => none
  | fuel + 1, depth, s =>
    match s with
    | [] => none
    | c :: s =>
      if c = '"' ∨ c = '\x27' then (quoted c s).map fun (t, rest) => (.text t, rest)
      else if c = '[' then
        if depthLimit ≤ depth + 1 then none
        else (items fuel (depth + 1) s).map fun (ds, rest) => (.list ds, rest)
      else if c = '{' then
        if depthLimit ≤ depth + 1 then none
        else do
          let (lines, rest) ← inlineTable fuel (depth + 1) s
          let entries ← Entries.assignAll [] lines
          return ((Node.table ⟨false, false⟩ entries).datum, rest)
      else if c = '+' ∨ c = '-' ∨ c.isDigit then momentOrNumber (c :: s)
      else if c = 't' then match s with
        | 'r' :: 'u' :: 'e' :: rest => some (.bool true, rest)
        | _ => none
      else if c = 'f' then match s with
        | 'a' :: 'l' :: 's' :: 'e' :: rest => some (.bool false, rest)
        | _ => none
      else special false (c :: s)

def items : (fuel depth : Nat) → List Char → Option (List Datum × List Char)
  | 0, _, _ => none
  | fuel + 1, depth, s =>
    match skipLayout false s with
    | none => none
    | some (']' :: rest) => some ([], rest)
    | some s =>
      match value fuel depth s with
      | none => none
      | some (d, s) =>
        match skipLayout false s with
        | some (',' :: s) => (items fuel depth s).map fun (ds, rest) => (d :: ds, rest)
        | some (']' :: rest) => some ([d], rest)
        | _ => none

def inlineTable : (fuel depth : Nat) → List Char → Option (List Assignment × List Char)
  | 0, _, _ => none
  | fuel + 1, depth, s =>
    match skipBlanks s with
    | '}' :: rest => some ([], rest)
    | s => inlineEntries fuel depth s

def inlineEntries : (fuel depth : Nat) → List Char → Option (List Assignment × List Char)
  | 0, _, _ => none
  | fuel + 1, depth, s =>
    match key s with
    | some (parts, '=' :: s) =>
      match value fuel depth (skipBlanks s) with
      | none => none
      | some (d, s) =>
        match assignment? parts d, skipBlanks s with
        | some a, ',' :: s => (inlineEntries fuel depth s).map fun (rest, s) => (a :: rest, s)
        | some a, '}' :: s => some ([a], s)
        | _, _ => none
    | _ => none

end

inductive Line where
  | assign (a : Assignment)
  | header (isElement : Bool) (path : List String) (name : String)

def header? (s : List Char) : Option (Line × List Char) :=
  match s with
  | '[' :: s =>
    match key s with
    | some (parts, ']' :: ']' :: s) => finish true parts s
    | _ => none
  | s =>
    match key s with
    | some (parts, ']' :: s) => finish false parts s
    | _ => none
where
  finish (isElement : Bool) (parts : List String) (s : List Char) : Option (Line × List Char) := do
    let name ← parts.getLast?
    return (.header isElement parts.dropLast name, ← lineEnd? s)

def assignLine? (fuel : Nat) (s : List Char) : Option (Line × List Char) :=
  match key s with
  | some (parts, '=' :: s) => do
    let (d, s) ← value fuel 0 (skipBlanks s)
    return (.assign (← assignment? parts d), ← lineEnd? s)
  | _ => none

def lines : (fuel : Nat) → List Char → Option (List Line)
  | 0, _ => none
  | fuel + 1, s =>
    match skipBlanks s with
    | [] => some []
    | '#' :: s => (lineEnd? ('#' :: s)).bind (lines fuel)
    | '[' :: s => (header? s).bind fun (l, s) => (lines fuel s).map (l :: ·)
    | s =>
      match newline? s with
      | some s => lines fuel s
      | none => (assignLine? fuel s).bind fun (l, s) => (lines fuel s).map (l :: ·)

def sections : List Line → List Assignment × List Section
  | [] => ([], [])
  | .assign a :: ls => let (body, rest) := sections ls; (a :: body, rest)
  | .header isElement path name :: ls =>
    let (body, rest) := sections ls
    ([], ⟨isElement, path, name, body⟩ :: rest)

def addSections (es : Entries) : List Section → Option Entries
  | [] => some es
  | s :: rest => (es.addSection s).bind fun es => addSections es rest

end HostProbe.Datum.Toml

namespace HostProbe.Datum

def ofToml? (s : String) : Option Datum := do
  let text := match s.toList with
    | c :: s => if c = '\ufeff' then s else c :: s
    | [] => []
  let (body, rest) := Toml.sections (← Toml.lines (2 * text.length + 1) text)
  let entries ← Toml.addSections (← Toml.Entries.assignAll [] body) rest
  return .record (Toml.members entries)

end HostProbe.Datum
