import HostProbe.Datum

namespace HostProbe.Datum.Toml

structure TableKind where
  isImplicit : Bool
  isDotted : Bool
deriving DecidableEq, Repr

inductive Node where
  | leaf (value : Datum)
  | table (kind : TableKind) (entries : List (String × Node))
  | tables (elements : List (List (String × Node)))
deriving Inhabited

abbrev Entries := List (String × Node)

mutual

def Node.datum : Node → Datum
  | .leaf d => d
  | .table _ entries => .record (members entries)
  | .tables elements => .list (records elements)

def members : Entries → List (Datum × Datum)
  | [] => []
  | (k, n) :: es => (.text k, n.datum) :: members es

def records : List Entries → List Datum
  | [] => []
  | es :: rest => .record (members es) :: records rest

end

def Entries.set (k : String) (n : Node) (es : Entries) : Entries :=
  es.map fun e => if e.1 = k then (k, n) else e

/-- Applies a change to the table under a path, with the flag whether that table is dotted. Missing
tables on the way are made. Of a list of tables the last is meant. A key with points does not enter
a table that a header has named. -/
def Entries.walk (dotted : Bool) (change : Bool → Entries → Option Entries) :
    List String → (here : Bool) → Entries → Option Entries
  | [], here, es => change here es
  | k :: ks, _, es =>
    match es.lookup k with
    | none =>
      (walk dotted change ks dotted []).map fun sub => es ++ [(k, .table ⟨true, dotted⟩ sub)]
    | some (.leaf _) => none
    | some (.table kind sub) =>
      if dotted && !kind.isImplicit then none
      else (walk dotted change ks kind.isDotted sub).map fun sub => Entries.set k (.table kind sub) es
    | some (.tables elements) =>
      match elements.getLast? with
      | none => none
      | some last =>
        (walk dotted change ks false last).map fun sub =>
          Entries.set k (.tables (elements.dropLast ++ [sub])) es

structure Assignment where
  path : List String
  name : String
  value : Datum

/-- Adds a value. A dotted table takes only values under keys with points, and no name is given
twice. -/
def Entries.assign (a : Assignment) (es : Entries) : Option Entries :=
  es.walk true (fun here sub =>
    if here = a.path.isEmpty then none
    else if (sub.lookup a.name).isSome then none
    else some (sub ++ [(a.name, .leaf a.value)])) a.path false

def Entries.assignAll (es : Entries) : List Assignment → Option Entries
  | [] => some es
  | a :: rest => (es.assign a).bind fun es => Entries.assignAll es rest

structure Section where
  isElement : Bool
  path : List String
  name : String
  body : List Assignment

/-- The table that a header opens: a new one, or one that so far only other headers implied. -/
def Entries.enter (s : Section) (es : Entries) : Option Entries :=
  match s.isElement, es.lookup s.name with
  | false, none => (Entries.assignAll [] s.body).map fun sub =>
      es ++ [(s.name, .table ⟨false, false⟩ sub)]
  | false, some (.table ⟨true, false⟩ sub) => (Entries.assignAll sub s.body).map fun sub =>
      Entries.set s.name (.table ⟨false, false⟩ sub) es
  | true, none => (Entries.assignAll [] s.body).map fun sub => es ++ [(s.name, .tables [sub])]
  | true, some (.tables elements) => (Entries.assignAll [] s.body).map fun sub =>
      Entries.set s.name (.tables (elements ++ [sub])) es
  | _, some _ => none

def Entries.addSection (s : Section) (es : Entries) : Option Entries :=
  es.walk false (fun _ sub => sub.enter s) s.path false

end HostProbe.Datum.Toml
