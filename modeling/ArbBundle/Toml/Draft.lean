import ArbBundle.Toml.Value

/-!
# Draft — tables that are still being put together

The tables of a document are defined piece by piece: by headers, by the longer headers and dotted
keys that lead through them, and by the entries below them.

- `TableForm`: how a table has been defined so far
- `Draft.atHeader?`: works on the table that a header names
- `Draft.atKeys?`: works on the table that the keys before a dotted key's last one name
- `Draft.open?`, `Draft.openElement?`, `Draft.insert?`: headers and entries
- `Draft.toTable`: the finished table

No key is defined twice.  A header does not define again what a header or a dotted key defined, and
a dotted key does not add to what a header defined.
-/

namespace ArbBundle
namespace Toml

/-- How a table has been defined so far. -/
inductive TableForm
  /-- By a header of its own. -/
  | header
  /-- By a longer header that leads through it. -/
  | implied
  /-- By a dotted key. -/
  | dotted
  deriving DecidableEq

/-- What a key stands for while a document is read. -/
inductive Draft
  | value (v : Toml)
  | table (form : TableForm) (entries : List (String × Draft))
  /-- Tables under headers in double brackets, the last of which is still open. -/
  | tables (done : List (List (String × Draft))) (last : List (String × Draft))

abbrev Entries := List (String × Draft)

namespace Draft

/-- Puts a draft in the place of the one that a key stands for, or behind all. -/
def put (key : String) (d : Draft) : Entries → Entries
  | [] => [(key, d)]
  | (k, e) :: rest => if k = key then (key, d) :: rest else (k, e) :: put key d rest

/-- Works on the table that a header names, and defines the tables on the way to it. -/
def atHeader? (work : Entries → Option Entries) : List String → Entries → Option Entries
  | [], entries => work entries
  | key :: path, entries =>
    match entries.lookup key with
    | none => (atHeader? work path []).map fun t => put key (.table .implied t) entries
    | some (.value _) => none
    | some (.table form t) =>
      (atHeader? work path t).map fun t => put key (.table form t) entries
    | some (.tables done last) =>
      (atHeader? work path last).map fun t => put key (.tables done t) entries

/-- Works on the table that the keys before the last one of a dotted key name, and defines the
tables on the way to it. -/
def atKeys? (work : Entries → Option Entries) : List String → Entries → Option Entries
  | [], entries => work entries
  | key :: path, entries =>
    match entries.lookup key with
    | none => (atKeys? work path []).map fun t => put key (.table .dotted t) entries
    | some (.table .dotted t) =>
      (atKeys? work path t).map fun t => put key (.table .dotted t) entries
    | some (.table .implied t) =>
      if path.isEmpty then none
      else (atKeys? work path t).map fun t => put key (.table .implied t) entries
    | some (.tables done last) =>
      if path.isEmpty then none
      else (atKeys? work path last).map fun t => put key (.tables done t) entries
    | some (.table .header _) => none
    | some (.value _) => none

def open? (path : List String) (key : String) : Entries → Option Entries :=
  atHeader? (fun entries =>
    match entries.lookup key with
    | none => some (put key (.table .header []) entries)
    | some (.table .implied t) => some (put key (.table .header t) entries)
    | _ => none) path

/-- Opens one more table under a header in double brackets. -/
def openElement? (path : List String) (key : String) : Entries → Option Entries :=
  atHeader? (fun entries =>
    match entries.lookup key with
    | none => some (put key (.tables [] []) entries)
    | some (.tables done last) => some (put key (.tables (done ++ [last]) []) entries)
    | _ => none) path

/-- Puts a value under a key that may be dotted. -/
def insert? (path : List String) (key : String) (v : Toml) : Entries → Option Entries :=
  atKeys? (fun entries =>
    match entries.lookup key with
    | none => some (put key (.value v) entries)
    | some _ => none) path

mutual

def finish : Draft → Toml
  | .value v => v
  | .table _ entries => .table (finishEntries entries)
  | .tables done last => .array (finishTables done ++ [.table (finishEntries last)])

def finishEntries : Entries → List (String × Toml)
  | [] => []
  | (k, d) :: rest => (k, finish d) :: finishEntries rest

def finishTables : List Entries → List Toml
  | [] => []
  | t :: rest => .table (finishEntries t) :: finishTables rest

end

end Draft
end Toml
end ArbBundle
