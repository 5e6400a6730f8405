import Observability.Toml.Basic

/-!
# Growing tables

A table grows by entries, whose keys may be dotted, and by headers.  Both walk down a path of keys and
make the tables that are missing.  A table may be extended only as it came about: braces close a table
for good, a dotted key extends only tables that no header opened, and no key is set twice.
-/

namespace Observability.Toml

/-- One `key = value`, with the keys in front of the last one of a dotted key. -/
structure Entry where
  path : List Key
  key : Key
  value : Node
  deriving Repr

namespace Entries

/-- The value stored under `name`. -/
def find? (name : String) : Entries → Option Node
  | [] => none
  | (key, node) :: rest => if key.name = name then some node else find? name rest

/-- The entries with the value under `name` replaced. -/
def replace (name : String) (node : Node) : Entries → Entries
  | [] => []
  | (key, old) :: rest =>
    if key.name = name then (key, node) :: rest else (key, old) :: replace name node rest

/-- The entries without the one under `name`. -/
def erase (name : String) (entries : Entries) : Entries :=
  entries.filter fun entry => entry.1.name ≠ name

end Entries

/-- Whether a table is known only from keys that pass through it. -/
def Origin.isPassive : Origin → Bool
  | .implied | .dotted => true
  | .header | .inline => false

/-- Walks down `path` and changes the entries of the table found there.  `dotted` tells a dotted key
from a header.  Of an array of tables the last one is entered, by either. -/
def descend (dotted : Bool) (change : Origin → Entries → Option Entries) :
    List Key → Origin → Entries → Option Entries
  | [], origin, entries => change origin entries
  | key :: path, _, entries =>
    match Entries.find? key.name entries with
    | none => do
      let origin := if dotted then .dotted else .implied
      let inner ← descend dotted change path origin []
      return entries ++ [(key, .table none origin inner)]
    | some (.table span origin inner) =>
      if origin = .inline || (dotted && !origin.isPassive) then none
      else do
        let inner ← descend dotted change path origin inner
        return Entries.replace key.name (.table span origin inner) entries
    | some (.tables span items) =>
      match items.getLast? with
      | some (.table last origin inner) => do
        let inner ← descend dotted change path origin inner
        return Entries.replace key.name
          (.tables span (items.dropLast ++ [.table last origin inner])) entries
      | _ => none
    | some _ => none

/-- Adds an entry to a table.  The last key has to be new, and a dotted key has to end in a table that
only dotted keys made. -/
def addEntry (origin : Origin) (entries : Entries) (entry : Entry) : Option Entries :=
  descend true
    (fun found inner =>
      if (found = .dotted) = entry.path.isEmpty then none
      else
        match Entries.find? entry.key.name inner with
        | some _ => none
        | none => some (inner ++ [(entry.key, entry.value)]))
    entry.path origin entries

/-- Adds entries one after the other. -/
def addEntries (origin : Origin) (entries : Entries) (list : List Entry) : Option Entries :=
  list.foldlM (addEntry origin) entries

end Observability.Toml
