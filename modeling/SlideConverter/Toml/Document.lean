import SlideConverter.Data.Tree

/-!
# TOML documents under construction

Tables are opened by headers and filled by keys, and each table remembers how it came
to be: a header that names it, a header of a table inside it, or a dotted key. That
decides what may still be added. A value that is complete in one place, also a table
in braces, is closed.
-/

namespace SlideConverter.Toml

inductive Origin where
  /-- Named by a header, or the document itself. -/
  | header
  /-- In the way of a header of an inner table. -/
  | outer
  /-- In the way of a dotted key. -/
  | dotted
deriving DecidableEq

inductive Node where
  | value (t : Tree)
  | table (origin : Origin) (entries : List (String × Node))
  /-- The tables of a list of tables, the last one first. -/
  | tables (last : List (String × Node)) (earlier : List (List (String × Node)))

abbrev Entries := List (String × Node)

/-- Replaces the value of `key`, or adds it at the end. -/
def putEntry (key : String) (node : Node) : Entries → Entries
  | [] => [(key, node)]
  | (k, n) :: rest => if k = key then (key, node) :: rest else (k, n) :: putEntry key node rest

/-- Change the table that a header's path leads to; missing tables on the way are made. -/
def within (change : Entries → Option Entries) : List String → Entries → Option Entries
  | [], entries => change entries
  | key :: path, entries =>
    match entries.lookup key with
    | none => (within change path []).map fun e => putEntry key (.table .outer e) entries
    | some (.table origin e) =>
      (within change path e).map fun e => putEntry key (.table origin e) entries
    | some (.tables last earlier) =>
      (within change path last).map fun e => putEntry key (.tables e earlier) entries
    | some (.value _) => none

/-- A header may name a table that is not there yet or was only in another header's way. -/
def openTable (key : String) (entries : Entries) : Option Entries :=
  match entries.lookup key with
  | none => some (putEntry key (.table .header []) entries)
  | some (.table .outer e) => some (putEntry key (.table .header e) entries)
  | _ => none

def openElement (key : String) (entries : Entries) : Option Entries :=
  match entries.lookup key with
  | none => some (putEntry key (.tables [] []) entries)
  | some (.tables last earlier) => some (putEntry key (.tables [] (last :: earlier)) entries)
  | _ => none

/-- Give a new key its value, in a table with `origin` that the rest of the path has led to. -/
def assign (key : String) (value : Tree) (origin : Origin) (dotted : Bool) (entries : Entries) :
    Option Entries :=
  if (origin == .dotted) != dotted then none
  else
    match entries.lookup key with
    | none => some (putEntry key (.value value) entries)
    | some _ => none

/-- A dotted key makes its tables or goes through such as no header has named. -/
def insert (value : Tree) (dotted : Bool) (origin : Origin) : List String → Entries → Option Entries
  | [], _ => none
  | [key], entries => assign key value origin dotted entries
  | key :: path, entries =>
    match entries.lookup key with
    | none =>
      (insert value true .dotted path []).map fun e => putEntry key (.table .dotted e) entries
    | some (.table .header _) => none
    | some (.table origin e) =>
      (insert value true origin path e).map fun e => putEntry key (.table origin e) entries
    | some (.tables last earlier) =>
      (insert value true .header path last).map fun e => putEntry key (.tables e earlier) entries
    | some (.value _) => none

mutual

def Node.tree : Node → Tree
  | .value t => t
  | .table _ entries => .table (entryTrees entries)
  | .tables last earlier => .list (tableTrees earlier [.table (entryTrees last)])

def entryTrees : List (String × Node) → List (Option String × Tree)
  | [] => []
  | (key, node) :: rest => (some key, node.tree) :: entryTrees rest

def tableTrees : List (List (String × Node)) → List Tree → List Tree
  | [], behind => behind
  | entries :: earlier, behind => tableTrees earlier (.table (entryTrees entries) :: behind)

end

end SlideConverter.Toml
