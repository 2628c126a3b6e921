import SlideConverter.Path
import SlideConverter.SystemError

/-!
# File trees

A file tree says what is at each location. A location is a list of names, from the
root down; the root is always a directory. Operations say where they put or take
away nodes; that every node is inside a directory is their concern.
-/

namespace SlideConverter

open Text

abbrev Location := List Bytes

inductive Node where
  | directory
  | file (content : Bytes) (executable : Bool)
  | link (target : Path)
deriving DecidableEq

structure FileTree where
  entries : List (Location × Node) := []
  /-- Where relative paths begin. -/
  current : Location := []

namespace FileTree

def node? (t : FileTree) (place : Location) : Option Node :=
  if place = [] then some .directory else (t.entries.find? (·.1 = place)).map (·.2)

def put (t : FileTree) (place : Location) (node : Node) : FileTree :=
  { t with entries := t.entries.filter (·.1 ≠ place) ++ [(place, node)] }

/-- Take away what is at `place`, and nothing else. -/
def erase (t : FileTree) (place : Location) : FileTree :=
  { t with entries := t.entries.filter (·.1 ≠ place) }

/-- Strictly below `place`. -/
def isBelow (place other : Location) : Bool := place.isPrefixOf other && other ≠ place

def eraseBelow (t : FileTree) (place : Location) : FileTree :=
  { t with entries := t.entries.filter fun e => !isBelow place e.1 }

def isChild (place other : Location) : Bool := other ≠ [] && other.dropLast = place

/-- The names directly below `place`. -/
def names (t : FileTree) (place : Location) : List Bytes :=
  t.entries.filterMap fun (other, _) => if isChild place other then other.getLast? else none

end FileTree

end SlideConverter
