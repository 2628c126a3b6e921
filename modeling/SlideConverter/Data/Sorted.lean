import SlideConverter.Data.Tree

/-!
# Trees with their fields in order

Some texts list the fields of a table by name and not in the order in which the table
has them.
-/

namespace SlideConverter.Tree

/-- In front of the first field whose name does not come before its own. -/
def insertField (f : Option String × Tree) :
    List (Option String × Tree) → List (Option String × Tree)
  | [] => [f]
  | g :: rest =>
    if f.1.getD "" ≤ g.1.getD "" then f :: g :: rest else g :: insertField f rest

mutual

/-- Every table by the names of its fields. -/
def sorted : Tree → Tree
  | .list items => .list (sortedItems items)
  | .table fields => .table (sortedFields fields)
  | t => t

def sortedItems : List Tree → List Tree
  | [] => []
  | t :: rest => sorted t :: sortedItems rest

def sortedFields : List (Option String × Tree) → List (Option String × Tree)
  | [] => []
  | (key, t) :: rest => insertField (key, sorted t) (sortedFields rest)

end

end SlideConverter.Tree
