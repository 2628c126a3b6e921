import SlideConverter.Data.Tree
import SlideConverter.Digest.Sha256

/-!
# JSON text of a tree

On one line without blanks, or over several lines with two blanks for each level.
A tree with a string that is no text has no JSON text.
-/

namespace SlideConverter.Json

def escapeChar (c : Char) : List Char :=
  if c = '"' then ['\\', '"']
  else if c = '\\' then ['\\', '\\']
  else if c = '\n' then ['\\', 'n']
  else if c = '\r' then ['\\', 'r']
  else if c = '\t' then ['\\', 't']
  else if c = '\x08' then ['\\', 'b']
  else if c = '\x0c' then ['\\', 'f']
  else if c.toNat < 0x20 then '\\' :: 'u' :: Digest.Sha256.hexDigits 4 c.toNat
  else [c]

def quote (s : String) : List Char := '"' :: s.toList.flatMap escapeChar ++ ['"']

def quote? (s : Option String) : Option (List Char) := s.map quote

/-- Texts with a comma between one and the next. -/
def separate (comma : List Char) : List (List Char) → List Char
  | [] => []
  | [item] => item
  | item :: rest => item ++ comma ++ separate comma rest

/-- The blanks of a text: in front of what stands at a level, and behind a colon. -/
structure Layout where
  newline : Nat → List Char
  afterColon : List Char

/-- No blanks at all. -/
def Layout.compact : Layout where
  newline _ := []
  afterColon := []

def Layout.pretty : Layout where
  newline level := '\n' :: List.replicate (2 * level) ' '
  afterColon := [' ']

namespace Layout

/-- Items at the next level between two brackets; nothing between them if there are none. -/
def block (layout : Layout) (level : Nat) (opening closing : Char) (items : List (List Char)) :
    List Char :=
  if items.isEmpty then [opening, closing]
  else opening :: (layout.newline (level + 1)
    ++ separate (',' :: layout.newline (level + 1)) items ++ layout.newline level) ++ [closing]

mutual

def write? (layout : Layout) (level : Nat) : Tree → Option (List Char)
  | .null => some "null".toList
  | .bool b => some (toString b).toList
  | .integer n => some (toString n).toList
  | .other written => some written.toList
  | .text s => quote? s
  | .list items => do
    return layout.block level '[' ']' (← writeItems? layout (level + 1) items)
  | .table fields => do
    return layout.block level '\x7b' '\x7d' (← writeFields? layout (level + 1) fields)

def writeItems? (layout : Layout) (level : Nat) : List Tree → Option (List (List Char))
  | [] => some []
  | t :: rest => do return (← write? layout level t) :: (← writeItems? layout level rest)

def writeFields? (layout : Layout) (level : Nat) :
    List (Option String × Tree) → Option (List (List Char))
  | [] => some []
  | (key, t) :: rest => do
    return ((← quote? key) ++ ':' :: (layout.afterColon ++ (← write? layout level t)))
      :: (← writeFields? layout level rest)

end

end Layout

def print? (t : Tree) : Option String := (Layout.compact.write? 0 t).map String.ofList

def printPretty? (t : Tree) : Option String := (Layout.pretty.write? 0 t).map String.ofList

end SlideConverter.Json
