import SlideConverter.FileTree.Basic

/-!
# Walking along a path

A path is walked part by part. Only directories can be walked through; links on the
way are followed, but no more than `linkLimit` of them in one walk. What happens at
the end depends on what the caller wants there (`Ending`). The empty path leads
nowhere, and a slash at the end asks for a directory.
-/

namespace SlideConverter.FileTree

open Text

def linkLimit : Nat := 40

def nameLimit : Nat := 255

def pathLimit : Nat := 4095

structure Ending where
  /-- Whether a link at the end is followed. -/
  followsLink : Bool
  /-- Whether there may be nothing at the end. -/
  mayBeMissing : Bool

namespace Ending

def existing : Ending := { followsLink := true, mayBeMissing := false }

def itself : Ending := { followsLink := false, mayBeMissing := false }

/-- For a file that is made if it is not there. -/
def target : Ending := { followsLink := true, mayBeMissing := true }

/-- For something that must not be there yet. -/
def vacancy : Ending := { followsLink := false, mayBeMissing := true }

end Ending

inductive Walk where
  | arrived (place : Location)
  /-- At a link inside the directory `place`, with `rest` still to go. -/
  | diverted (place : Location) (target : Path) (rest : List Bytes)
  | stuck (cause : SystemError)

def isSilent (part : Bytes) : Bool := part = [] || part = [Path.dot]

/-- One walk without following any link. -/
def walk (t : FileTree) (ending : Ending) (place : Location) : List Bytes → Walk
  | [] => .arrived place
  | part :: rest =>
    match t.node? place with
    | some .directory =>
      if isSilent part then walk t ending place rest
      else if part = [Path.dot, Path.dot] then walk t ending place.dropLast rest
      else if ending.followsLink && ending.mayBeMissing && !rest.isEmpty
          && rest.all (·.isEmpty) then
        .stuck .isDirectory
      else if part.length > nameLimit then .stuck .nameTooLong
      else
        match t.node? (place ++ [part]) with
        | none =>
          if ending.mayBeMissing && rest.isEmpty then .arrived (place ++ [part])
          else .stuck .missing
        | some (.link target) =>
          if rest.isEmpty && !ending.followsLink then .arrived (place ++ [part])
          else .diverted place target rest
        | some _ => walk t ending (place ++ [part]) rest
    | some _ => .stuck .notDirectory
    | none => .stuck .missing

def origin (base : Location) (path : Path) : Location := if path.isAbsolute then [] else base

def walkLinks (t : FileTree) (ending : Ending) :
    Nat → Location → List Bytes → Except SystemError Location
  | links, place, parts =>
    match t.walk ending place parts with
    | .arrived place => .ok place
    | .stuck cause => .error cause
    | .diverted place target rest =>
      match links with
      | 0 => .error .linkLoop
      | links + 1 =>
        walkLinks t ending links (origin place target) (Path.splitSlashes target.bytes ++ rest)

/-- A path that may be walked at all. -/
def checkPath (path : Path) : Except SystemError Unit :=
  if path.bytes.contains 0 then .error .zeroInPath
  else if path.bytes.isEmpty then .error .missing
  else if path.bytes.length > pathLimit then .error .nameTooLong
  else .ok ()

def locateParts (t : FileTree) (ending : Ending) (path : Path) (parts : List Bytes) :
    Except SystemError Location := do
  checkPath path
  t.walkLinks ending linkLimit (origin t.current path) parts

def locate (t : FileTree) (ending : Ending) (path : Path) : Except SystemError Location :=
  t.locateParts ending path (Path.splitSlashes path.bytes)

/-- What is at the end of `path`, with its location. -/
def lookUp (t : FileTree) (ending : Ending) (path : Path) :
    Except SystemError (Location × Node) := do
  let place ← t.locate ending path
  match t.node? place with
  | some node => .ok (place, node)
  | none => .error .missing

def pathExists (t : FileTree) (path : Path) : Bool := (t.lookUp .existing path).toBool

def isDirectory (t : FileTree) (path : Path) : Bool :=
  match t.lookUp .existing path with
  | .ok (_, .directory) => true
  | _ => false

def isFile (t : FileTree) (path : Path) : Bool :=
  match t.lookUp .existing path with
  | .ok (_, .file _ _) => true
  | _ => false

/-- The parts of a path without the empty ones at its end, and whether there were any. -/
def withoutTrailing (path : Path) : List Bytes × Bool :=
  let parts := Path.splitSlashes path.bytes
  let kept := (parts.reverse.dropWhile (·.isEmpty)).reverse
  (kept, kept.length < parts.length)

end SlideConverter.FileTree
