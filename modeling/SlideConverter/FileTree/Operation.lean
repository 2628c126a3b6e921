import SlideConverter.FileTree.Walk

/-!
# Reading and changing a file tree

Each operation acts as the system call, or the short run of system calls, that it is
named for. One that can fail half-way hands back the tree it leaves behind together
with its answer; the others leave the tree alone when they fail. Who may do what is
not modelled: every operation is allowed.
-/

namespace SlideConverter.FileTree

open Text

/-- The answer of an operation with the tree that it leaves behind. -/
abbrev Outcome := Except SystemError Unit × FileTree

def outcome (t : FileTree) : Except SystemError FileTree → Outcome
  | .ok changed => (.ok (), changed)
  | .error cause => (.error cause, t)

def read (t : FileTree) (path : Path) : Except SystemError Bytes := do
  match ← t.lookUp .existing path with
  | (_, .file content _) => .ok content
  | _ => .error .isDirectory

def list (t : FileTree) (path : Path) : Except SystemError (List Bytes) := do
  match ← t.lookUp .existing path with
  | (place, .directory) => .ok (t.names place)
  | _ => .error .notDirectory

/-- The only path to the same place that has no links, no dots and no needless slashes. -/
def canonical (t : FileTree) (path : Path) : Except SystemError Path := do
  let (place, _) ← t.lookUp .existing path
  .ok ⟨Path.slash :: Path.joinParts place⟩

/-- Let relative paths begin at the directory that `path` leads to. -/
def enter (t : FileTree) (path : Path) : Except SystemError FileTree := do
  match ← t.lookUp .existing path with
  | (place, .directory) => .ok { t with current := place }
  | _ => .error .notDirectory

/-- Make a file empty, or make an empty one. -/
def createFile (t : FileTree) (path : Path) : Except SystemError FileTree := do
  let place ← t.locate .target path
  match t.node? place with
  | some (.file _ executable) => .ok (t.put place (.file [] executable))
  | none => .ok (t.put place (.file [] false))
  | some _ => .error .isDirectory

/-- Make an empty file where nothing is, not even a link. -/
def createNewFile (t : FileTree) (path : Path) : Except SystemError FileTree := do
  let place ← t.locate .vacancy path
  match t.node? place with
  | none => .ok (t.put place (.file [] false))
  | some _ => .error .exists

def append (t : FileTree) (path : Path) (more : Bytes) : Except SystemError FileTree := do
  let place ← t.locate .target path
  match t.node? place with
  | some (.file content executable) => .ok (t.put place (.file (content ++ more) executable))
  | none => .ok (t.put place (.file more false))
  | some _ => .error .isDirectory

/-- Put `content` in place of what a file holds. -/
def write (t : FileTree) (path : Path) (content : Bytes) (executable : Bool) :
    Except SystemError FileTree := do
  let place ← t.locate .target path
  match t.node? place with
  | some .directory | some (.link _) => .error .isDirectory
  | _ => .ok (t.put place (.file content executable))

def makeLink (t : FileTree) (path target : Path) : Except SystemError FileTree := do
  let place ← t.locate .vacancy path
  match t.node? place with
  | none => .ok (t.put place (.link target))
  | some _ => .error .exists

/-- The target is emptied before the source is read, which shows when they are the same file. -/
def copy (t : FileTree) (source target : Path) : Except SystemError FileTree := do
  match ← t.lookUp .existing source with
  | (origin, .file content executable) =>
    let place ← t.locate .target target
    match t.node? place with
    | some .directory | some (.link _) => .error .isDirectory
    | _ => .ok (t.put place (.file (if place = origin then [] else content) executable))
  | _ => .error .irregularSource

def removeFile (t : FileTree) (path : Path) : Except SystemError FileTree := do
  let (parts, trailing) := withoutTrailing path
  let place ← t.locateParts .itself path parts
  match t.node? place with
  | none => .error .missing
  | some .directory => .error .isDirectory
  | some _ => if trailing then .error .notDirectory else .ok (t.erase place)

/-- Every name but an unused one is taken, those of links that lead nowhere included. -/
def makeDirectory (t : FileTree) (path : Path) : Except SystemError FileTree := do
  let place ← t.locateParts .vacancy path (withoutTrailing path).1
  match t.node? place with
  | none => .ok (t.put place .directory)
  | some _ => .error .exists

/-- Remove an empty directory. -/
def removeDirectory (t : FileTree) (path : Path) : Except SystemError FileTree := do
  let parts := (withoutTrailing path).1
  let place ← t.locateParts .itself path parts
  match parts.getLast?, t.node? place with
  | none, _ => .error .busy
  | some last, node =>
    if last = [Path.dot] then .error .invalid
    else if last = [Path.dot, Path.dot] then .error .notEmpty
    else
      match node with
      | none => .error .missing
      | some .directory => if (t.names place).isEmpty then .ok (t.erase place) else .error .notEmpty
      | some _ => .error .notDirectory

/-- All that is below goes first, and then the directory itself. A link is removed and not
followed. -/
def removeDirectoryAll (t : FileTree) (path : Path) : Outcome :=
  match t.lookUp .itself path with
  | .error cause => (.error cause, t)
  | .ok (_, .link _) => t.outcome (t.removeFile path)
  | .ok (_, .file _ _) => (.error .notDirectory, t)
  | .ok (place, .directory) =>
    let emptied := t.eraseBelow place
    match emptied.removeDirectory path with
    | .error .missing => (.ok (), emptied)
    | result => emptied.outcome result

/-- `other` as it is called once `place` is called `target`. -/
def relocated (place target other : Location) : Location :=
  if place.isPrefixOf other then target ++ other.drop place.length else other

/-- A new name for what is at `source`; a file or an empty directory in the way is replaced. -/
def rename (t : FileTree) (source target : Path) : Except SystemError FileTree := do
  let (place, node) ← t.lookUp .itself source
  let goal ← t.locateParts .vacancy target (withoutTrailing target).1
  if goal = place then .ok t
  else if isBelow place goal then .error .invalid
  else
    let move : FileTree :=
      let cleared := t.erase goal
      let moved := cleared.entries.map fun (other, n) => (relocated place goal other, n)
      { cleared with entries := moved }
    match node, t.node? goal with
    | _, none => .ok move
    | .directory, some .directory =>
      if (t.names goal).isEmpty then .ok move else .error .notEmpty
    | .directory, some _ => .error .notDirectory
    | _, some .directory => .error .isDirectory
    | _, some _ => .ok move

/-- Remove whatever is at `path`, with all that is below it. -/
def remove (t : FileTree) (path : Path) : Outcome :=
  match t.lookUp .itself path with
  | .ok (_, .directory) => t.removeDirectoryAll path
  | _ => t.outcome (t.removeFile path)

/-- Make the first of `paths`, where each path is the parent of the one before it; the
others are made first where they are missing. -/
def makeFirst (t : FileTree) : List Path → Outcome
  | [] => (.error .missing, t)
  | path :: ancestors =>
    if path.bytes.isEmpty then (.ok (), t)
    else
      let unlessThere (t : FileTree) (cause : SystemError) : Outcome :=
        if t.isDirectory path then (.ok (), t) else (.error cause, t)
      match t.makeDirectory path with
      | .ok made => (.ok (), made)
      | .error .missing =>
        match makeFirst t ancestors with
        | (.error cause, t) => (.error cause, t)
        | (.ok _, t) =>
          match t.makeDirectory path with
          | .ok made => (.ok (), made)
          | .error cause => unlessThere t cause
      | .error cause => unlessThere t cause

/-- A directory with all the directories on the way to it. -/
def makeDirectoryAll (t : FileTree) (path : Path) : Outcome := t.makeFirst path.lineage

/-- All that is below `place`, by path from there. -/
def contents (t : FileTree) (place : Location) : List (Path × Node) :=
  (t.entries.filter fun e => isBelow place e.1).map fun (other, node) =>
    (⟨Path.joinParts (other.drop place.length)⟩, node)

end SlideConverter.FileTree
