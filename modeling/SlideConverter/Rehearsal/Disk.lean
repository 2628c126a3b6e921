import SlideConverter.Conversion.Surroundings

/-!
# A make-believe disk

A list of entries in the order in which they were made, each a path with a mark for
directories. Paths are compared as plain bytes, so nothing is resolved. Operations
can be told to fail, and the listing of a directory can be replaced.
-/

namespace SlideConverter.Rehearsal

open Text

structure Entry where
  path : Path
  isDir : Bool
deriving DecidableEq

/-- The operations that can be told to fail. -/
inductive Operation where
  | checkReadable
  | isEmptyDir
  | checkWritable
  | listDir
  | createDirAll
  | copy
  | removeFile
  | removeDirAll
deriving DecidableEq

structure Disk where
  entries : List Entry := []
  failing : List (Operation × ErrorChain) := []
  listing : Option (List Path) := none

namespace Disk

def find? (d : Disk) (path : Path) : Option Entry := d.entries.find? (·.path = path)

/-- An entry that is there already stays as it is. -/
def add (d : Disk) (entry : Entry) : Disk :=
  if (d.find? entry.path).isSome then d else { d with entries := d.entries ++ [entry] }

def addAll (d : Disk) (entries : List Entry) : Disk := entries.foldl add d

def below (dir : Path) : Bytes :=
  if dir.bytes.getLast? = some Path.slash then dir.bytes else dir.bytes ++ [Path.slash]

def isBelow (dir : Path) (entry : Entry) : Bool := (below dir).isPrefixOf entry.path.bytes

/-- Below `dir` with nothing in between. -/
def isChild (dir : Path) (entry : Entry) : Bool :=
  let rest := entry.path.bytes.drop (below dir).length
  isBelow dir entry && !rest.isEmpty && !rest.contains Path.slash

def isFile (d : Disk) (path : Path) : Bool := (d.find? path).any (!·.isDir)

def isDir (d : Disk) (path : Path) : Bool := (d.find? path).any (·.isDir)

/-- Remove an entry and all that is below it. -/
def remove (d : Disk) (path : Path) : Disk :=
  { d with entries := d.entries.filter fun e => !(e.path = path || isBelow path e) }

def fail (d : Disk) (operation : Operation) (cause : Option ErrorChain) : Disk :=
  let others := d.failing.filter (·.1 ≠ operation)
  { d with failing := (cause.toList.map (operation, ·)) ++ others }

def refusal (message : String) {α : Type} : Reply α := .error ⟨[message]⟩

/-- An operation with its answer and the disk after it, unless it is told to fail. -/
def attempt {α : Type} (d : Disk) (operation : Operation) (answer : Reply α) (after : Disk) :
    Reply α × Disk :=
  match d.failing.find? (·.1 = operation) with
  | some (_, cause) => (.error cause, d)
  | none =>
    match answer with
    | .ok a => (.ok a, after)
    | .error cause => (.error cause, d)

def checkReadable (d : Disk) (path : Path) : Reply Unit :=
  match d.find? path with
  | none => refusal ("stat " ++ path.display ++ ": not found")
  | some e => if e.isDir then refusal ("not a regular file: " ++ path.display) else .ok ()

def directoryOnly {α : Type} (d : Disk) (path : Path) (call : String) (answer : α) : Reply α :=
  if d.isDir path then .ok answer
  else refusal (call ++ " " ++ path.display ++ ": not a directory")

def listDir (d : Disk) (path : Path) : Reply (List Path) :=
  match d.listing with
  | some entries => .ok entries
  | none => d.directoryOnly path "read_dir" ((d.entries.filter (isChild path)).map (·.path))

def createDirAll (d : Disk) (path : Path) : Reply Unit :=
  if d.isFile path then refusal ("create_dir_all " ++ path.display ++ ": file exists") else .ok ()

def copy (d : Disk) (source target : Path) : Reply Unit :=
  if d.isFile source then .ok ()
  else refusal ("copy " ++ source.display ++ " -> " ++ target.display ++ ": not found")

def removeFile (d : Disk) (path : Path) : Reply Unit :=
  if d.isFile path then .ok () else refusal ("remove_file " ++ path.display ++ ": not found")

end Disk

end SlideConverter.Rehearsal
