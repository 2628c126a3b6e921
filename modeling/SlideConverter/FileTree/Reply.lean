import SlideConverter.Conversion.Surroundings
import SlideConverter.FileTree.Operation

/-!
# A file tree answers

What a conversion asks of the disk, answered by a file tree. An error says first what
was attempted, and on which path.
-/

namespace SlideConverter.FileTree

open Text

def refused (attempt : String) (cause : SystemError) : ErrorChain := ⟨[attempt, cause.message]⟩

def attempted {α : Type} (attempt : String) : Except SystemError α → Reply α
  | .ok a => .ok a
  | .error cause => .error (refused attempt cause)

def checkReadable (t : FileTree) (path : Path) : Reply Unit :=
  match t.lookUp .existing path with
  | .error cause => .error (refused ("stat " ++ path.display) cause)
  | .ok (_, .file _ _) => .ok ()
  | .ok _ => .error ⟨["not a regular file: " ++ path.display]⟩

def isEmptyDirectory (t : FileTree) (path : Path) : Reply Bool :=
  attempted ("read_dir " ++ path.display) ((t.list path).map List.isEmpty)

def listDirectory (t : FileTree) (path : Path) : Reply (List Path) :=
  attempted ("read_dir " ++ path.display) ((t.list path).map (·.map fun name => path.join ⟨name⟩))

/-- An answer with the tree after it. -/
def attempting (attempt : String) (o : Outcome) : Reply Unit × FileTree :=
  (attempted attempt o.1, o.2)

def marker : Path := .ofString ".slidepush-write-check"

/-- A marker is made and removed again. -/
def checkWritable (t : FileTree) (path : Path) : Reply Unit × FileTree :=
  let marker := path.join marker
  match t.createNewFile marker with
  | .error cause => (.error (refused ("directory not writable: " ++ path.display) cause), t)
  | .ok made =>
    attempting ("remove_file " ++ marker.display) (made.outcome (made.removeFile marker))

def ensureDirectory (t : FileTree) (path : Path) : Reply Unit × FileTree :=
  attempting ("create_dir_all " ++ path.display) (t.makeDirectoryAll path)

def copyFile (t : FileTree) (source target : Path) : Reply Unit × FileTree :=
  attempting ("copy " ++ source.display ++ " -> " ++ target.display)
    (t.outcome (t.copy source target))

def discardFile (t : FileTree) (path : Path) : Reply Unit × FileTree :=
  attempting ("remove_file " ++ path.display) (t.outcome (t.removeFile path))

def discardDirectory (t : FileTree) (path : Path) : Reply Unit × FileTree :=
  attempting ("remove_dir_all " ++ path.display) (t.removeDirectoryAll path)

/-- A tree by itself: nothing can be started on it, and no time passes. -/
def answer (question : Question) (t : FileTree) : question.Answer × FileTree :=
  match question with
  | .pathExists path => (t.pathExists path, t)
  | .checkReadable path => (t.checkReadable path, t)
  | .isEmptyDir path => (t.isEmptyDirectory path, t)
  | .checkWritable path => t.checkWritable path
  | .listDir path => (t.listDirectory path, t)
  | .createDirAll path => t.ensureDirectory path
  | .copy source target => t.copyFile source target
  | .removeFile path => t.discardFile path
  | .removeDirAll path => t.discardDirectory path
  | .launch invocation => (.error ⟨["spawning " ++ invocation.program]⟩, t)
  | .tryWait _ => (.ok none, t)
  | .kill _ => (.ok (), t)
  | .clock => (⟨0⟩, t)
  | .sleep _ => ((), t)

def surroundings : Surroundings FileTree where
  answer := answer

def canonicalize (t : FileTree) (path : Path) : Reply Path :=
  attempted ("canonicalize " ++ path.display) (t.canonical path)

end SlideConverter.FileTree
