import SlideConverter.Machine.Utility

/-!
# Executable files

What a file has to hold so that it can be launched. A script names its interpreter in
its first line. A native program is one that the machine brings along; its file holds
a mark that no text begins with, and the name of the program.
-/

namespace SlideConverter

open Text

inductive Executable where
  | native (name : String)
  | script (interpreter : Path) (option : Option String)
deriving DecidableEq

namespace Executable

def nativeMark : UInt8 := 0x7F

def nativeFile (name : String) : Node := .file (nativeMark :: Utf8.encode name) true

def isBlank (b : UInt8) : Bool := b = 0x20 || b = 0x09

def newline : UInt8 := 0x0A

def trim (line : Bytes) : Bytes := ((line.dropWhile isBlank).reverse.dropWhile isBlank).reverse

/-- Behind the interpreter, the rest of the line is one option. -/
def ofFirstLine? (line : Bytes) : Option Executable :=
  let line := trim line
  let interpreter := line.takeWhile (!isBlank ·)
  let option := trim (line.drop interpreter.length)
  if interpreter.isEmpty then none
  else
    let option := if option.isEmpty then none else some (Utf8.decodeLossy option)
    some (.script ⟨interpreter⟩ option)

def ofContent? : Bytes → Option Executable
  | 0x23 :: 0x21 :: rest => ofFirstLine? (rest.takeWhile (· ≠ newline))
  | b :: name => if b = nativeMark then (Utf8.decode? name).map .native else none
  | [] => none

/-- How many interpreters may stand behind each other. -/
def interpreterLimit : Nat := 5

/-- The native program that has to run so that the file at `path` runs, and its arguments. -/
def resolve : Nat → Path → List String → Routine (Except SystemError (String × List String))
  | 0, _, _ => return .error .linkLoop
  | limit + 1, path, arguments => do
    match ← Routine.request (.look path) with
    | .error cause => return .error cause
    | .ok (.file content true) =>
      match ofContent? content with
      | none => return .error .badFormat
      | some (.native name) => return .ok (name, arguments)
      | some (.script interpreter option) =>
        resolve limit interpreter (option.toList ++ path.display :: arguments)
    | .ok _ => return .error .denied

def directory : Path := .ofString "/usr/bin"

/-- Programs that are named without a slash are looked for in one directory. -/
def pathOf (program : String) : Path :=
  let path := Path.ofString program
  if path.bytes.contains Path.slash then path else directory.join path

def find (program : String) (arguments : List String) :
    Routine (Except SystemError (String × List String)) :=
  if (program :: arguments).any (·.toList.contains '\x00') then return .error .zeroInArgument
  else if program.isEmpty then return .error .missing
  else resolve interpreterLimit (pathOf program) arguments

end Executable

end SlideConverter
