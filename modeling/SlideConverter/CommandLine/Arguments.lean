import SlideConverter.Path

/-!
# Arguments

What may stand on the command line: options of the program, a command, and options of
the command. An option has its value behind an equals sign or as the next argument,
where it may not look like an option. Whether a value is acceptable, and that an option
is given once, is found out when the next option comes, or at the end; so a request for
help only counts if all before it was in order, but an option of the program that still
waits does not stand in the way of a command that asks for help.
-/

namespace SlideConverter.CommandLine

open Text

inductive Command where
  | doctor
  | classify (input : Path)
  | convert (input : Path) (workDir : Option Path)
deriving DecidableEq

structure Arguments where
  command : Command
  config : Option Path := none
  logLevel : Option String := none
deriving DecidableEq

inductive Request where
  | run (arguments : Arguments)
  | help
  | refused
deriving DecidableEq

inductive ValueKind where
  | path
  | text
deriving DecidableEq

/-- Options that may be given, by name. -/
abbrev Options := List (String × ValueKind)

/-- The empty path is none, and a text has to be text. -/
def ValueKind.accepts (kind : ValueKind) (value : Bytes) : Bool :=
  match kind with
  | .path => !value.isEmpty
  | .text => (Utf8.decode? value).isSome

/-- The option read last, which has yet to be looked at, and those that were in order. -/
structure Given where
  pending : Option (String × ValueKind × Option Bytes) := none
  values : List (String × Bytes) := []

namespace Given

def value? (g : Given) (name : String) : Option Bytes := (g.values.find? (·.1 = name)).map (·.2)

/-- Look at the option read last. -/
def settle (g : Given) : Option Given :=
  match g.pending with
  | none => some g
  | some (_, _, none) => none
  | some (name, kind, some value) =>
    if (g.value? name).isSome || !kind.accepts value then none
    else some { values := (name, value) :: g.values }

def awaits (g : Given) : Bool := g.pending.any (·.2.2.isNone)

def fill (g : Given) (value : Bytes) : Given :=
  { g with pending := g.pending.map fun (name, kind, _) => (name, kind, some value) }

end Given

/-- Where reading options ended. -/
inductive Reading where
  | atEnd (given : Given)
  | atWord (word : Bytes) (given : Given) (rest : List Bytes)
  | help
  | refused

def dash : UInt8 := 0x2D

def equals : UInt8 := 0x3D

inductive Shape where
  | separator
  | long (name : Bytes) (value : Option Bytes)
  | short (letters : Bytes)
  | word

def shapeOf (argument : Bytes) : Shape :=
  match argument with
  | a :: b :: rest =>
    if a ≠ dash then .word
    else if b ≠ dash then .short (b :: rest)
    else if rest.isEmpty then .separator
    else
      let name := rest.takeWhile (· ≠ equals)
      .long name ((rest.drop name.length).head?.map fun _ => rest.drop (name.length + 1))
  | _ => .word

def helpLetter : UInt8 := 0x68

/-- The option of that name, if its value may follow. -/
def option? (options : Options) (name : Bytes) : Option (String × ValueKind) :=
  options.find? fun (known, _) => Utf8.encode known = name

def askHelp (g : Given) : Reading := if g.settle.isSome then .help else .refused

/-- Reads options up to a word that is no value, or up to the end. -/
def readOptions (options : Options) (g : Given) : List Bytes → Reading
  | [] => .atEnd g
  | argument :: rest =>
    match shapeOf argument with
    | .separator => if rest.isEmpty then .atEnd g else .refused
    | .short letters => if letters.head? = some helpLetter then askHelp g else .refused
    | .word =>
      if g.awaits then readOptions options (g.fill argument) rest else .atWord argument g rest
    | .long name value =>
      if name = Utf8.encode "help" then if value.isNone then askHelp g else .refused
      else
        match option? options name, g.settle with
        | some (known, kind), some g =>
          match value with
          | none => readOptions options { g with pending := some (known, kind, none) } rest
          | some v =>
            match ({ g with pending := some (known, kind, some v) } : Given).settle with
            | some g => readOptions options g rest
            | none => .refused
        | _, _ => .refused

def programOptions : Options := [("config", .path), ("log-level", .text)]

def commandNames : List String := ["doctor", "classify", "convert", "help"]

def commandOptions : String → Options
  | "classify" => [("input", .path)]
  | "convert" => [("input", .path), ("work-dir", .path)]
  | _ => []

def pathValue? (g : Given) (name : String) : Option Path := (g.value? name).map Path.mk

def command? (name : String) (g : Given) : Option Command :=
  match name with
  | "doctor" => some .doctor
  | "classify" => (pathValue? g "input").map .classify
  | "convert" => (pathValue? g "input").map fun input => .convert input (pathValue? g "work-dir")
  | _ => none

/-- Help with a command, if it is one. -/
def helpWith (names : List Bytes) : Request :=
  match names with
  | [] => .help
  | [name] => if commandNames.any (Utf8.encode · = name) then .help else .refused
  | _ => .refused

/-- The command's own options, and then those of the program that still wait. -/
def readCommand (name : String) (outer : Given) (rest : List Bytes) : Request :=
  match readOptions (commandOptions name) {} rest with
  | .help => .help
  | .refused | .atWord _ _ _ => .refused
  | .atEnd inner =>
    match (inner.settle.bind (command? name)), outer.settle with
    | some command, some outer =>
      .run { command
             config := pathValue? outer "config"
             logLevel := (outer.value? "log-level").bind Utf8.decode? }
    | _, _ => .refused

def read (arguments : List Bytes) : Request :=
  match readOptions programOptions {} arguments with
  | .help => .help
  | .refused | .atEnd _ => .refused
  | .atWord word outer rest =>
    match commandNames.find? (Utf8.encode · = word) with
    | none => .refused
    | some "help" => helpWith rest
    | some name => readCommand name outer rest

end SlideConverter.CommandLine
