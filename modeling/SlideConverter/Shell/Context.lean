import SlideConverter.Machine.Program
import SlideConverter.Shell.Command
import SlideConverter.Shell.Pattern

/-!
# What a shell knows

Variables, positional parameters and the status of the last command, and how far a
parameter can be expanded without running anything. An expansion gives fragments;
gaps between them are where one field ends and the next one begins.
-/

namespace SlideConverter.Shell

open Text

structure Context where
  bindings : List (List Char × List Char) := []
  /-- What the script is called. -/
  name : List Char := []
  arguments : List (List Char) := []
  last : UInt8 := 0
  input : Bytes := []

inductive Fragment where
  | chars (chars : List Char) (quoted : Bool)
  | gap
deriving DecidableEq

def isBlank (c : Char) : Bool := c = ' ' || c = '\t' || c = '\n'

/-- A value that was not quoted has gaps at its blanks. -/
def splitBlanks (chars : List Char) : List Fragment :=
  chars.map fun c => if isBlank c then .gap else .chars [c] false

def withGaps : List (List Fragment) → List Fragment
  | [] => []
  | [fragments] => fragments
  | fragments :: rest => fragments ++ .gap :: withGaps rest

def fieldsFrom (current : Option (List (Char × Bool))) : List Fragment → List (List (Char × Bool))
  | [] => current.toList
  | .gap :: rest => current.toList ++ fieldsFrom none rest
  | .chars chars quoted :: rest =>
    if chars.isEmpty && !quoted then fieldsFrom current rest
    else fieldsFrom (some (current.getD [] ++ chars.map (·, quoted))) rest

/-- Each field as characters that know whether they were quoted. -/
def fields (fragments : List Fragment) : List (List (Char × Bool)) := fieldsFrom none fragments

def plain (field : List (Char × Bool)) : List Char := field.map (·.1)

/-- All fragments as one field, with a blank for each gap. -/
def joined (fragments : List Fragment) : List (Char × Bool) :=
  fragments.flatMap fun
    | .gap => [(' ', true)]
    | .chars chars quoted => chars.map (·, quoted)

def digitsOf (n : Nat) : List Char := (toString n).toList

/-- The number of a shell's own process, as far as its script can tell. -/
def ownProcess : List Char := digitsOf 4242

/-- The number of the process that the shell was started by. -/
def parentProcess : List Char := digitsOf 4241

namespace Context

def joinedArguments (x : Context) : List Char :=
  (x.arguments.intersperse [' ']).flatten

def value? (x : Context) (name : List Char) : Option (List Char) :=
  match name with
  | ['@'] | ['*'] => some x.joinedArguments
  | ['#'] => some (digitsOf x.arguments.length)
  | ['?'] => some (digitsOf x.last.toNat)
  | ['$'] => some ownProcess
  | ['!'] | ['-'] => some []
  | ['0'] => some x.name
  | _ =>
    match (String.ofList name).toNat? with
    | some n => if n = 0 then none else x.arguments[n - 1]?
    | none => (x.bindings.find? (·.1 = name)).map (·.2)

def set (x : Context) (name value : List Char) : Context :=
  { x with bindings := (name, value) :: x.bindings.filter (·.1 ≠ name) }

/-- Every positional parameter is a field of its own where all are meant. -/
def parameter (x : Context) (name : List Char) (quoted : Bool) : List Fragment :=
  if name = ['@'] && quoted then withGaps (x.arguments.map fun a => [.chars a true])
  else if (name = ['@'] || name = ['*']) && !quoted then withGaps (x.arguments.map splitBlanks)
  else
    match x.value? name with
    | none => if quoted then [.chars [] true] else []
    | some v => if quoted then [.chars v true] else splitBlanks v

/-- Empty quotes around nothing but missing positional parameters are no field. -/
def withoutEmptyQuotes (x : Context) (w : Word) : Word :=
  if x.arguments.isEmpty && w.contains (.parameter ['@'] true) then
    w.filter (· ≠ .text [] true)
  else w

end Context

/-- What stands in braces behind a dollar sign. -/
inductive Braces where
  | length (name : List Char)
  | plain (name : List Char)
  | edited (name operator : List Char) (word : Word)

def splitName (source : List Char) : List Char × List Char :=
  match source with
  | c :: rest =>
    if Lexer.isNameStart c then
      let name := source.takeWhile Lexer.isNameChar
      (name, source.drop name.length)
    else if c.isDigit then
      let name := source.takeWhile Char.isDigit
      (name, source.drop name.length)
    else if Lexer.isSpecialParameter c then ([c], rest)
    else ([], source)
  | [] => ([], [])

def operators : List (List Char) :=
  [":-", ":=", ":+", ":?", "%%", "##", "-", "=", "+", "?", "%", "#"].map String.toList

def bracesOf (source : List Char) : Option Braces :=
  match source with
  | '#' :: c :: rest => some (.length (c :: rest))
  | _ =>
    let (name, rest) := splitName source
    if name.isEmpty then none
    else if rest.isEmpty then some (.plain name)
    else
      (operators.find? (·.isPrefixOf rest)).map fun operator =>
        .edited name operator (wordOf (rest.drop operator.length))

end SlideConverter.Shell
