import SlideConverter.Text.Ascii
import SlideConverter.Text.Blank
import SlideConverter.Text.DecimalDigit

/-!
# Which records are logged

A filter is a list of directives with commas between them: a level for all targets, a
target, or a level for a target and all targets that begin with it. The longest target
that fits decides; the same target given again replaces the first. Directives that make
no sense are passed over. A filter without any directive lets errors through.
-/

namespace SlideConverter.CommandLine

open Text

inductive LogLevel where
  | error
  | warn
  | info
  | debug
  | trace
deriving DecidableEq

def LogLevel.rank : LogLevel → Nat
  | .error => 1
  | .warn => 2
  | .info => 3
  | .debug => 4
  | .trace => 5

def LogLevel.name : LogLevel → String
  | .error => "ERROR"
  | .warn => "WARN"
  | .info => "INFO"
  | .debug => "DEBUG"
  | .trace => "TRACE"

structure LogRecord where
  level : LogLevel
  target : String
  message : String
deriving DecidableEq

/-- The highest rank of the records that a directive lets through. -/
abbrev Verbosity := Nat

inductive Directive where
  | all (verbosity : Verbosity)
  | target (target : List Char) (verbosity : Verbosity)
  /-- For records inside spans of time, of which there are none. -/
  | span
deriving DecidableEq

def mostVerbose : Verbosity := LogLevel.trace.rank

def levelNames : List (String × Verbosity) :=
  [("off", 0), ("error", 1), ("warn", 2), ("info", 3), ("debug", 4), ("trace", 5)]

/-- A level by its name or its number. -/
def verbosity? (word : List Char) : Option Verbosity :=
  let digits := match word with
    | '+' :: digits => digits
    | digits => digits
  match asciiNumber? digits with
  | some n => if n ≤ mostVerbose then some n else none
  | none =>
    (levelNames.find? fun (name, _) => sameIgnoringAsciiCase name (String.ofList word)).map (·.2)

/-- Beyond ASCII, every character may begin a target. -/
def beginsTarget (c : Char) : Bool :=
  c.isAlphanum || ['-', ':', '_'].contains c || c.toNat ≥ 0x80

def endsTarget (c : Char) : Bool := c = '=' || c = '['

/-- What follows the brackets of a span. -/
def spanDirective? (afterBracket : List Char) : Option Directive :=
  match afterBracket.dropWhile (· ≠ ']') with
  | [']'] => some .span
  | ']' :: '=' :: level => if level.isEmpty || (verbosity? level).isSome then some .span else none
  | _ => none

/-- Blanks around a level keep it from being one. -/
def directive? (written : List Char) : Option Directive :=
  match trimBlanks written with
  | [] => none
  | '[' :: rest => spanDirective? rest
  | c :: rest =>
    if beginsTarget c then
      let chars := c :: rest
      let target := chars.takeWhile (!endsTarget ·)
      match chars.drop target.length with
      | [] => some ((verbosity? written).elim (.target written mostVerbose) .all)
      | '=' :: level =>
        if written.length ≠ chars.length then none
        else if level.isEmpty then some (.target target mostVerbose)
        else (verbosity? level).map (.target target)
      | _ :: rest => spanDirective? rest
    else none

structure LogFilter where
  directives : List Directive
deriving DecidableEq

namespace LogFilter

def splitCommas : List Char → List (List Char)
  | [] => [[]]
  | c :: rest =>
    if c = ',' then [] :: splitCommas rest
    else
      match splitCommas rest with
      | [] => [[c]]
      | part :: parts => (c :: part) :: parts

def ofDirectives (directives : List Directive) : LogFilter where
  directives := if directives.isEmpty then [.all LogLevel.error.rank] else directives

def ofString (s : String) : LogFilter := ofDirectives ((splitCommas s.toList).filterMap directive?)

/-- Only if all directives make sense. -/
def ofString? (s : String) : Option LogFilter :=
  (((splitCommas s.toList).filter (!·.isEmpty)).mapM directive?).map ofDirectives

/-- How long the target of a directive is that fits `target`, and what it lets through; a
directive for all targets comes after every target. -/
def fit? (target : List Char) : Directive → Option (Nat × Verbosity)
  | .all verbosity => some (0, verbosity)
  | .target own verbosity =>
    if own.isPrefixOf target then some (own.length + 1, verbosity) else none
  | .span => none

/-- Of two directives that fit equally well the later one counts. -/
def verbosity (f : LogFilter) (target : String) : Verbosity :=
  ((f.directives.filterMap (fit? target.toList)).foldl
    (fun best next => if best.1 ≤ next.1 then next else best) (0, 0)).2

def lets (f : LogFilter) (r : LogRecord) : Bool := r.level.rank ≤ f.verbosity r.target

end LogFilter

end SlideConverter.CommandLine
