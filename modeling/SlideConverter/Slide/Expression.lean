import SlideConverter.Conversion.Error
import SlideConverter.Slide.Key

/-!
# The expression of a pattern

Frames are told by a regular expression made of stem and extension. What compiles it is no
part of this library, and may refuse it; nothing but its size speaks against one that is
made here.
-/

namespace SlideConverter

namespace SlidePattern

/-- What stands for something else in a regular expression. -/
def metacharacters : List Char :=
  ['\\', '.', '+', '*', '?', '(', ')', '|', '[', ']', '\x7b', '\x7d', '^', '$', '#', '&', '-', '~']

def escape (s : String) : String :=
  String.ofList (s.toList.flatMap fun c => if metacharacters.contains c then ['\\', c] else [c])

def expression (p : SlidePattern) : String :=
  "(?i)^" ++ escape p.stem ++ "-(\\d+)\\." ++ escape p.extension ++ "$"

end SlidePattern

/-- What compiles regular expressions: `none` for one that it takes, or why it does not. -/
structure PatternCompiler where
  refusal? : String → Option String

namespace PatternCompiler

/-- Why a pattern cannot be used. -/
def refuses? (compiler : PatternCompiler) (p : SlidePattern) : Option ErrorChain :=
  (compiler.refusal? p.expression).map fun cause =>
    (⟨[cause]⟩ : ErrorChain).context ("slide pattern: " ++ p.expression)

/-- How many bytes a compiled expression may take. -/
def sizeLimit : Nat := 10485760

/-- The bytes that a character takes at least: those of a state, or of two states with two ways
between them for a letter, which is matched in either case. -/
def footprint (c : Char) : Nat := if c.isAlpha then 80 else 32

/-- The bytes that characters take together. -/
def size (s : String) : Nat := s.toList.foldl (fun bytes c => bytes + footprint c) 0

/-- Refuses expressions whose characters alone take too much. -/
def standard : PatternCompiler where
  refusal? expression :=
    if size expression > sizeLimit then
      some ("Compiled regex exceeds size limit of " ++ toString sizeLimit ++ " bytes.")
    else none

end PatternCompiler

end SlideConverter
