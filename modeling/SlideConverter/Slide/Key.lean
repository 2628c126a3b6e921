import SlideConverter.Text.CaseFolding
import SlideConverter.Text.DecimalDigit

/-!
# The number in a frame's name

A frame is named by a stem, a dash, a number, a dot and an extension; stem and
extension count up to case. Their lengths are known, so a name can be cut in one
way only. Names that are cut in no way have key 0, and a number beyond 64 bits, or
in digits that are not ASCII, has the largest key.
-/

namespace SlideConverter

open Text

structure SlidePattern where
  stem : String
  extension : String

namespace SlidePattern

def largestKey : Nat := UInt64.size - 1

/-- What is left of a text behind `pattern`, compared up to case. -/
def dropSame : List Char → List Char → Option (List Char)
  | [], rest => some rest
  | _ :: _, [] => none
  | p :: pattern, c :: text => if CaseFolding.same p c then dropSame pattern text else none

/-- The digits between stem and extension, if `name` has the form of a frame's name. -/
def digits? (pattern : SlidePattern) (name : String) : Option (List Char) :=
  match dropSame (pattern.stem.toList ++ ['-']) name.toList with
  | none => none
  | some rest =>
    match dropSame (pattern.extension.toList.reverse ++ ['.']) rest.reverse with
    | none => none
    | some reversed =>
      if reversed.isEmpty || !reversed.all isDecimalDigit then none else some reversed.reverse

def key (pattern : SlidePattern) (name : String) : Nat :=
  match pattern.digits? name with
  | none => 0
  | some digits =>
    match asciiNumber? digits with
    | some n => min n largestKey
    | none => largestKey

end SlidePattern

end SlideConverter
