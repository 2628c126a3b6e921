/-!
# Patterns of the shell

Texts that stand for many: a star for any text, a question mark for any character,
brackets for one of several. Quoted characters stand for themselves.
-/

namespace SlideConverter.Shell

inductive PatternItem where
  | star
  | any
  | char (c : Char)
  | oneOf (wanted : Bool) (ranges : List (Char × Char))

namespace PatternItem

def accepts (item : PatternItem) (c : Char) : Bool :=
  match item with
  | .star => false
  | .any => true
  | .char d => c = d
  | .oneOf wanted ranges => (ranges.any fun (low, high) => low ≤ c && c ≤ high) == wanted

end PatternItem

abbrev Pattern := List PatternItem

/-- The ranges of a bracket expression. -/
def ranges : List Char → List (Char × Char)
  | low :: '-' :: high :: rest => (low, high) :: ranges rest
  | c :: rest => (c, c) :: ranges rest
  | [] => []

def bracketed : List Char → PatternItem
  | '!' :: set => .oneOf false (ranges set)
  | set => .oneOf true (ranges set)

/-- Characters with a mark for the quoted ones, read as a pattern. -/
def patternOf : Nat → List (Char × Bool) → Pattern
  | 0, _ => []
  | _, [] => []
  | steps + 1, ('*', false) :: rest => .star :: patternOf steps rest
  | steps + 1, ('?', false) :: rest => .any :: patternOf steps rest
  | steps + 1, ('[', false) :: rest =>
    let set := rest.takeWhile (·.1 ≠ ']')
    match rest.drop set.length with
    | [] => .char '[' :: patternOf steps rest
    | _ :: after => bracketed (set.map (·.1)) :: patternOf steps after
  | steps + 1, (c, _) :: rest => .char c :: patternOf steps rest

namespace Pattern

def suffixes : List Char → List (List Char)
  | [] => [[]]
  | c :: rest => (c :: rest) :: suffixes rest

def matches? : Pattern → List Char → Bool
  | [], s => s.isEmpty
  | .star :: items, s => (suffixes s).any (matches? items)
  | item :: items, c :: s => item.accepts c && matches? items s
  | _ :: _, [] => false

/-- Without the shortest, or the longest, beginning that the pattern stands for. -/
def dropStart (longest : Bool) (p : Pattern) (s : List Char) : List Char :=
  let lengths := List.range (s.length + 1)
  match (if longest then lengths.reverse else lengths).find? fun n => p.matches? (s.take n) with
  | some n => s.drop n
  | none => s

/-- Without the shortest, or the longest, end that the pattern stands for. -/
def dropEnd (longest : Bool) (p : Pattern) (s : List Char) : List Char :=
  let lengths := List.range (s.length + 1)
  match (if longest then lengths else lengths.reverse).find? fun n => p.matches? (s.drop n) with
  | some n => s.take n
  | none => s

end Pattern

end SlideConverter.Shell
