import SlideConverter.Machine.Program

/-!
# Utilities

The small programs that a machine brings along, as far as converting tools and their
scripts need them. Each takes its arguments and all of its standard input.
-/

namespace SlideConverter

open Text

abbrev Utility := List String → Bytes → Program

namespace Utility

open Routine

/-- Options are the arguments before the first that is none; `--` ends them. -/
def splitOptions : List String → List Char × List String
  | [] => ([], [])
  | a :: rest =>
    match a.toList with
    | ['-', '-'] => ([], rest)
    | '-' :: c :: cs =>
      let (letters, operands) := splitOptions rest
      (c :: cs ++ letters, operands)
    | _ => ([], a :: rest)

/-- The same for each operand; the program fails if one of them does. -/
def forEach (operands : List String) (act : Path → Routine (Except SystemError Unit))
    (name : String) : Program :=
  match operands with
  | [] => return .success
  | a :: rest => do
    match ← act (.ofString a) with
    | .ok _ => forEach rest act name
    | .error cause =>
      complain (name ++ ": " ++ a ++ ": " ++ cause.text)
      let _ ← forEach rest act name
      return .failure

def usage (name : String) : Program := do
  complain (name ++ ": bad usage")
  return .failure

/-! ## Names of files -/

def dropTrailingSlashes (s : List Char) : List Char :=
  (s.reverse.dropWhile (· = '/')).reverse

/-- The last component of a path, without `suffix` unless that would leave nothing. -/
def baseName (path suffix : List Char) : List Char :=
  if path.isEmpty then []
  else
    let kept := dropTrailingSlashes path
    if kept.isEmpty then ['/']
    else
      let base := (kept.reverse.takeWhile (· ≠ '/')).reverse
      if suffix.isSuffixOf base && base ≠ suffix then base.take (base.length - suffix.length)
      else base

def dirName (path : List Char) : List Char :=
  let kept := dropTrailingSlashes path
  if kept.isEmpty then if path.isEmpty then ['.'] else ['/']
  else
    let above := (kept.reverse.dropWhile (· ≠ '/')).reverse
    if above.isEmpty then ['.']
    else
      let above := dropTrailingSlashes above
      if above.isEmpty then ['/'] else above

def basename : Utility
  | [path], _ => do
    print (String.ofList (baseName path.toList []) ++ "\n")
    return .success
  | [path, suffix], _ => do
    print (String.ofList (baseName path.toList suffix.toList) ++ "\n")
    return .success
  | _, _ => usage "basename"

def dirname : Utility := fun paths _ =>
  if paths.isEmpty then usage "dirname"
  else do
    for path in paths do
      print (String.ofList (dirName path.toList) ++ "\n")
    return .success

/-! ## Printing -/

/-- What a backslash with `c` behind it stands for. -/
def escaped? : Char → Option Char
  | 'a' => some '\x07'
  | 'b' => some '\x08'
  | 'f' => some '\x0c'
  | 'n' => some '\n'
  | 'r' => some '\r'
  | 't' => some '\t'
  | 'v' => some '\x0b'
  | '\\' => some '\\'
  | _ => none

/-- Text with its escapes replaced; printing stops for good at the escape `c`. -/
def unescape : List Char → List Char × Bool
  | [] => ([], false)
  | '\\' :: 'c' :: _ => ([], true)
  | '\\' :: c :: rest =>
    let (later, stop) := unescape rest
    match escaped? c with
    | some e => (e :: later, stop)
    | none => ('\\' :: c :: later, stop)
  | c :: rest =>
    let (later, stop) := unescape rest
    (c :: later, stop)

/-- Words with blanks between them and a newline behind them. -/
def echoWith (newline escapes : Bool) (words : List String) : Program := do
  let line := (" ".intercalate words).toList
  let (line, stop) := if escapes then unescape line else (line, false)
  print (String.ofList line ++ (if newline && !stop then "\n" else ""))
  return .success

def isEchoOption (word : String) : Bool :=
  match word.toList with
  | '-' :: c :: cs => (c :: cs).all fun c => c = 'n' || c = 'e' || c = 'E'
  | _ => false

def echo : Utility := fun words _ =>
  let options := (words.takeWhile isEchoOption).flatMap String.toList
  echoWith (!options.contains 'n') (options.contains 'e') (words.dropWhile isEchoOption)

/-- A piece of a format: text as it is, or an argument to be put in. -/
inductive FormatPiece where
  | text (chars : List Char)
  | argument (directive : Char) (leftAlign zeroPad : Bool) (width : Nat)

/-- The flags and the width of a directive, then its letter. -/
def directive? (leftAlign zeroPad : Bool) (width : Nat) :
    List Char → Option (FormatPiece × List Char)
  | [] => none
  | c :: rest =>
    if c = '-' && width = 0 then directive? true zeroPad width rest
    else if c = '0' && width = 0 then directive? leftAlign true width rest
    else if c.isDigit then directive? leftAlign zeroPad (width * 10 + (c.toNat - '0'.toNat)) rest
    else some (.argument c leftAlign zeroPad width, rest)

def formatPieces : Nat → List Char → List FormatPiece
  | 0, _ => []
  | _, [] => []
  | steps + 1, '%' :: '%' :: rest => .text ['%'] :: formatPieces steps rest
  | steps + 1, '%' :: rest =>
    match directive? false false 0 rest with
    | some (piece, rest) => piece :: formatPieces steps rest
    | none => [.text ['%']]
  | steps + 1, '\\' :: a :: rest =>
    match escaped? a with
    | some e => .text [e] :: formatPieces steps rest
    | none => .text ['\\', a] :: formatPieces steps rest
  | steps + 1, c :: rest => .text [c] :: formatPieces steps rest

def pad (leftAlign zeroPad : Bool) (width : Nat) (s : List Char) : List Char :=
  let missing := width - s.length
  if leftAlign then s ++ List.replicate missing ' '
  else if zeroPad then List.replicate missing '0' ++ s
  else List.replicate missing ' ' ++ s

def integerOf (s : String) : Int := (s.toInt?).getD 0

/-- Text for a directive with its argument. -/
def fill (letter : Char) (argument : String) : List Char :=
  match letter with
  | 'd' | 'i' | 'u' => (toString (integerOf argument)).toList
  | 'c' => argument.toList.take 1
  | 'b' => (unescape argument.toList).1
  | _ => argument.toList

/-- One pass over the format, and the arguments that are left. -/
def formatOnce : List FormatPiece → List String → List Char × List String
  | [], arguments => ([], arguments)
  | .text chars :: pieces, arguments =>
    let (later, left) := formatOnce pieces arguments
    (chars ++ later, left)
  | .argument letter leftAlign zeroPad width :: pieces, arguments =>
    let (later, left) := formatOnce pieces (arguments.drop 1)
    (pad leftAlign zeroPad width (fill letter (arguments.headD "")) ++ later, left)

/-- The format is used again until no argument is left. -/
def formatAll (pieces : List FormatPiece) : Nat → List String → List Char
  | 0, _ => []
  | passes + 1, arguments =>
    let (text, left) := formatOnce pieces arguments
    if left.isEmpty || left.length = arguments.length then text
    else text ++ formatAll pieces passes left

def printf : Utility
  | [], _ => usage "printf"
  | format :: arguments, _ => do
    let chars := format.toList
    let pieces := formatPieces chars.length chars
    print (String.ofList (formatAll pieces (arguments.length + 1) arguments))
    return .success

/-- Whole numbers from the first to the last, one on a line. -/
def seq : Utility := fun operands _ =>
  let run (first last : Int) : Program := do
    for i in List.range (last - first + 1).toNat do
      print (toString (first + i) ++ "\n")
    return .success
  match operands.mapM String.toInt? with
  | some [last] => run 1 last
  | some [first, last] => run first last
  | _ => usage "seq"

/-! ## Files -/

def catOne (input : Bytes) (path : Path) : Routine (Except SystemError Unit) := do
  if path = .ofString "-" then
    .remark ⟨.output, input⟩
    return .ok ()
  else
    match ← request (.read path) with
    | .ok content =>
      .remark ⟨.output, content⟩
      return .ok ()
    | .error cause => return .error cause

def cat : Utility := fun arguments input =>
  let (_, operands) := splitOptions arguments
  forEach (if operands.isEmpty then ["-"] else operands) (catOne input) "cat"

def isDirectory (path : Path) : Routine Bool := do
  match ← request (.look path) with
  | .ok .directory => return true
  | _ => return false

/-- Where something called `source` goes when it goes to `target`. -/
def inside (source target : Path) : Routine Path := do
  if ← isDirectory target then
    let name := baseName source.display.toList []
    return target.join (.ofString (String.ofList name))
  else return target

def same (source target : Path) : Routine Bool := do
  match ← request (.canonical source), ← request (.canonical target) with
  | .ok a, .ok b => return decide (a = b)
  | _, _ => return false

def copyOne (target source : Path) : Routine (Except SystemError Unit) := do
  let target ← inside source target
  if ← same source target then return .error .exists
  else if ← isDirectory source then return .error .isDirectory
  else request (.copy source target)

/-- The last operand is where the others go to; several of them need a directory. -/
def transfer (name : String) (act : Path → Path → Routine (Except SystemError Unit)) : Utility :=
  fun arguments _ =>
    let (_, operands) := splitOptions arguments
    match operands.getLast?, operands.dropLast with
    | none, _ | _, [] => usage name
    | some target, [source] => forEach [source] (act (.ofString target)) name
    | some target, sources => do
      if ← isDirectory (.ofString target) then forEach sources (act (.ofString target)) name
      else usage name

def cp : Utility := transfer "cp" copyOne

def mv : Utility := transfer "mv" fun target source => do
  request (.rename source (← inside source target))

def removeOne (recursive force : Bool) (path : Path) : Routine (Except SystemError Unit) := do
  let answer ← if recursive then request (.removeDirectoryAll path) else request (.removeFile path)
  match answer with
  | .error .notDirectory => if recursive then request (.removeFile path) else return answer
  | .error .missing => return if force then .ok () else answer
  | _ => return answer

def rm : Utility := fun arguments _ =>
  let (letters, operands) := splitOptions arguments
  let force := letters.contains 'f'
  if operands.isEmpty && !force then usage "rm"
  else forEach operands (removeOne (letters.contains 'r' || letters.contains 'R') force) "rm"

def mkdir : Utility := fun arguments _ =>
  let (letters, operands) := splitOptions arguments
  if operands.isEmpty then usage "mkdir"
  else
    forEach operands (fun path =>
      if letters.contains 'p' then request (.makeDirectoryAll path)
      else request (.makeDirectory path)) "mkdir"

def rmdir : Utility := fun arguments _ =>
  let (_, operands) := splitOptions arguments
  if operands.isEmpty then usage "rmdir"
  else forEach operands (fun path => request (.removeDirectory path)) "rmdir"

def touchOne (path : Path) : Routine (Except SystemError Unit) := do
  match ← request (.look path) with
  | .ok _ => return .ok ()
  | .error _ => request (.append path [])

def touch : Utility := fun arguments _ =>
  let (_, operands) := splitOptions arguments
  if operands.isEmpty then usage "touch" else forEach operands touchOne "touch"

def ls : Utility := fun arguments _ => do
  let (_, operands) := splitOptions arguments
  match ← request (.list (.ofString (operands.headD "."))) with
  | .error _ => return .code 2
  | .ok names =>
    let shown := (names.filter (·.head? ≠ some Path.dot)).mergeSort fun a b => decide (a ≤ b)
    for name in shown do
      .remark ⟨.output, name ++ [0x0A]⟩
    return .success

def pwd : Utility := fun _ _ => do
  match ← request (.canonical (.ofString ".")) with
  | .ok path =>
    .remark ⟨.output, path.bytes ++ [0x0A]⟩
    return .success
  | .error _ => return .failure

/-! ## Time -/

/-- Digits as a number of nanoseconds, where the first digit counts for `unit`. -/
def fraction (unit : Nat) : List Char → Option Nat
  | [] => some 0
  | c :: rest =>
    if c.isDigit then (fraction (unit / 10) rest).map ((c.toNat - '0'.toNat) * unit + ·) else none

/-- Seconds, or the unit that a letter at the end says. -/
def time? (word : String) : Option Duration :=
  let chars := word.toList
  let (number, factor) :=
    match chars.getLast? with
    | some 's' => (chars.dropLast, 1)
    | some 'm' => (chars.dropLast, 60)
    | some 'h' => (chars.dropLast, 3600)
    | some 'd' => (chars.dropLast, 86400)
    | _ => (chars, 1)
  let whole := number.takeWhile Char.isDigit
  let seconds := whole.foldl (fun n c => n * 10 + (c.toNat - '0'.toNat)) 0
  match number.dropWhile Char.isDigit with
  | [] => if whole.isEmpty then none else some ⟨seconds * factor * 1000000000⟩
  | '.' :: digits =>
    if whole.isEmpty && digits.isEmpty then none
    else
      (fraction 100000000 digits).map fun part => ⟨(seconds * 1000000000 + part) * factor⟩
  | _ => none

def sleep : Utility := fun words _ =>
  match words.mapM time? with
  | none | some [] => usage "sleep"
  | some times => do
    request (.sleep ⟨times.foldl (fun n d => n + d.nanoseconds) 0⟩)
    return .success

/-! ## Conditions -/

def fileTest (letter : Char) (path : String) : Routine Bool := do
  match ← request (.look (.ofString path)), letter with
  | .ok .directory, 'd' => return true
  | .ok (.file _ _), 'f' => return true
  | .ok (.file _ executable), 'x' => return executable
  | .ok .directory, 'x' => return true
  | .ok (.file content _), 's' => return !content.isEmpty
  | .ok .directory, 's' => return true
  | .ok _, 'e' | .ok _, 'r' | .ok _, 'w' => return true
  | _, _ => return false

def compare? (operator : String) (a b : String) : Option Bool :=
  let numbers (f : Int → Int → Bool) : Option Bool := do return f (← a.toInt?) (← b.toInt?)
  match operator with
  | "=" => some (a == b)
  | "!=" => some (a != b)
  | "-eq" => numbers fun x y => x == y
  | "-ne" => numbers fun x y => x != y
  | "-lt" => numbers fun x y => decide (x < y)
  | "-le" => numbers fun x y => decide (x ≤ y)
  | "-gt" => numbers fun x y => decide (x > y)
  | "-ge" => numbers fun x y => decide (x ≥ y)
  | _ => none

/-- A condition of up to four words; no answer if it makes no sense. -/
def condition : List String → Routine (Option Bool)
  | [] => return some false
  | ["!"] => return some true
  | "!" :: rest => return (← condition rest).map (!·)
  | [a] => return some (a ≠ "")
  | [operator, a] =>
    match operator.toList with
    | ['-', 'n'] => return some (a ≠ "")
    | ['-', 'z'] => return some (a = "")
    | ['-', letter] => return some (← fileTest letter a)
    | _ => return none
  | [a, operator, b] => return compare? operator a b
  | _ => return none

def test : Utility := fun words _ => do
  match ← condition words with
  | some true => return .success
  | some false => return .failure
  | none => return .code 2

/-- The same, with a closing bracket as the last word. -/
def bracket : Utility := fun words input =>
  if words.getLast? = some "]" then test words.dropLast input else return .code 2

/-- The utilities by name. -/
def table : List (String × Utility) :=
  [("true", fun _ _ => return .success), ("false", fun _ _ => return .failure), ("echo", echo),
    ("printf", printf), ("cat", cat), ("cp", cp), ("mv", mv), ("rm", rm), ("mkdir", mkdir),
    ("rmdir", rmdir), ("touch", touch), ("ls", ls), ("pwd", pwd), ("sleep", sleep),
    ("basename", basename), ("dirname", dirname), ("seq", seq), ("test", test), ("[", bracket)]

def find? (name : String) : Option Utility := (table.find? (·.1 = name)).map (·.2)

end Utility

end SlideConverter
