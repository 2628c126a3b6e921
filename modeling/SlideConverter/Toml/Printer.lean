import SlideConverter.Config.Form
import SlideConverter.Digest.Sha256
import SlideConverter.Toml.Token

/-!
# The configuration as TOML text

One table for each section, in order, with a blank line between one and the next; one
line for each field; lists on one line. A string is written in the first of five
styles that can hold it as it is, or else with escapes. This text is what a
configuration is recognized by, so equal configurations have equal texts.
-/

namespace SlideConverter.Toml

def hasNewline (s : List Char) : Bool := s.contains '\n'

/-- The longest row of `mark` in `s`, where `row` of them have just been seen. -/
def longestRow (mark : Char) (row : Nat) : List Char → Nat
  | [] => row
  | c :: rest =>
    if c = mark then longestRow mark (row + 1) rest else max row (longestRow mark 0 rest)

def isPlain (c : Char) : Bool := c.isAlphanum || ['-', '_', '.', '/', ' ', ':'].contains c

/-- Controls that no string holds as they are; newlines are looked at apart. -/
def hasControl (s : List Char) : Bool := s.any fun c => !isPrintable c && c ≠ '\n'

inductive Style where
  | line (quote : Quote)
  | lines (quote : Quote)
deriving DecidableEq

def fitsLine (quote : Quote) (s : List Char) : Bool :=
  !hasControl s && !hasNewline s && !s.contains quote.mark && (quote = .literal || !s.contains '\\')

def fitsLines (quote : Quote) (s : List Char) : Bool :=
  !hasControl s && longestRow quote.mark 0 s ≤ 2 && (quote = .literal || !s.contains '\\')

def styleOf (s : List Char) : Style :=
  if s.all isPlain then .line .basic
  else if fitsLine .basic s then .line .basic
  else if fitsLine .literal s then .line .literal
  else if fitsLines .basic s then .lines .basic
  else if fitsLines .literal s then .lines .literal
  else if hasNewline s then .lines .basic
  else .line .basic

/-- Letters of hexadecimal digits are capital here. -/
def upperHex (width n : Nat) : List Char :=
  (Digest.Sha256.hexDigits width n).map Char.toUpper

/-- A character between basic quotation marks that is neither a mark nor a newline. -/
def escapeChar (c : Char) : List Char :=
  if c = '\\' then ['\\', '\\']
  else if c = '\x08' then ['\\', 'b']
  else if c = '\t' then ['\\', 't']
  else if c = '\x0c' then ['\\', 'f']
  else if c = '\r' then ['\\', 'r']
  else if isControl c then '\\' :: 'u' :: upperHex 4 c.toNat
  else [c]

def escapeLine (c : Char) : List Char :=
  if c = '"' then ['\\', '"']
  else if c = '\n' then ['\\', 'n']
  else escapeChar c

/-- The third of three marks in a row is escaped, and the count begins anew. -/
def escapeLines (marks : Nat) : List Char → List Char
  | [] => []
  | c :: rest =>
    if c = '"' then
      if marks = 2 then '\\' :: '"' :: escapeLines 0 rest else '"' :: escapeLines (marks + 1) rest
    else if c = '\n' then '\n' :: escapeLines 0 rest
    else escapeChar c ++ escapeLines 0 rest

def inStyle (style : Style) (s : List Char) : List Char :=
  match style with
  | .line .basic => '"' :: s.flatMap escapeLine ++ ['"']
  | .line .literal => '\'' :: s ++ ['\'']
  | .lines quote =>
    let marks := List.replicate 3 quote.mark
    let opening := if hasNewline s then marks ++ ['\n'] else marks
    let body := match quote with
      | .basic => escapeLines 0 s
      | .literal => s
    opening ++ body ++ marks

def string (s : String) : List Char := inStyle (styleOf s.toList) s.toList

def commaSeparated : List (List Char) → List Char
  | [] => []
  | [item] => item
  | item :: rest => item ++ ',' :: ' ' :: commaSeparated rest

def bool (b : Bool) : List Char := (toString b).toList

def number (n : UInt64) : List Char := (toString n.toNat).toList

def strings (items : List String) : List Char := '[' :: commaSeparated (items.map string) ++ [']']

structure Section where
  name : String
  fields : List (String × List Char)

def fieldLine (field : String × List Char) : List Char :=
  field.1.toList ++ ' ' :: '=' :: ' ' :: field.2 ++ ['\n']

def Section.text (s : Section) : List Char :=
  '[' :: s.name.toList ++ ']' :: '\n' :: s.fields.flatMap fieldLine

def sections (c : Config) : List Section :=
  [ { name := "global", fields := [("print_summary", bool c.global.printSummary)] },
    { name := "paths", fields := [("work_dir", string c.paths.workDir)] },
    { name := "tools",
      fields := [("office_exe", string c.tools.officeProgram),
        ("office_version_arg", string c.tools.officeVersionArgument),
        ("raster_exe", string c.tools.rasterProgram),
        ("raster_version_arg", string c.tools.rasterVersionArgument)] },
    { name := "pipeline",
      fields := [("poll_interval_ms", number c.pipeline.pollIntervalMs),
        ("accepted_extensions", strings c.pipeline.acceptedExtensions),
        ("intermediate_extension", string c.pipeline.intermediateExtension),
        ("image_extension", string c.pipeline.imageExtension),
        ("slide_stem", string c.pipeline.slideStem),
        ("keep_intermediate", bool c.pipeline.keepIntermediate)] },
    { name := "limits", fields := [("job_timeout_seconds", number c.limits.jobTimeoutSeconds)] },
    { name := "logging",
      fields := [("level", string c.logging.level), ("json", bool c.logging.json),
        ("write_to_file", bool c.logging.writeToFile),
        ("file_path", string c.logging.filePath)] },
    { name := "security", fields := [("reject_url_inputs", bool c.security.rejectUrlInputs)] } ]

/-- Sections with a blank line between one and the next. -/
def document : List Section → List Char
  | [] => []
  | [s] => s.text
  | s :: rest => s.text ++ '\n' :: document rest

def normalized (c : Config) : String := String.ofList (document (sections c))

end SlideConverter.Toml
