/-!
# What a system refuses

Causes with their wording. Most come with the number under which Linux knows them;
the others never reach the system.
-/

namespace SlideConverter

inductive SystemError where
  | missing
  | badFormat
  | denied
  | busy
  | exists
  | notDirectory
  | isDirectory
  | invalid
  | nameTooLong
  | notImplemented
  | notEmpty
  | linkLoop
  /-- A path with a zero byte in it. -/
  | zeroInPath
  /-- A program or an argument with a zero byte in it. -/
  | zeroInArgument
  /-- A copy of something that is no regular file. -/
  | irregularSource
deriving DecidableEq

namespace SystemError

def text : SystemError → String
  | .missing => "No such file or directory"
  | .badFormat => "Exec format error"
  | .denied => "Permission denied"
  | .busy => "Device or resource busy"
  | .exists => "File exists"
  | .notDirectory => "Not a directory"
  | .isDirectory => "Is a directory"
  | .invalid => "Invalid argument"
  | .nameTooLong => "File name too long"
  | .notImplemented => "Function not implemented"
  | .notEmpty => "Directory not empty"
  | .linkLoop => "Too many levels of symbolic links"
  | .zeroInPath => "file name contained an unexpected NUL byte"
  | .zeroInArgument => "nul byte found in provided data"
  | .irregularSource => "the source path is neither a regular file nor a symlink to a regular file"

def number? : SystemError → Option Nat
  | .missing => some 2
  | .badFormat => some 8
  | .denied => some 13
  | .busy => some 16
  | .exists => some 17
  | .notDirectory => some 20
  | .isDirectory => some 21
  | .invalid => some 22
  | .nameTooLong => some 36
  | .notImplemented => some 38
  | .notEmpty => some 39
  | .linkLoop => some 40
  | .zeroInPath | .zeroInArgument | .irregularSource => none

def message (e : SystemError) : String :=
  match e.number? with
  | some n => e.text ++ " (os error " ++ toString n ++ ")"
  | none => e.text

end SystemError

end SlideConverter
