import SlideConverter.Config.Form
import SlideConverter.Toml.Reader

/-!
# Loading a configuration

A configuration file is TOML text in UTF-8. Of what is wrong with one only two causes
are told apart: that there is no text, and that the text is no configuration.
-/

namespace SlideConverter

open Text

inductive ConfigFault where
  | unreadable (path : Path)
  | malformed
deriving DecidableEq

def ConfigFault.message : ConfigFault → String
  | .unreadable path => "reading config: " ++ path.display
  | .malformed => "parsing TOML"

namespace Config

def ofToml? (text : String) : Option Config := (Toml.parse? text).bind (ofTree? true)

/-- The configuration that the file at `path` holds; no `contents` if it cannot be read. -/
def load (path : Path) (contents : Option Bytes) : Except ConfigFault Config :=
  match contents.bind Utf8.decode? with
  | none => .error (.unreadable path)
  | some text =>
    match ofToml? text with
    | none => .error .malformed
    | some c => .ok c

end Config

end SlideConverter
