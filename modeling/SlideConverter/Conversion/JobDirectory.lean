import SlideConverter.Digest.Sha256
import SlideConverter.Path

/-!
# Names for job directories

The configuration, the document and the time together, as sixteen hexadecimal digits,
so that no two conversions get the same directory.
-/

namespace SlideConverter

open Text

/-- `fingerprint` stands for the configuration; `source` is without links and dots. -/
def jobDirectoryName (fingerprint : String) (source : Path) (nanoseconds : Nat) : String :=
  let described := fingerprint ++ ":" ++ source.display ++ ":" ++ toString nanoseconds
  String.ofList ((Digest.sha256 (Utf8.encode described)).toList.take 16)

end SlideConverter
