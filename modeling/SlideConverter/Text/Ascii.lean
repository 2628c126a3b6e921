/-!
# Comparing text up to ASCII case

Only the letters A to Z have a lower case here; every other character is compared as it is.
-/

namespace SlideConverter.Text

def asciiLower (s : String) : String := String.ofList (s.toList.map Char.toLower)

/-- Two texts are the same up to the case of ASCII letters. -/
def sameIgnoringAsciiCase (a b : String) : Bool := asciiLower a == asciiLower b

/-- A text that names its scheme as a location on a network or a file address. -/
def looksLikeUrl (s : String) : Bool :=
  let lower := (asciiLower s).toList
  ["http://", "https://", "file://"].any fun scheme => scheme.toList.isPrefixOf lower

end SlideConverter.Text
