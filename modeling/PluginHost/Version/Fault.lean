import PluginHost.Text.Quoted

/-!
# Why a version text is refused

`VersionFault` is the cause and `VersionError` the cause together with the text that was read.
-/

namespace PluginHost

/-- A part of a version text. -/
inductive VersionPart where
  | major
  | minor
  | patch
  | pre
  | build
deriving DecidableEq, Repr

def VersionPart.describe : VersionPart → String
  | major => "major version number"
  | minor => "minor version number"
  | patch => "patch version number"
  | pre => "pre-release identifier"
  | build => "build metadata"

/-- Why a version or a requirement on versions is refused. -/
inductive VersionFault where
  /-- There is no text at all. -/
  | empty
  /-- The text ends where a part has to start or to go on. -/
  | endOfInput (part : VersionPart)
  /-- No character of this kind may start the part. -/
  | unexpected (part : VersionPart) (c : Char)
  /-- No character of this kind may follow the part. -/
  | unexpectedAfter (part : VersionPart) (c : Char)
  /-- Something else than a comma follows a comparator. -/
  | commaExpected (part : VersionPart) (c : Char)
  /-- A number of several digits starts with zero. -/
  | leadingZero (part : VersionPart)
  /-- A number does not fit 64 bits. -/
  | tooLarge (part : VersionPart)
  /-- An identifier is empty between two dots or at an end. -/
  | emptySegment (part : VersionPart)
  /-- A wildcard stands beside other comparators. -/
  | wildcardNotAlone (c : Char)
  /-- Something follows a wildcard that may not. -/
  | afterWildcard
  /-- There are more comparators than a requirement may have. -/
  | tooManyComparators
deriving DecidableEq, Repr

def VersionFault.message : VersionFault → String
  | empty => "empty string, expected a semver version"
  | endOfInput part => "unexpected end of input while parsing " ++ part.describe
  | unexpected part c => "unexpected character " ++ Text.quotedChar c ++ " while parsing " ++ part.describe
  | unexpectedAfter part c => "unexpected character " ++ Text.quotedChar c ++ " after " ++ part.describe
  | commaExpected part c => "expected comma after " ++ part.describe ++ ", found " ++ Text.quotedChar c
  | leadingZero part => "invalid leading zero in " ++ part.describe
  | tooLarge part => "value of " ++ part.describe ++ " exceeds u64::MAX"
  | emptySegment part => "empty identifier segment in " ++ part.describe
  | wildcardNotAlone c =>
    "wildcard req (" ++ String.singleton c ++ ") must be the only comparator in the version req"
  | afterWildcard => "unexpected character after wildcard in version req"
  | tooManyComparators => "excessive number of version comparators"

/-- A refused text and the reason. -/
inductive VersionError where
  | invalidVersion (input : String) (fault : VersionFault)
  | invalidConstraint (input : String) (fault : VersionFault)
deriving DecidableEq, Repr

/-- The wording of a version error; the text is quoted as it was given. -/
def VersionError.message : VersionError → String
  | invalidVersion input fault => "Invalid version '" ++ input ++ "': " ++ fault.message
  | invalidConstraint input fault => "Invalid version constraint '" ++ input ++ "': " ++ fault.message

end PluginHost
