/-!
# Why a file cannot be read
-/

namespace PluginHost

/-- The reasons for which an operation on files fails. -/
inductive FileFault where
  | notFound
  | notADirectory
  | isADirectory
  | nameTooLong
  | tooManyLinks
  /-- The path has a character that no name of a file may have. -/
  | nulInPath
  | notText
  /-- A directory was given as an artifact and holds no manifest. -/
  | noManifest
  /-- A reason told by someone else. -/
  | other (message : String)
deriving DecidableEq, Repr

def FileFault.message : FileFault → String
  | notFound => "No such file or directory (os error 2)"
  | notADirectory => "Not a directory (os error 20)"
  | isADirectory => "Is a directory (os error 21)"
  | nameTooLong => "File name too long (os error 36)"
  | tooManyLinks => "Too many levels of symbolic links (os error 40)"
  | nulInPath => "file name contained an unexpected NUL byte"
  | notText => "stream did not contain valid UTF-8"
  | noManifest => "directory contains no plugin manifest"
  | other message => message

end PluginHost
