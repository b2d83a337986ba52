import PluginHost.Command.Basic
import PluginHost.Files.Listing

/-!
# The program

The files of the working directory come in on standard input, a listing with one JSON object in each line; the
arguments are those of the command.
-/

namespace PluginHost.Command

def entryOfLine? (line : String) : Option Document := (Json.parse? line).bind Json.toDocument?

/-- Reads lines up to the end of a stream; `before` are those read so far, last line first. -/
partial def readLines (stream : IO.FS.Stream) (before : List String) : IO (List String) := do
  let line ← stream.getLine
  if line.isEmpty then return before.reverse
  readLines stream (line :: before)

def program (arguments : List String) : IO UInt32 := do
  let lines ← readLines (← IO.getStdin) []
  let outcome := run (FileTree.ofListing (lines.filterMap entryOfLine?)) arguments
  (← IO.getStdout).putStr outcome.output
  return UInt32.ofNat outcome.code

end PluginHost.Command

def main (arguments : List String) : IO UInt32 := PluginHost.Command.program arguments
