import PluginHost.Document.Json
import PluginHost.Files.Tree

/-!
# Listings of files

A file tree is told as documents, each a table with the path of one file. The table also has the content of the file,
as a text (`content`) or as hexadecimal digits (`hex`), the target of a link (`symlink`), or says that a directory is
meant (`dir`). The directories on the way to a file need not be told.
-/

namespace PluginHost.FileTree

/-- The text of a field; a field that has none is empty. -/
def textField (name : String) (fields : List (String × Document)) : String :=
  match Document.field? name fields with
  | some (.text s) => s
  | _ => ""

/-- The bytes that pairs of hexadecimal digits write. -/
def bytesOfHex : List Char → List UInt8
  | a :: b :: digits => UInt8.ofNat ((natOfBase? 16 [a, b]).getD 0) :: bytesOfHex digits
  | _ => []

/-- What an entry tells to be at its path. -/
def ofEntry (fields : List (String × Document)) : Node :=
  match Document.field? "symlink" fields, Document.field? "hex" fields, Document.field? "dir" fields with
  | some (.text target), _, _ => .link ⟨target⟩
  | _, some (.text digits), _ => .file ⟨(bytesOfHex digits.toList).toArray⟩
  | _, _, some (.bool true) => .directory []
  | _, _, _ => .file (textField "content" fields).toUTF8

/-- The file that a document tells, with its path; none if it is no table. -/
def entryOf? : Document → Option (Path × Node)
  | .table fields => some (⟨textField "path" fields⟩, ofEntry fields)
  | _ => none

/-- The tree that documents tell. -/
def ofListing (entries : List Document) : FileTree := ofFiles (entries.filterMap entryOf?)

end PluginHost.FileTree
