import PluginHost.Files.Fault
import PluginHost.Files.Path
import PluginHost.Ordered.Keyed

/-!
# File trees

A file system as seen from a working directory, and how a path leads to what is in it: piece by piece, through
directories and symbolic links. Two dots lead to the directory above, and absolute paths start at the outermost one.

* `find_empty`: the empty path leads nowhere.
-/

namespace PluginHost

/-- A file, a directory or a symbolic link. -/
inductive Node where
  | file (bytes : ByteArray)
  | directory (entries : List (String × Node))
  | link (target : Path)

/-- Puts a node at the place that names lead to; directories on the way are made as needed. -/
def Node.put (node : Node) : List String → Node → Node
  | [], here =>
    match node, here with
    | .directory [], .directory entries => .directory entries
    | node, _ => node
  | name :: names, .directory entries =>
    .directory (Keyed.insert name (put node names ((entries.lookup name).getD (.directory []))) entries)
  | name :: names, _ => .directory [(name, put node names (.directory []))]

/-- A file system with a place in it: what is there, and the directories it lies in, innermost first. -/
structure FileTree where
  here : Node
  above : List Node

namespace FileTree

/-- An empty working directory that lies in no other. -/
def empty : FileTree := { here := .directory [], above := [] }

/-- A name has no more bytes than this. -/
def maxName : Nat := 255

/-- A path has no more bytes than this. -/
def maxPath : Nat := 4095

/-- No more links than this are followed along a path. -/
def maxLinks : Nat := 40

/-- The directory above a place; the outermost one is above itself. -/
def up (t : FileTree) : FileTree :=
  match t.above with
  | [] => t
  | d :: ds => { here := d, above := ds }

/-- The outermost directory. -/
def top (t : FileTree) : FileTree := { here := t.above.getLastD t.here, above := [] }

/-- Where the walk along a path starts. -/
def start (t : FileTree) (p : Path) : FileTree := if p.isAbsolute then t.top else t

/-- Follows the pieces of a path; `links` more links may be followed. -/
def walk (links : Nat) (t : FileTree) (pieces : List (List Char)) : Except FileFault Node :=
  match pieces with
  | [] => .ok t.here
  | piece :: rest =>
    match t.here with
    | .directory entries =>
      if piece = [] ∨ piece = ['.'] then walk links t rest
      else if piece = ['.', '.'] then walk links t.up rest
      else
        let name := String.ofList piece
        if maxName < name.utf8ByteSize then .error .nameTooLong
        else match entries.lookup name with
          | none => .error .notFound
          | some (.link target) =>
            match links with
            | 0 => .error .tooManyLinks
            | links + 1 => walk links (t.start target) (target.pieces ++ rest)
          | some node => walk links { here := node, above := t.here :: t.above } rest
    | _ => .error .notADirectory
termination_by (links, pieces.length)

/-- What a path leads to, links followed. -/
def find (root : FileTree) (p : Path) : Except FileFault Node :=
  if p.text.toList.contains '\x00' then .error .nulInPath
  else if p.text = "" then .error .notFound
  else if maxPath < p.text.utf8ByteSize then .error .nameTooLong
  else walk maxLinks (root.start p) p.pieces

def isDirectory (root : FileTree) (p : Path) : Bool :=
  match root.find p with
  | .ok (.directory _) => true
  | _ => false

def isFile (root : FileTree) (p : Path) : Bool :=
  match root.find p with
  | .ok (.file _) => true
  | _ => false

def entries (root : FileTree) (p : Path) : Except FileFault (List (String × Node)) :=
  match root.find p with
  | .ok (.directory entries) => .ok entries
  | .ok _ => .error .notADirectory
  | .error fault => .error fault

def readText (root : FileTree) (p : Path) : Except FileFault String :=
  match root.find p with
  | .ok (.file bytes) =>
    match String.fromUTF8? bytes with
    | some s => .ok s
    | none => .error .notText
  | .ok _ => .error .isADirectory
  | .error fault => .error fault

/-- The names that a path goes through. -/
def names (p : Path) : List String := p.components.filterMap fun
  | .normal name => some name
  | _ => none

/-- A working directory with some files in it, given by their paths. The directory above it is taken for empty. -/
def ofFiles (files : List (Path × Node)) : FileTree :=
  { here := files.foldl (fun here f => f.2.put (names f.1) here) (.directory []), above := [.directory []] }

/-- The empty path leads nowhere. -/
theorem find_empty (root : FileTree) : root.find ⟨""⟩ = .error .notFound := rfl

end FileTree
end PluginHost
