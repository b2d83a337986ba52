import PluginHost.Text.Split

/-!
# Paths

A path is a text with `/` between its pieces. Its components leave out what does not matter for the place it names:
repeated slashes, a slash at the end, and a dot anywhere but at the front.

* `join_of_absolute`: joining an absolute path forgets the base.
-/

namespace PluginHost

/-- A path as it was written. -/
structure Path where
  text : String
deriving DecidableEq, Repr

namespace Path

/-- What a path goes through. -/
inductive Component where
  | root
  | current
  | parent
  | normal (name : String)
deriving DecidableEq, Repr

def pieces (p : Path) : List (List Char) := Text.splitAtSep '/' p.text.toList

/-- A path is absolute when it starts with a slash. -/
def isAbsolute (p : Path) : Bool := p.text.toList.head? == some '/'

/-- The component of a piece that is not the first; none for a piece that does not matter. -/
def componentOf? (piece : List Char) : Option Component :=
  if piece = [] ∨ piece = ['.'] then none
  else if piece = ['.', '.'] then some .parent
  else some (.normal (String.ofList piece))

def components (p : Path) : List Component :=
  match p.pieces with
  | [] => []
  | first :: more =>
    let start := if p.isAbsolute then [.root] else if first = ['.'] then [.current] else (componentOf? first).toList
    start ++ more.filterMap componentOf?

/-- The name at the end of a path, if it ends in one. -/
def fileName? (p : Path) : Option String :=
  match p.components.getLast? with
  | some (.normal name) => some name
  | _ => none

/-- What follows the last dot of a name; a dot at the front starts no extension. -/
def extensionOf? (name : List Char) : Option String :=
  match name.reverse.span (· ≠ '.') with
  | (_, []) => none
  | (_, [_]) => none
  | (last, _) => some (String.ofList last.reverse)

/-- The extension of the name at the end of a path. -/
def extension? (p : Path) : Option String := p.fileName?.bind fun name => extensionOf? name.toList

/-- Drops the pieces that do not matter from the front of a reversed list of pieces; its last one stays. -/
def dropIdle : List (List Char) → List (List Char)
  | piece :: next :: more => if piece = [] ∨ piece = ['.'] then dropIdle (next :: more) else piece :: next :: more
  | pieces => pieces

/-- The path that a path lies in; none for a path that lies in no other. -/
def parent? (p : Path) : Option Path :=
  match dropIdle p.pieces.reverse with
  | [] => none
  | [[]] => none
  | _ :: before =>
    match dropIdle before with
    | [[]] => some ⟨"/"⟩
    | rest => some ⟨String.ofList (Text.joinWith '/' rest.reverse)⟩

/-- The path that leads from a base along another path. -/
def join (base p : Path) : Path :=
  if p.isAbsolute then p
  else if base.text = "" then p
  else if base.text.toList.getLast? = some '/' then ⟨base.text ++ p.text⟩
  else ⟨base.text ++ "/" ++ p.text⟩

/-- Joining an absolute path forgets the base. -/
theorem join_of_absolute {base p : Path} (h : p.isAbsolute = true) : base.join p = p := by
  simp [join, h]

end Path
end PluginHost
