import PluginHost.Files.Listing
import PluginHost.Proofs.Files.Path
import PluginHost.Proofs.Ordered.IdMap

/-!
# Walks through file trees

A walk takes one piece after the other (`FileTree.walk_cons`), and a link puts its own pieces before those that are
left. Where a walk along a path gets to, every walk gets to that starts along the same pieces
(`FileTree.exists_walk_append`). So what a name in a directory leads to is its entry there, or lies behind a link
(`FileTree.lookup_of_find_join`).

This is so in a tree as file systems have them (`FileTree.Sound`), and all trees that are told file by file are such
(`FileTree.sound_ofListing`).
-/

namespace PluginHost

/-! ## Trees as file systems have them -/

namespace Node

/-- A property of the entries of every directory at and below a node. -/
inductive Each (P : List (String × Node) → Prop) : Node → Prop
  | file (bytes : ByteArray) : Each P (.file bytes)
  | link (target : Path) : Each P (.link target)
  | directory {entries : List (String × Node)} : P entries → (∀ e ∈ entries, Each P e.2) → Each P (.directory entries)

/-- The entries of a directory have names that lead to them, and no two have the same. -/
def Named (entries : List (String × Node)) : Prop :=
  (entries.map Prod.fst).Nodup ∧ ∀ e ∈ entries, Path.IsName e.1

/-- A node as file systems have them. -/
def Sound : Node → Prop := Each Named

variable {node : Node} {entries : List (String × Node)}

theorem Each.mono {P Q : List (String × Node) → Prop} (hPQ : ∀ entries, P entries → Q entries) (h : Each P node) :
    Each Q node := by
  induction h with
  | file bytes => exact .file bytes
  | link target => exact .link target
  | directory hentries _ ih => exact .directory (hPQ _ hentries) ih

theorem Sound.lookup {name : String} (h : (directory entries).Sound) (hname : entries.lookup name = some node) :
    node.Sound := by
  cases h with
  | directory hnamed hinside =>
    exact hinside _ ((IdMap.lookup_eq_some_iff hnamed.1).mp hname)

end Node

namespace FileTree

variable {root t : FileTree} {node : Node} {dir path : Path} {entries : List (String × Node)} {links : Nat}
  {piece : List Char}

/-- Everything at and above a place is as file systems have it. -/
structure Sound (t : FileTree) : Prop where
  here : t.here.Sound
  above : ∀ d ∈ t.above, d.Sound

theorem Sound.up (h : t.Sound) : t.up.Sound := by
  unfold FileTree.up
  split
  · exact h
  · rename_i d ds habove
    have hall := habove ▸ h.above
    exact ⟨hall d List.mem_cons_self, fun e he => hall e (List.mem_cons_of_mem _ he)⟩

theorem Sound.top (h : t.Sound) : t.top.Sound := by
  have hall : ∀ d ∈ t.here :: t.above, d.Sound := List.forall_mem_cons.mpr ⟨h.here, h.above⟩
  exact ⟨hall _ List.getLastD_mem_cons, by simp [FileTree.top]⟩

theorem Sound.start (h : t.Sound) (path : Path) : (t.start path).Sound := by
  unfold FileTree.start
  split
  · exact h.top
  · exact h

/-! ## One step -/

/-- Where a walk stands after a piece: how many more links it may follow, its place, and the pieces of a link that it
has to follow before any others. -/
structure Step where
  links : Nat
  place : FileTree
  pieces : List (List Char) := []

/-- Follows one piece of a path. -/
def step (links : Nat) (t : FileTree) (piece : List Char) : Except FileFault Step :=
  match t.here with
  | .directory entries =>
    if piece = [] ∨ piece = ['.'] then .ok { links, place := t }
    else if piece = ['.', '.'] then .ok { links, place := t.up }
    else if maxName < (String.ofList piece).utf8ByteSize then .error .nameTooLong
    else match entries.lookup (String.ofList piece) with
      | none => .error .notFound
      | some (.link target) =>
        match links with
        | 0 => .error .tooManyLinks
        | links + 1 => .ok { links, place := t.start target, pieces := target.pieces }
      | some node => .ok { links, place := { here := node, above := t.here :: t.above } }
  | _ => .error .notADirectory

/-- A walk takes its first piece, and then the pieces of a link before those that are left. -/
theorem walk_cons (links : Nat) (t : FileTree) (piece : List Char) (rest : List (List Char)) :
    walk links t (piece :: rest) = step links t piece >>= fun s => walk s.links s.place (s.pieces ++ rest) := by
  rw [walk, step]
  cases t.here with
  | file bytes => rfl
  | link target => rfl
  | directory entries =>
    simp only
    split
    · rfl
    · split
      · rfl
      · split
        · rfl
        · cases entries.lookup (String.ofList piece) with
          | none => rfl
          | some node =>
            cases node with
            | file bytes => rfl
            | directory inside => rfl
            | link target => cases links <;> rfl

/-- What comes of one step: nothing, or the walk stays, goes up, enters what an entry is, or follows a link. -/
inductive Moves (links : Nat) (t : FileTree) : Except FileFault Step → Prop
  | fault {fault : FileFault} : fault ≠ .noManifest → Moves links t (.error fault)
  | stay : Moves links t (.ok { links, place := t })
  | up : Moves links t (.ok { links, place := t.up })
  | enter {entries : List (String × Node)} {name : String} {node : Node} :
      t.here = .directory entries → entries.lookup name = some node →
      Moves links t (.ok { links, place := { here := node, above := t.here :: t.above } })
  | follow {left : Nat} {target : Path} : links = left + 1 →
      Moves links t (.ok { links := left, place := t.start target, pieces := target.pieces })

theorem moves_step (links : Nat) (t : FileTree) (piece : List Char) : Moves links t (step links t piece) := by
  unfold step
  split
  · rename_i entries hhere
    split
    · exact .stay
    · split
      · exact .up
      · split
        · exact .fault (by simp)
        · split
          · exact .fault (by simp)
          · split
            · exact .fault (by simp)
            · exact .follow rfl
          · rename_i node _ hlookup
            exact .enter hhere hlookup
  · exact .fault (by simp)

theorem moves_of_step {s : Step} (h : step links t piece = .ok s) : Moves links t (.ok s) :=
  h ▸ moves_step links t piece

/-- A step uses up a link or a piece. -/
theorem Moves.decreases {s : Step} (h : Moves links t (.ok s)) (piece : List Char) (rest : List (List Char)) :
    Prod.Lex (· < ·) (· < ·) (s.links, (s.pieces ++ rest).length) (links, (piece :: rest).length) := by
  cases h with
  | stay => exact .right _ (by simp)
  | up => exact .right _ (by simp)
  | enter => exact .right _ (by simp)
  | follow hlinks => exact .left _ _ (by subst hlinks; exact Nat.lt_succ_self _)

theorem Moves.sound {s : Step} (h : Moves links t (.ok s)) (ht : t.Sound) : s.place.Sound := by
  cases h with
  | stay => exact ht
  | up => exact ht.up
  | enter hhere hlookup =>
    exact ⟨(hhere ▸ ht.here).lookup hlookup, List.forall_mem_cons.mpr ⟨ht.here, ht.above⟩⟩
  | follow => exact ht.start _

/-! ## Walks -/

/-- No walk tells that a manifest is missing. -/
theorem walk_ne_noManifest (links : Nat) (t : FileTree) (pieces : List (List Char)) :
    walk links t pieces ≠ .error .noManifest := by
  match pieces with
  | [] => simp [walk]
  | piece :: rest =>
    rw [walk_cons]
    cases hstep : step links t piece with
    | error fault =>
      cases hstep ▸ moves_step links t piece with
      | fault hne => simpa [bind, Except.bind] using hne
    | ok s =>
      have := (moves_of_step hstep).decreases piece rest
      exact walk_ne_noManifest s.links s.place (s.pieces ++ rest)
termination_by (links, pieces.length)
decreasing_by assumption

/-- Where a walk gets to by some pieces, every walk gets to that starts with them. -/
theorem exists_walk_append (links : Nat) (t : FileTree) (front : List (List Char)) {rest : List (List Char)}
    (h : walk links t (front ++ rest) = .ok node) : ∃ left q, (t.Sound → q.Sound) ∧
      ∀ more, walk links t (front ++ more) = walk left q more := by
  match front with
  | [] => exact ⟨links, t, id, fun _ => rfl⟩
  | piece :: front =>
    simp only [List.cons_append, walk_cons] at h ⊢
    cases hstep : step links t piece with
    | error fault =>
      rw [hstep] at h
      cases h
    | ok s =>
      have hmoves := moves_of_step hstep
      have := hmoves.decreases piece front
      rw [hstep] at h
      simp only [bind, Except.bind, ← List.append_assoc] at h ⊢
      obtain ⟨left, q, hsound, hwalk⟩ := exists_walk_append s.links s.place (s.pieces ++ front) h
      exact ⟨left, q, fun ht => hsound (hmoves.sound ht), hwalk⟩
termination_by (links, front.length)
decreasing_by assumption

/-- Only in a directory is there a piece to follow. -/
theorem exists_here_of_walk_cons {rest : List (List Char)} (h : walk links t (piece :: rest) = .ok node) :
    ∃ entries, t.here = .directory entries := by
  rw [walk_cons, step] at h
  cases hhere : t.here with
  | directory entries => exact ⟨entries, rfl⟩
  | file bytes =>
    rw [hhere] at h
    cases h
  | link target =>
    rw [hhere] at h
    cases h

/-- A piece that does not matter leads nowhere else. -/
theorem walk_idle (links : Nat) (h : t.here = .directory entries) : walk links t [[]] = .ok t.here := by
  simp [walk_cons, step, h, bind, Except.bind, walk]

/-- A name leads from a directory to its entry there, unless that is a link. -/
theorem lookup_of_walk_name {name : String} (hhere : t.here = .directory entries) (hname : Path.IsName name)
    (h : walk links t [name.toList] = .ok node) :
    ∃ entry, entries.lookup name = some entry ∧ (node = entry ∨ ∃ target, entry = .link target) := by
  rw [walk_cons, step, hhere] at h
  simp only [if_neg hname.toList_ne.1, if_neg hname.toList_ne.2, String.ofList_toList] at h
  split at h
  · cases h
  · cases hlookup : entries.lookup name with
    | none =>
      rw [hlookup] at h
      cases h
    | some entry =>
      cases entry with
      | link target => exact ⟨_, rfl, Or.inr ⟨target, rfl⟩⟩
      | file bytes =>
        rw [hlookup] at h
        exact ⟨_, rfl, Or.inl (by simpa [bind, Except.bind, walk, eq_comm] using h)⟩
      | directory inside =>
        rw [hlookup] at h
        exact ⟨_, rfl, Or.inl (by simpa [bind, Except.bind, walk, eq_comm] using h)⟩

/-! ## What paths lead to -/

/-- A path that a system can look for: it is not empty, not too long, and has no character that none may have. -/
structure Lookable (path : Path) : Prop where
  no_nul : '\x00' ∉ path.text.toList
  not_empty : path.text ≠ ""
  short : path.text.utf8ByteSize ≤ maxPath

theorem find_eq_walk (root : FileTree) (h : Lookable path) :
    root.find path = walk maxLinks (root.start path) path.pieces := by
  rw [find, if_neg (by simpa using h.no_nul), if_neg h.not_empty, if_neg (Nat.not_lt.mpr h.short)]

theorem lookable_or_fault (root : FileTree) (path : Path) :
    Lookable path ∨ ∃ fault, fault ≠ .noManifest ∧ root.find path = .error fault := by
  unfold find
  split
  · exact Or.inr ⟨_, by simp, rfl⟩
  · split
    · exact Or.inr ⟨_, by simp, rfl⟩
    · split
      · exact Or.inr ⟨_, by simp, rfl⟩
      · rename_i hnul hempty hlong
        exact Or.inl ⟨by simpa using hnul, hempty, Nat.not_lt.mp hlong⟩

theorem lookable_of_find (h : root.find path = .ok node) : Lookable path := by
  refine (lookable_or_fault root path).resolve_right ?_
  rintro ⟨fault, _, hfault⟩
  rw [h] at hfault
  cases hfault

theorem find_ne_noManifest (root : FileTree) (path : Path) : root.find path ≠ .error .noManifest := by
  rcases lookable_or_fault root path with h | ⟨fault, hne, h⟩
  · rw [find_eq_walk root h]
    exact walk_ne_noManifest _ _ _
  · simpa [h] using hne

theorem readText_ne_noManifest (root : FileTree) (path : Path) : root.readText path ≠ .error .noManifest := by
  unfold readText
  split
  · split <;> simp
  · simp
  · rename_i fault hfind
    exact fun e => find_ne_noManifest root path (Except.error.inj e ▸ hfind)

/-- What starts a path that can be looked for can be looked for itself. -/
theorem Lookable.of_join {q : Path} (hq : q.isAbsolute = false) (hdir : dir.text ≠ "") (h : Lookable (dir.join q)) :
    Lookable dir := by
  obtain ⟨more, hmore⟩ := Path.exists_text_join hq hdir
  have hnul := h.no_nul
  have hshort := h.short
  rw [hmore] at hnul hshort
  rw [String.utf8ByteSize_append] at hshort
  rw [String.toList_append, List.mem_append, not_or] at hnul
  exact ⟨hnul.1, hdir, by omega⟩

/-- Whatever a path leads to is as file systems have it. -/
theorem Sound.find (hroot : root.Sound) (h : root.find path = .ok node) : node.Sound := by
  rw [find_eq_walk root (lookable_of_find h), ← List.append_nil path.pieces] at h
  obtain ⟨left, q, hsound, hmore⟩ := exists_walk_append _ _ path.pieces h
  have hhere := hmore []
  rw [h, walk] at hhere
  exact Except.ok.inj hhere ▸ (hsound (hroot.start path)).here

/-- The way to a name in a directory goes through the directory. -/
theorem exists_place_of_find_join {name : String} (hname : Path.IsName name) (hdir : dir.text ≠ "")
    (h : root.find (dir.join ⟨name⟩) = .ok node) :
    ∃ left q, root.find dir = .ok q.here ∧ walk left q [name.toList] = .ok node := by
  have hlookable := lookable_of_find h
  obtain ⟨front, _, hfront, hpieces, habsolute⟩ := Path.exists_pieces_join hname.isAbsolute_eq_false hdir
  rw [find_eq_walk root hlookable, hpieces, hname.pieces_eq] at h
  obtain ⟨left, q, _, hmore⟩ := exists_walk_append _ _ front h
  rw [hmore] at h
  obtain ⟨entries, hhere⟩ := exists_here_of_walk_cons h
  refine ⟨left, q, ?_, h⟩
  have hstart : root.start dir = root.start (dir.join ⟨name⟩) := by rw [start, start, habsolute]
  rw [find_eq_walk root (hlookable.of_join hname.isAbsolute_eq_false hdir), hstart]
  rcases hfront with hfront | hfront
  · rw [hfront, ← List.append_nil front, hmore, walk]
  · rw [hfront, hmore, walk_idle left hhere]

/-- Only in a directory is there a name to be found. -/
theorem isDirectory_of_find_join {name : String} (hname : Path.IsName name) (hdir : dir.text ≠ "")
    (h : root.find (dir.join ⟨name⟩) = .ok node) : root.isDirectory dir = true := by
  obtain ⟨left, q, hfind, hwalk⟩ := exists_place_of_find_join hname hdir h
  obtain ⟨entries, hhere⟩ := exists_here_of_walk_cons hwalk
  simp [isDirectory, hfind, hhere]

/-- What a name in a directory leads to is its entry there, or the entry is a link. -/
theorem lookup_of_find_join {name : String} (hname : Path.IsName name) (hdir : root.find dir = .ok (.directory entries))
    (h : root.find (dir.join ⟨name⟩) = .ok node) :
    ∃ entry, entries.lookup name = some entry ∧ (node = entry ∨ ∃ target, entry = .link target) := by
  obtain ⟨left, q, hfind, hwalk⟩ := exists_place_of_find_join hname (lookable_of_find hdir).not_empty h
  rw [hdir] at hfind
  exact lookup_of_walk_name (Except.ok.inj hfind).symm hname hwalk

end FileTree

/-! ## Trees that are told file by file -/

namespace Node

variable {node : Node} {entries : List (String × Node)}

/-- The entries of a directory stand in the order of their names, each of which leads to its own. -/
def Kept (entries : List (String × Node)) : Prop :=
  Ascending (entries.map Prod.fst) ∧ ∀ e ∈ entries, Path.IsName e.1

theorem kept_nil : Each Kept (.directory []) := .directory ⟨List.Pairwise.nil, by simp⟩ (by simp)

theorem sound_of_kept (h : Each Kept node) : node.Sound := h.mono fun _ hkept => ⟨hkept.1.nodup, hkept.2⟩

theorem kept_insert {name : String} (h : Each Kept (.directory entries)) (hname : Path.IsName name)
    (hnode : Each Kept node) : Each Kept (.directory (Keyed.insert name node entries)) := by
  cases h with
  | directory hkept hinside =>
    refine .directory ⟨Keyed.ascending_insert hkept.1, fun e he => ?_⟩ fun e he => ?_
    · rcases Keyed.mem_of_mem_insert he with rfl | he
      · exact hname
      · exact hkept.2 e he
    · rcases Keyed.mem_of_mem_insert he with rfl | he
      · exact hnode
      · exact hinside e he

/-- Putting a node somewhere keeps the order and the names of all directories. -/
theorem kept_put (hnode : Each Kept node) : ∀ {names : List String} {here : Node}, Each Kept here →
    (∀ name ∈ names, Path.IsName name) → Each Kept (node.put names here)
  | [], here, hhere, _ => by
    unfold put
    split
    · exact hhere
    · exact hnode
  | name :: names, here, hhere, hnames => by
    have hname := hnames name List.mem_cons_self
    have hrest := fun n hn => hnames n (List.mem_cons_of_mem _ hn)
    match here with
    | .directory entries =>
      refine kept_insert hhere hname (kept_put hnode ?_ hrest)
      cases hlookup : entries.lookup name with
      | none => exact kept_nil
      | some inside =>
        cases hhere with
        | directory hkept hinside => exact hinside _ ((IdMap.lookup_eq_some_iff hkept.1.nodup).mp hlookup)
    | .file _ => exact kept_insert kept_nil hname (kept_put hnode kept_nil hrest)
    | .link _ => exact kept_insert kept_nil hname (kept_put hnode kept_nil hrest)

end Node

namespace FileTree

variable {path : Path}

open Node

theorem isName_of_mem_names {name : String} (h : name ∈ names path) : Path.IsName name := by
  obtain ⟨component, hcomponent, hname⟩ := List.mem_filterMap.mp h
  cases component with
  | normal n =>
    obtain rfl := Option.some.inj hname
    exact Path.isName_of_mem_components hcomponent
  | root => cases hname
  | current => cases hname
  | parent => cases hname

theorem kept_foldl_put : ∀ {files : List (Path × Node)} {here : Node}, (∀ f ∈ files, Each Kept f.2) →
    Each Kept here → Each Kept (files.foldl (fun here f => f.2.put (names f.1) here) here)
  | [], _, _, hhere => hhere
  | f :: files, here, hfiles, hhere => by
    rw [List.foldl_cons]
    exact kept_foldl_put (fun g hg => hfiles g (List.mem_cons_of_mem _ hg))
      (kept_put (hfiles f List.mem_cons_self) hhere fun _ => isName_of_mem_names)

theorem kept_ofEntry (fields : List (String × Document)) : Each Kept (ofEntry fields) := by
  unfold ofEntry
  split
  · exact .link _
  · exact .file _
  · exact kept_nil
  · exact .file _

/-- Every tree that documents tell is as file systems have them. -/
theorem sound_ofListing (entries : List Document) : (ofListing entries).Sound := by
  refine ⟨sound_of_kept (kept_foldl_put (fun f hf => ?_) kept_nil), fun d hd => ?_⟩
  · obtain ⟨d, _, hd⟩ := List.mem_filterMap.mp hf
    cases d with
    | table fields =>
      obtain rfl := Option.some.inj hd
      exact kept_ofEntry fields
    | _ => cases hd
  · obtain rfl := List.mem_singleton.mp hd
    exact sound_of_kept kept_nil

end FileTree
end PluginHost
