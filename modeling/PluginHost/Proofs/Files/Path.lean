import PluginHost.Files.Path

/-!
# What paths go through

The components of a path that is joined to a base are those of the base and then those of its own pieces
(`components_join`): whatever slashes and dots either is written with, nothing else comes in between. The path that a
path lies in has all its components but the last (`components_parent?`). A name that is joined to a base is the one that
the path ends in (`IsName.fileName?_join`).

Only the first piece of a path is read in a way of its own, so both results are about `componentsOf`, which takes the
pieces and whether the path is absolute.
-/

namespace PluginHost.Path

variable {p : Path} {piece : List Char} {pieces : List (List Char)}

/-! ## Pieces -/

theorem pieces_ne_nil (p : Path) : p.pieces ≠ [] := Text.splitAtSep_ne_nil '/' _

theorem not_mem_of_mem_pieces (h : piece ∈ p.pieces) : '/' ∉ piece := Text.not_mem_of_mem_splitAtSep h

/-- Pieces that are joined are those of the path they make. -/
theorem pieces_ofPieces (hne : pieces ≠ []) (h : ∀ piece ∈ pieces, '/' ∉ piece) :
    (Path.mk (String.ofList (Text.joinWith '/' pieces))).pieces = pieces := by
  simpa [Path.pieces] using Text.splitAtSep_joinWith hne h

/-- A path is absolute when there is nothing before its first slash. -/
theorem isAbsolute_iff : p.isAbsolute = true ↔ ∃ next more, p.pieces = [] :: next :: more := by
  unfold isAbsolute pieces
  cases p.text.toList with
  | nil => simp [Text.splitAtSep]
  | cons c cs =>
    by_cases hc : c = '/'
    · obtain ⟨next, more, h⟩ := List.exists_cons_of_ne_nil (Text.splitAtSep_ne_nil '/' cs)
      simp [Text.splitAtSep, hc, h]
    · rw [Text.splitAtSep, if_neg hc]
      split <;> simp [hc]

theorem text_eq_empty_iff : p.text = "" ↔ p.pieces = [[]] := by
  constructor
  · intro h
    simp [pieces, h, Text.splitAtSep]
  · intro h
    have htext := Text.joinWith_splitAtSep '/' p.text.toList
    rw [show Text.splitAtSep '/' p.text.toList = [[]] from h] at htext
    exact String.toList_eq_nil_iff.mp htext.symm

/-! ## Components of pieces -/

/-- The components of pieces, the first of which may be the root or the current directory. -/
def componentsOf (absolute : Bool) : List (List Char) → List Component
  | [] => []
  | first :: more =>
    (if absolute then [.root] else if first = ['.'] then [.current] else (componentOf? first).toList)
      ++ more.filterMap componentOf?

theorem components_eq (p : Path) : p.components = componentsOf p.isAbsolute p.pieces := rfl

/-- The components of the pieces of a path, none of which is its first. -/
def inner (p : Path) : List Component := p.pieces.filterMap componentOf?

theorem componentsOf_append (absolute : Bool) (hne : pieces ≠ []) (more : List (List Char)) :
    componentsOf absolute (pieces ++ more) = componentsOf absolute pieces ++ more.filterMap componentOf? := by
  cases pieces with
  | nil => exact absurd rfl hne
  | cons first rest => simp [componentsOf]

theorem componentOf?_ne_root : componentOf? piece ≠ some .root := by
  unfold componentOf?
  split
  · simp
  · split <;> simp

theorem componentOf?_eq_parent_iff : componentOf? piece = some .parent ↔ piece = ['.', '.'] := by
  unfold componentOf?
  split
  · rename_i h
    rcases h with rfl | rfl <;> simp
  · split <;> simp_all

/-- No component of a piece is the root. -/
theorem root_not_mem_inner (p : Path) : Component.root ∉ p.inner := by
  intro h
  obtain ⟨piece, _, hpiece⟩ := List.mem_filterMap.mp h
  exact componentOf?_ne_root hpiece

/-- A piece with two dots is one more parent. -/
theorem parent_mem_inner_iff : Component.parent ∈ p.inner ↔ ['.', '.'] ∈ p.pieces := by
  simp [inner, List.mem_filterMap, componentOf?_eq_parent_iff]

/-- A path that is absolute starts at the root and goes through the components of its pieces. -/
theorem components_of_absolute (h : p.isAbsolute = true) : p.components = .root :: p.inner := by
  obtain ⟨next, more, hpieces⟩ := isAbsolute_iff.mp h
  rw [components_eq, inner, hpieces, h]
  simp [componentsOf, componentOf?]

/-- Any other path goes through the components of its pieces, and at most the current directory before. -/
theorem components_of_relative (h : p.isAbsolute = false) :
    p.components = p.inner ∨ p.components = .current :: p.inner := by
  obtain ⟨first, more, hpieces⟩ := List.exists_cons_of_ne_nil p.pieces_ne_nil
  rw [components_eq, inner, hpieces, h]
  by_cases hfirst : first = ['.']
  · exact Or.inr (by simp [componentsOf, hfirst, componentOf?])
  · refine Or.inl ?_
    cases hc : componentOf? first <;> simp [componentsOf, hfirst, hc]

theorem components_cases (p : Path) :
    p.components = .root :: p.inner ∨ p.components = p.inner ∨ p.components = .current :: p.inner := by
  cases h : p.isAbsolute with
  | true => exact Or.inl (components_of_absolute h)
  | false => exact Or.inr (components_of_relative h)

theorem inner_sublist (h : p.isAbsolute = false) : p.inner.Sublist p.components := by
  rcases components_of_relative h with hc | hc <;> simp [hc]

/-- A path goes through a parent exactly when one of its pieces is two dots. -/
theorem parent_mem_components_iff : Component.parent ∈ p.components ↔ ['.', '.'] ∈ p.pieces := by
  rw [← parent_mem_inner_iff]
  rcases p.components_cases with hc | hc | hc <;> simp [hc]

/-! ## Joining -/

/-- The pieces of a joined path: those of the base, less an empty one at its end, and then those of the path. -/
theorem exists_pieces_join {base : Path} (hp : p.isAbsolute = false) (hbase : base.text ≠ "") :
    ∃ front, front ≠ [] ∧ (base.pieces = front ∨ base.pieces = front ++ [[]]) ∧
      (base.join p).pieces = front ++ p.pieces ∧ (base.join p).isAbsolute = base.isAbsolute := by
  obtain ⟨c, cs, htext⟩ := List.exists_cons_of_ne_nil (mt String.toList_eq_nil_iff.mp hbase)
  by_cases hslash : base.text.toList.getLast? = some '/'
  · obtain ⟨before, hbefore⟩ := List.getLast?_eq_some_iff.mp hslash
    have hjoin : base.join p = ⟨base.text ++ p.text⟩ := by simp [join, hp, hbase, hslash]
    refine ⟨Text.splitAtSep '/' before, Text.splitAtSep_ne_nil _ _, Or.inr ?_, ?_, ?_⟩
    · rw [pieces, hbefore, Text.splitAtSep_append]
      rfl
    · rw [hjoin]
      simp only [pieces, String.toList_append, hbefore, List.append_assoc, List.singleton_append,
        Text.splitAtSep_append]
    · simp [hjoin, isAbsolute, String.toList_append, htext]
  · have hjoin : base.join p = ⟨base.text ++ "/" ++ p.text⟩ := by simp [join, hp, hbase, hslash]
    refine ⟨base.pieces, base.pieces_ne_nil, Or.inl rfl, ?_, ?_⟩
    · rw [hjoin]
      simp only [pieces, String.toList_append, List.append_assoc]
      exact Text.splitAtSep_append '/' _ _
    · simp [hjoin, isAbsolute, String.toList_append, htext]

/-- A joined path goes through what the base goes through, and then along its own pieces. -/
theorem components_join {base : Path} (hp : p.isAbsolute = false) (hbase : base.text ≠ "") :
    (base.join p).components = base.components ++ p.inner := by
  obtain ⟨front, hne, hfront, hpieces, habsolute⟩ := exists_pieces_join hp hbase
  have hcomponents : base.components = componentsOf base.isAbsolute front := by
    rcases hfront with h | h
    · rw [components_eq, h]
    · rw [components_eq, h, componentsOf_append _ hne]
      simp [componentOf?]
  rw [components_eq, hpieces, habsolute, componentsOf_append _ hne, hcomponents, inner]

/-- The text of a joined path starts with that of the base. -/
theorem exists_text_join {base : Path} (hp : p.isAbsolute = false) (hbase : base.text ≠ "") :
    ∃ more, (base.join p).text = base.text ++ more := by
  simp only [join, hp, hbase, if_false, Bool.false_eq_true]
  split
  · exact ⟨_, rfl⟩
  · exact ⟨_, String.append_assoc⟩

/-- Joined to the empty path, a path stays what it is. -/
theorem join_of_text_eq_empty {base : Path} (hbase : base.text = "") : base.join p = p := by
  simp [join, hbase]

/-! ## Names -/

/-- A name is one piece of a path, and one that matters. -/
def IsName (name : String) : Prop := name ≠ "" ∧ name ≠ "." ∧ name ≠ ".." ∧ '/' ∉ name.toList

instance (name : String) : Decidable (IsName name) := inferInstanceAs (Decidable (_ ∧ _ ∧ _ ∧ _))

namespace IsName

variable {name : String}

theorem pieces_eq (h : IsName name) : (Path.mk name).pieces = [name.toList] := Text.splitAtSep_of_not_mem h.2.2.2

theorem toList_ne (h : IsName name) : ¬(name.toList = [] ∨ name.toList = ['.']) ∧ name.toList ≠ ['.', '.'] := by
  obtain ⟨hempty, hdot, hdots, _⟩ := h
  refine ⟨not_or.mpr ⟨fun e => hempty ?_, fun e => hdot ?_⟩, fun e => hdots ?_⟩ <;>
    exact String.toList_inj.mp (by rw [e]; rfl)

theorem componentOf?_toList (h : IsName name) : componentOf? name.toList = some (.normal name) := by
  rw [componentOf?, if_neg h.toList_ne.1, if_neg h.toList_ne.2, String.ofList_toList]

theorem isAbsolute_eq_false (h : IsName name) : (Path.mk name).isAbsolute = false := by
  rw [← Bool.not_eq_true, isAbsolute_iff, h.pieces_eq]
  simp

/-- A path that is joined to a base ends in its name. -/
theorem fileName?_join (h : IsName name) (base : Path) : (base.join ⟨name⟩).fileName? = some name := by
  have hinner : (Path.mk name).inner = [.normal name] := by simp [inner, h.pieces_eq, h.componentOf?_toList]
  obtain ⟨before, hbefore⟩ : ∃ before, (base.join ⟨name⟩).components = before ++ [.normal name] := by
    by_cases hbase : base.text = ""
    · rcases components_of_relative h.isAbsolute_eq_false with hc | hc
      · exact ⟨[], by rw [join_of_text_eq_empty hbase, hc, hinner]; rfl⟩
      · exact ⟨[.current], by rw [join_of_text_eq_empty hbase, hc, hinner]; rfl⟩
    · exact ⟨base.components, by rw [components_join h.isAbsolute_eq_false hbase, hinner]⟩
  rw [fileName?, hbefore, List.getLast?_concat]

end IsName

theorem isName_of_componentOf? {name : String} (h : componentOf? piece = some (.normal name)) (hpiece : '/' ∉ piece) :
    IsName name := by
  unfold componentOf? at h
  split at h
  · cases h
  · rename_i hidle
    split at h
    · cases h
    · rename_i hparent
      obtain rfl := Component.normal.inj (Option.some.inj h)
      rw [not_or] at hidle
      refine ⟨fun e => hidle.1 ?_, fun e => hidle.2 ?_, fun e => hparent ?_, by rwa [String.toList_ofList]⟩ <;>
        rw [← String.toList_ofList (l := piece), e] <;> rfl

/-- The names that a path goes through are names of its pieces. -/
theorem isName_of_mem_components {name : String} (h : Component.normal name ∈ p.components) : IsName name := by
  have hinner : Component.normal name ∈ p.inner := by
    rcases p.components_cases with hc | hc | hc <;> simpa [hc] using h
  obtain ⟨piece, hpiece, hcomponent⟩ := List.mem_filterMap.mp hinner
  exact isName_of_componentOf? hcomponent (not_mem_of_mem_pieces hpiece)

/-! ## The path that a path lies in -/

/-- Pieces that do not matter are dropped from the end, all but the first. -/
theorem exists_dropIdle : ∀ {rev : List (List Char)}, rev ≠ [] →
    ∃ idle, rev = idle ++ dropIdle rev ∧ dropIdle rev ≠ [] ∧ (∀ piece ∈ idle, componentOf? piece = none) ∧
      ∀ piece next more, dropIdle rev = piece :: next :: more → (componentOf? piece).isSome
  | [], h => absurd rfl h
  | [piece], _ => ⟨[], rfl, by simp [dropIdle], by simp, by simp [dropIdle]⟩
  | piece :: next :: more, _ => by
    by_cases hidle : piece = [] ∨ piece = ['.']
    · obtain ⟨idle, heq, hne, hnone, hsome⟩ := exists_dropIdle (List.cons_ne_nil next more)
      have hdrop : dropIdle (piece :: next :: more) = dropIdle (next :: more) := by rw [dropIdle, if_pos hidle]
      rw [hdrop]
      refine ⟨piece :: idle, by rw [List.cons_append, ← heq], hne, ?_, hsome⟩
      rintro q (_ | ⟨_, hq⟩)
      · simp [componentOf?, hidle]
      · exact hnone q hq
    · have hdrop : dropIdle (piece :: next :: more) = piece :: next :: more := by rw [dropIdle, if_neg hidle]
      rw [hdrop]
      refine ⟨[], rfl, by simp, by simp, ?_⟩
      rintro _ _ _ ⟨⟩
      unfold componentOf?
      rw [if_neg hidle]
      split <;> rfl

theorem componentsOf_dropIdle (absolute : Bool) {rev : List (List Char)} (hne : rev ≠ []) :
    componentsOf absolute (dropIdle rev).reverse = componentsOf absolute rev.reverse := by
  obtain ⟨idle, heq, hkept, hnone, _⟩ := exists_dropIdle hne
  have hidle : idle.reverse.filterMap componentOf? = [] :=
    List.filterMap_eq_nil_iff.mpr fun piece h => hnone piece (List.mem_reverse.mp h)
  have hrev : rev.reverse = (dropIdle rev).reverse ++ idle.reverse := by rw [← List.reverse_append, ← heq]
  rw [hrev, componentsOf_append _ (by simpa using hkept), hidle, List.append_nil]

/-- A path that starts with the pieces of another is absolute when the other is. -/
theorem isAbsolute_eq_of_pieces {q : Path} {tail : List (List Char)} (h : p.pieces = q.pieces ++ tail)
    (hq : q.text ≠ "") : q.isAbsolute = p.isAbsolute := by
  rw [Bool.eq_iff_iff, isAbsolute_iff, isAbsolute_iff, h]
  constructor
  · rintro ⟨next, more, hpieces⟩
    exact ⟨next, more ++ tail, by simp [hpieces]⟩
  · rintro ⟨next, more, hpieces⟩
    obtain ⟨first, rest, hfirst⟩ := List.exists_cons_of_ne_nil q.pieces_ne_nil
    rw [hfirst, List.cons_append, List.cons.injEq] at hpieces
    obtain ⟨rfl, hrest⟩ := hpieces
    cases rest with
    | nil => exact absurd (text_eq_empty_iff.mpr hfirst) hq
    | cons r rs => exact ⟨r, rs, hfirst⟩

/-- The path of the first pieces of a path, given in reverse. -/
def ofKept : List (List Char) → Path
  | [[]] => ⟨"/"⟩
  | kept => ⟨String.ofList (Text.joinWith '/' kept.reverse)⟩

theorem components_ofKept {kept tail : List (List Char)} (h : p.pieces = kept.reverse ++ tail) (hkept : kept ≠ [])
    (htail : tail ≠ []) : (ofKept kept).components = componentsOf p.isAbsolute kept.reverse := by
  by_cases hroot : kept = [[]]
  · obtain ⟨next, more, rfl⟩ := List.exists_cons_of_ne_nil htail
    have habsolute : p.isAbsolute = true := isAbsolute_iff.mpr ⟨next, more, by simp [h, hroot]⟩
    rw [hroot, habsolute]
    rfl
  · have hof : ofKept kept = ⟨String.ofList (Text.joinWith '/' kept.reverse)⟩ := by
      rw [ofKept]
      exact hroot
    have hpieces : (ofKept kept).pieces = kept.reverse := by
      rw [hof]
      refine pieces_ofPieces (by simpa using hkept) fun piece hpiece => not_mem_of_mem_pieces (p := p) ?_
      rw [h]
      exact List.mem_append_left _ hpiece
    have habsolute : (ofKept kept).isAbsolute = p.isAbsolute :=
      isAbsolute_eq_of_pieces (by rw [h, hpieces]) fun htext => hroot <| by
        simpa using hpieces.symm.trans (text_eq_empty_iff.mp htext)
    rw [components_eq, hpieces, habsolute]

/-- The path that a path lies in goes through all its components but the last. -/
theorem components_parent? (p : Path) : (p.parent?.getD ⟨""⟩).components = p.components.dropLast := by
  have hrev : p.pieces.reverse ≠ [] := by simpa using p.pieces_ne_nil
  obtain ⟨idle, heq, hne, _, hsome⟩ := exists_dropIdle hrev
  have hcomponents : p.components = componentsOf p.isAbsolute (dropIdle p.pieces.reverse).reverse := by
    rw [componentsOf_dropIdle _ hrev, List.reverse_reverse, components_eq]
  match hkept : dropIdle p.pieces.reverse with
  | [] => exact absurd hkept hne
  | [last] =>
    -- at most one component, so the path lies in none or in the empty one
    have hparent : p.parent?.getD ⟨""⟩ = ⟨""⟩ := by
      unfold parent?
      rw [hkept]
      cases last <;> rfl
    have hdrop : p.components.dropLast = [] := by
      rw [hcomponents, hkept]
      simp only [List.reverse_singleton, componentsOf, List.filterMap_nil, List.append_nil]
      split
      · rfl
      · split
        · rfl
        · cases componentOf? last <;> rfl
    rw [hparent, hdrop]
    rfl
  | last :: next :: more =>
    obtain ⟨component, hcomponent⟩ := Option.isSome_iff_exists.mp (hsome last next more hkept)
    obtain ⟨idle', heq', hne', _⟩ := exists_dropIdle (List.cons_ne_nil next more)
    have hparent : p.parent?.getD ⟨""⟩ = ofKept (dropIdle (next :: more)) := by
      unfold parent?
      rw [hkept]
      simp only
      generalize dropIdle (next :: more) = kept
      split
      · rfl
      · rename_i hroot
        rw [ofKept, Option.getD_some]
        exact hroot
    have hpieces : p.pieces = (dropIdle (next :: more)).reverse ++ (idle'.reverse ++ last :: idle.reverse) := by
      rw [hkept] at heq
      generalize dropIdle (next :: more) = kept at heq'
      rw [← List.reverse_inj, heq, heq']
      simp
    have hlast : p.components = componentsOf p.isAbsolute (next :: more).reverse ++ [component] := by
      rw [hcomponents, hkept, List.reverse_cons, componentsOf_append _ (by simp)]
      simp [hcomponent]
    calc (p.parent?.getD ⟨""⟩).components
        = componentsOf p.isAbsolute (dropIdle (next :: more)).reverse := by
          rw [hparent, components_ofKept hpieces hne' (by simp)]
      _ = componentsOf p.isAbsolute (next :: more).reverse := componentsOf_dropIdle _ (List.cons_ne_nil _ _)
      _ = p.components.dropLast := by rw [hlast, List.dropLast_concat]

end PluginHost.Path
