import PluginHost.Document.Read
import PluginHost.Ordered.Ascending

/-!
# Writing JSON

A writer of JSON, and that reading takes back what it writes: any document of texts, truth values, lists and tables
that is nested no deeper than a reader goes (`Document.Plain`). A text *spells* a document when it is read as one
whatever follows it (`Json.Spells`); lists and tables are spelled by the spellings of their parts.

* `Json.spells_write`: what is written for a plain document spells it.
* `Json.read?_print`: reading gives it back.
-/

namespace PluginHost

/-- The fields of a table are kept as they are when their keys are ascending. -/
theorem Keyed.ofList_of_ascending {α : Type} {fields : List (String × α)} (h : Ascending (fields.map Prod.fst)) :
    ofList fields = fields := by
  have hlast : ∀ {key : String} {value : α} {sorted : List (String × α)},
      (∀ k ∈ sorted.map Prod.fst, k < key) → insert key value sorted = sorted ++ [(key, value)] := by
    intro key value sorted hlt
    induction sorted with
    | nil => rfl
    | cons f sorted ih =>
      obtain ⟨hf, hlt⟩ := List.forall_mem_cons.mp hlt
      rw [insert, if_neg (String.lt_asymm hf), if_neg (fun e => String.lt_irrefl _ (e ▸ hf)), ih hlt]
      rfl
  have go : ∀ (fields sorted : List (String × α)), Ascending ((sorted ++ fields).map Prod.fst) →
      fields.foldl (fun sorted field => insert field.1 field.2 sorted) sorted = sorted ++ fields := by
    intro fields
    induction fields with
    | nil => intro sorted _; rw [List.append_nil, List.foldl_nil]
    | cons f fields ih =>
      intro sorted h
      have hlt : ∀ k ∈ sorted.map Prod.fst, k < f.1 := by
        intro k hk
        rw [List.map_append] at h
        exact (List.pairwise_append.mp h).2.2 k hk f.1 (by simp)
      rw [List.foldl_cons, hlast hlt, ih _ (by simpa using h), List.append_assoc]
      rfl
  exact go fields [] h

/-- Documents of texts, truth values, lists and tables, with lists and tables nested at most `depth` deep. -/
inductive Document.Plain : Nat → Document → Prop
  | bool {depth : Nat} (b : Bool) : Plain depth (.bool b)
  | text {depth : Nat} (s : String) : Plain depth (.text s)
  | list {depth : Nat} {items : List Document} : (∀ d ∈ items, Plain depth d) → Plain (depth + 1) (.list items)
  | table {depth : Nat} {fields : List (String × Document)} : Ascending (fields.map Prod.fst) →
      (∀ f ∈ fields, Plain depth f.2) → Plain (depth + 1) (.table fields)

namespace Json

/-! ## The writer -/

/-- The letters of the escapes that are written. -/
def escapeLetters : List Char := ['"', '\\', 'b', 'f', 'n', 'r', 't']

/-- A character inside a text: a control without an escape of its own is written by its code. -/
def writeChar (c : Char) : List Char :=
  match escapeLetters.find? fun letter => escaped? letter = some c with
  | some letter => ['\\', letter]
  | none =>
    if c.toNat < 0x20 then ['\\', 'u', '0', '0', Nat.digitChar (c.toNat / 16), Nat.digitChar (c.toNat % 16)] else [c]

def writeText (s : String) : List Char := '"' :: (s.toList.flatMap writeChar ++ ['"'])

mutual

def write : Document → List Char
  | .null => "null".toList
  | .bool true => "true".toList
  | .bool false => "false".toList
  | .integer n => (toString n).toList
  | .float x => x.render.toList
  | .text s => writeText s
  | .list items => '[' :: (writeItems items ++ [']'])
  | .table fields => '\x7b' :: (writeFields fields ++ ['\x7d'])

def writeItems : List Document → List Char
  | [] => []
  | [item] => write item
  | item :: next :: items => write item ++ ',' :: writeItems (next :: items)

def writeFields : List (String × Document) → List Char
  | [] => []
  | [(key, value)] => writeText key ++ ':' :: write value
  | (key, value) :: next :: fields => writeText key ++ ':' :: (write value ++ ',' :: writeFields (next :: fields))

end

/-- The JSON text of a document. -/
def print (d : Document) : String := String.ofList (write d)

/-! ## Texts -/

theorem natOfBase?_control :
    ∀ n < 0x20, natOfBase? 16 ['0', '0', Nat.digitChar (n / 16), Nat.digitChar (n % 16)] = some n := by
  decide

theorem unitOfHex?_control {c : Char} (h : c.toNat < 0x20) :
    unitOfHex? ['0', '0', Nat.digitChar (c.toNat / 16), Nat.digitChar (c.toNat % 16)] = some (.char c) := by
  have hsurrogate : ¬ (0xD800 ≤ c.toNat ∧ c.toNat < 0xE000) := by omega
  simp only [unitOfHex?, natOfBase?_control c.toNat h, Option.map_some, if_neg hsurrogate, Char.ofNat_toNat]

/-- Reading takes a written character for the one that it stands for. -/
theorem readUnits_writeChar (c : Char) (rest : List Char) :
    readUnits (writeChar c ++ rest) = pushUnit (some (.char c)) (readUnits rest) := by
  unfold writeChar
  split
  · rename_i letter hfind
    have hescaped : escaped? letter = some c := by simpa using List.find?_some hfind
    have hletter : letter ∈ escapeLetters := List.mem_of_find?_eq_some hfind
    simp only [escapeLetters, List.mem_cons, List.not_mem_nil, or_false] at hletter
    rcases hletter with rfl | rfl | rfl | rfl | rfl | rfl | rfl <;> simp [readUnits, hescaped]
  · rename_i hfind
    have hplain : ∀ letter ∈ escapeLetters, escaped? letter ≠ some c := by
      simpa [List.find?_eq_none] using hfind
    split
    · rename_i hcontrol
      simp only [List.cons_append, List.nil_append, readUnits, unitOfHex?_control hcontrol]
    · -- The escapes that are left out are those of the quote and the backslash, so neither stands here by itself.
      rename_i hcontrol
      have hquote : c ≠ '"' := fun e => hplain '"' (by decide) (by rw [e]; rfl)
      have hslash : c ≠ '\\' := fun e => hplain '\\' (by decide) (by rw [e]; rfl)
      simp [readUnits, hslash, hcontrol]

theorem readUnits_flatMap : ∀ (cs rest : List Char),
    readUnits (cs.flatMap writeChar ++ '"' :: rest) = some (cs.map .char, rest)
  | [], rest => by simp [readUnits]
  | c :: cs, rest => by
    rw [List.flatMap_cons, List.append_assoc, readUnits_writeChar, readUnits_flatMap cs rest]
    rfl

theorem charsOf?_map_char : ∀ cs : List Char, charsOf? (cs.map .char) = some cs
  | [] => rfl
  | c :: cs => by rw [List.map_cons, charsOf?, charsOf?_map_char cs, Option.map_some]

theorem readText_write (s : String) (rest : List Char) :
    readText (s.toList.flatMap writeChar ++ '"' :: rest) = some (some s, rest) := by
  simp only [readText, readUnits_flatMap, Option.map_some, charsOf?_map_char, String.ofList_toList]

/-! ## Values -/

/-- A text is read as a syntax tree that has a document of some depth as its value, whatever follows it. Every character
is passed by one call at least, and the calls for the items of a list take a unit of fuel each. -/
structure Spells (cs : List Char) (json : Json) (depth : Nat) (d : Document) : Prop where
  /-- It is not taken for a blank, or for the end of a list. -/
  head : ∃ c more, cs = c :: more ∧ isSpace c = false ∧ c ≠ ']'
  reads : ∀ {fuel : Nat} (rest : List Char), 2 * cs.length ≤ fuel →
    readValue fuel (cs ++ rest) = some (json, rest)
  value : ∀ {room : Nat}, depth < room → valueOf? room json = some d

theorem skipSpace_cons {c : Char} {cs : List Char} (h : isSpace c = false) : skipSpace (c :: cs) = c :: cs := by
  simp [skipSpace, h]

theorem spells_bool (b : Bool) (depth : Nat) : Spells (write (.bool b)) (.bool b) depth (.bool b) where
  head := by cases b <;> exact ⟨_, _, rfl, rfl, by decide⟩
  reads := by
    intro fuel rest hfuel
    cases fuel with
    | zero => cases b <;> simp [write] at hfuel
    | succ fuel => cases b <;> simp [write, readValue, skipSpace_cons, isSpace]
  value := fun _ => by rw [valueOf?]

theorem spells_text (s : String) (depth : Nat) : Spells (writeText s) (.text (some s)) depth (.text s) where
  head := ⟨_, _, rfl, rfl, by decide⟩
  reads := by
    intro fuel rest hfuel
    cases fuel with
    | zero => simp [writeText] at hfuel
    | succ fuel => simp [writeText, readValue, skipSpace_cons, isSpace, readText_write]
  value := fun _ => by rw [valueOf?]; rfl

/-- The items of a list are read up to its end, each by its spelling. -/
theorem reads_items {depth : Nat} : ∀ {items : List Document}, items ≠ [] →
    (∀ d ∈ items, ∃ json, Spells (write d) json depth d) → ∃ jsons,
      (∀ {fuel : Nat} (rest : List Char), 2 * (writeItems items).length + 1 ≤ fuel →
        readItems fuel (writeItems items ++ ']' :: rest) = some (jsons, rest)) ∧
      ∀ {room : Nat}, depth < room → valuesOf? room jsons = some items
  | [], hne, _ => absurd rfl hne
  | [d], _, h => by
    obtain ⟨json, hd⟩ := h d List.mem_cons_self
    refine ⟨[json], fun {fuel} rest hfuel => ?_, fun hroom => ?_⟩
    · rw [writeItems] at hfuel ⊢
      obtain ⟨fuel, rfl⟩ := Nat.exists_eq_add_one.mpr (by omega : 0 < fuel)
      have hitem := hd.reads (']' :: rest) (by omega : 2 * (write d).length ≤ fuel)
      simp [readItems, hitem, skipSpace_cons, isSpace]
    · simp [valuesOf?, hd.value hroom]
  | d :: d' :: ds, _, h => by
    obtain ⟨json, hd⟩ := h d List.mem_cons_self
    obtain ⟨jsons, hreads, hvalues⟩ :=
      reads_items (List.cons_ne_nil d' ds) fun e he => h e (List.mem_cons_of_mem _ he)
    refine ⟨json :: jsons, fun {fuel} rest hfuel => ?_, fun hroom => ?_⟩
    · rw [writeItems] at hfuel ⊢
      simp only [List.length_append, List.length_cons] at hfuel
      obtain ⟨fuel, rfl⟩ := Nat.exists_eq_add_one.mpr (by omega : 0 < fuel)
      have hitem := hd.reads (',' :: (writeItems (d' :: ds) ++ ']' :: rest)) (by omega : 2 * (write d).length ≤ fuel)
      have hitems := hreads rest (by omega : 2 * (writeItems (d' :: ds)).length + 1 ≤ fuel)
      simp [readItems, hitem, hitems, skipSpace_cons, isSpace]
    · simp [valuesOf?, hd.value hroom, hvalues hroom]

/-- The fields of a table are read up to its end, each by the spelling of its value. -/
theorem reads_fields {depth : Nat} : ∀ {fields : List (String × Document)}, fields ≠ [] →
    (∀ f ∈ fields, ∃ json, Spells (write f.2) json depth f.2) → ∃ jsons,
      (∀ {fuel : Nat} (rest : List Char), 2 * (writeFields fields).length + 1 ≤ fuel →
        readFields fuel (writeFields fields ++ '\x7d' :: rest) = some (jsons, rest)) ∧
      ∀ {room : Nat}, depth < room → fieldsOf? room jsons = some fields
  | [], hne, _ => absurd rfl hne
  | [(key, d)], _, h => by
    obtain ⟨json, hd⟩ := h (key, d) List.mem_cons_self
    refine ⟨[(some key, json)], fun {fuel} rest hfuel => ?_, fun hroom => ?_⟩
    · rw [writeFields] at hfuel ⊢
      simp only [List.length_append, List.length_cons] at hfuel
      obtain ⟨fuel, rfl⟩ := Nat.exists_eq_add_one.mpr (by omega : 0 < fuel)
      have hvalue := hd.reads ('\x7d' :: rest) (by omega : 2 * (write d).length ≤ fuel)
      simp [writeText, readFields, readText_write, hvalue, skipSpace_cons, isSpace]
    · simp [fieldsOf?, hd.value hroom]
  | (key, d) :: f :: fs, _, h => by
    obtain ⟨json, hd⟩ := h (key, d) List.mem_cons_self
    obtain ⟨jsons, hreads, hvalues⟩ :=
      reads_fields (List.cons_ne_nil f fs) fun e he => h e (List.mem_cons_of_mem _ he)
    refine ⟨(some key, json) :: jsons, fun {fuel} rest hfuel => ?_, fun hroom => ?_⟩
    · rw [writeFields] at hfuel ⊢
      simp only [List.length_append, List.length_cons] at hfuel
      obtain ⟨fuel, rfl⟩ := Nat.exists_eq_add_one.mpr (by omega : 0 < fuel)
      have hvalue :=
        hd.reads (',' :: (writeFields (f :: fs) ++ '\x7d' :: rest)) (by omega : 2 * (write d).length ≤ fuel)
      have hfields := hreads rest (by omega : 2 * (writeFields (f :: fs)).length + 1 ≤ fuel)
      simp [writeText, readFields, readText_write, hvalue, hfields, skipSpace_cons, isSpace]
    · simp [fieldsOf?, hd.value hroom, hvalues hroom]

theorem head_writeItems {d : Document} {json : Json} {depth : Nat} (h : Spells (write d) json depth d)
    (ds : List Document) : ∃ c more, writeItems (d :: ds) = c :: more ∧ isSpace c = false ∧ c ≠ ']' := by
  obtain ⟨c, more, hd, hspace, hbracket⟩ := h.head
  cases ds with
  | nil => exact ⟨c, more, by rw [writeItems, hd], hspace, hbracket⟩
  | cons d' ds => exact ⟨c, _, by rw [writeItems, hd, List.cons_append], hspace, hbracket⟩

theorem head_writeFields (f : String × Document) (fields : List (String × Document)) :
    ∃ more, writeFields (f :: fields) = '"' :: more := by
  cases fields with
  | nil => exact ⟨_, by rw [writeFields, writeText, List.cons_append]⟩
  | cons g fields => exact ⟨_, by rw [writeFields, writeText, List.cons_append]⟩

theorem spells_list {items : List Document} {depth : Nat}
    (h : ∀ d ∈ items, ∃ json, Spells (write d) json depth d) :
    ∃ json, Spells (write (.list items)) json (depth + 1) (.list items) := by
  cases items with
  | nil =>
    refine ⟨.array [], ⟨_, _, rfl, rfl, by decide⟩, fun {fuel} rest hfuel => ?_, fun {room} hroom => ?_⟩
    · rw [write, writeItems] at hfuel ⊢
      obtain ⟨fuel, rfl⟩ := Nat.exists_eq_add_one.mpr (Nat.lt_of_lt_of_le (by simp) hfuel)
      simp [readValue, skipSpace_cons, isSpace]
    · simp [valueOf?, valuesOf?, (by omega : 1 < room)]
  | cons d ds =>
    obtain ⟨jsons, hreads, hvalues⟩ := reads_items (List.cons_ne_nil d ds) h
    refine ⟨.array jsons, ⟨_, _, rfl, rfl, by decide⟩, fun {fuel} rest hfuel => ?_, fun {room} hroom => ?_⟩
    · rw [write, List.length_cons, List.length_append] at hfuel
      obtain ⟨fuel, rfl⟩ := Nat.exists_eq_add_one.mpr (by omega : 0 < fuel)
      have hitems := hreads rest (by omega : 2 * (writeItems (d :: ds)).length + 1 ≤ fuel)
      obtain ⟨json, hd⟩ := h d List.mem_cons_self
      obtain ⟨c, more, hhead, hspace, hbracket⟩ := head_writeItems hd ds
      rw [hhead, List.cons_append] at hitems
      simp [write, readValue, hhead, hitems, skipSpace_cons (c := '[') rfl, skipSpace_cons hspace, hbracket]
    · simp [valueOf?, hvalues (by omega : depth < room - 1), (by omega : 1 < room)]

theorem spells_table {fields : List (String × Document)} {depth : Nat} (hkeys : Ascending (fields.map Prod.fst))
    (h : ∀ f ∈ fields, ∃ json, Spells (write f.2) json depth f.2) :
    ∃ json, Spells (write (.table fields)) json (depth + 1) (.table fields) := by
  cases fields with
  | nil =>
    refine ⟨.object [], ⟨_, _, rfl, rfl, by decide⟩, fun {fuel} rest hfuel => ?_, fun {room} hroom => ?_⟩
    · rw [write, writeFields] at hfuel ⊢
      obtain ⟨fuel, rfl⟩ := Nat.exists_eq_add_one.mpr (Nat.lt_of_lt_of_le (by simp) hfuel)
      simp [readValue, skipSpace_cons, isSpace]
    · simp [valueOf?, fieldsOf?, Document.tableOf, Keyed.ofList, (by omega : 1 < room)]
  | cons f fs =>
    obtain ⟨jsons, hreads, hvalues⟩ := reads_fields (List.cons_ne_nil f fs) h
    refine ⟨.object jsons, ⟨_, _, rfl, rfl, by decide⟩, fun {fuel} rest hfuel => ?_, fun {room} hroom => ?_⟩
    · rw [write, List.length_cons, List.length_append] at hfuel
      obtain ⟨fuel, rfl⟩ := Nat.exists_eq_add_one.mpr (by omega : 0 < fuel)
      have hfields := hreads rest (by omega : 2 * (writeFields (f :: fs)).length + 1 ≤ fuel)
      obtain ⟨more, hhead⟩ := head_writeFields f fs
      rw [hhead, List.cons_append] at hfields
      simp [write, readValue, hhead, hfields, skipSpace_cons, isSpace]
    · simp [valueOf?, hvalues (by omega : depth < room - 1), Document.tableOf, Keyed.ofList_of_ascending hkeys,
        (by omega : 1 < room)]

/-- What is written for a plain document spells it. -/
theorem spells_write {depth : Nat} {d : Document} (h : d.Plain depth) : ∃ json, Spells (write d) json depth d := by
  induction h with
  | bool b => exact ⟨.bool b, spells_bool b _⟩
  | text s => exact ⟨.text (some s), by rw [write]; exact spells_text s _⟩
  | list _ ih => exact spells_list ih
  | table hkeys _ ih => exact spells_table hkeys ih

/-- Reading takes back what is written for a document that is nested less deep than a reader goes. -/
theorem read?_print {depth : Nat} {d : Document} (h : d.Plain depth) (hdepth : depth < maxDepth) :
    Document.read? .json (print d) = some d := by
  obtain ⟨json, hd⟩ := spells_write h
  have hread : readValue (2 * (write d).length + 2) (write d) = some (json, []) := by
    simpa using hd.reads [] (Nat.le_add_right (2 * (write d).length) 2)
  simp [Document.read?, parse?, print, String.toList_ofList, hread, skipSpace, toDocument?, hd.value hdepth]

example : print (.table [("a", .list [.bool true, .text "\"\n\x01"])]) =
    "\x7b\"a\":[true,\"\\\"\\n\\u0001\"]\x7d" := rfl

end Json
end PluginHost
