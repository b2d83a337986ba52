import PluginHost.Document.Basic

/-!
# TOML documents

The values of a TOML text. A table remembers how it came about, since that decides what may still be added to it:
`Toml.insert` puts a value under a dotted key, `Toml.openTable` and `Toml.openItem` make room for a header. Each of
them refuses to say a thing twice.

* `insert_twice`: a key of the outermost table is not taken twice.
-/

namespace PluginHost

/-- How a table came about. -/
inductive TableOrigin where
  /-- Written between braces. -/
  | inline
  /-- Opened by a header of its own. -/
  | header
  /-- On the way of another header. -/
  | path
  /-- On the way of a dotted key. -/
  | dotted
deriving DecidableEq, Repr

/-- A value of a TOML text. -/
inductive Toml where
  | text (s : String)
  | integer (n : Int)
  /-- A number with a point or an exponent; `none` for infinities and for what is no number. -/
  | float (x : Option Binary64)
  | bool (b : Bool)
  /-- A date, a time or both, as written. -/
  | moment (written : String)
  | array (items : List Toml)
  | table (origin : TableOrigin) (fields : List (String × Toml))
  /-- The tables that headers in double brackets opened. -/
  | tables (items : List (List (String × Toml)))

namespace Toml

/-- The fields of a table in the order of the text. -/
abbrev Fields := List (String × Toml)

/-- Gives a field a new value; a new field comes last. -/
def setField (key : String) (value : Toml) : Fields → Fields
  | [] => [(key, value)]
  | (k, v) :: rest => if k = key then (k, value) :: rest else (k, v) :: setField key value rest

/-- Changes the table that a path leads to. Tables that are not there yet are made; of several tables under one key
the last one is meant. A dotted key leads only through tables that no header of their own opened. -/
def descend (dotted : Bool) (change : TableOrigin → Fields → Option Fields) :
    List String → TableOrigin → Fields → Option Fields
  | [], origin, fields => change origin fields
  | key :: path, _, fields => do
    let value ← match fields.lookup key with
      | none =>
        let origin : TableOrigin := if dotted then .dotted else .path
        (descend dotted change path origin []).map (table origin)
      | some (table origin inner) =>
        if origin = .inline ∨ dotted ∧ origin = .header then none
        else (descend dotted change path origin inner).map (table origin)
      | some (tables items) =>
        match items.getLast? with
        | some inner => (descend dotted change path .header inner).map fun inner => tables (items.dropLast ++ [inner])
        | none => none
      | some _ => none
    return setField key value fields

/-- Puts a value into a table, under a key that is new there. At the end of a dotted key the table has to be one that
dotted keys made. -/
def putNew (viaDots : Bool) (key : String) (value : Toml) (origin : TableOrigin) (fields : Fields) : Option Fields :=
  if viaDots ∧ origin ≠ .dotted then none
  else if (fields.lookup key).isSome then none
  else some (fields ++ [(key, value)])

def insert (path : List String) (key : String) (value : Toml) (origin : TableOrigin) (fields : Fields) :
    Option Fields :=
  descend true (putNew (!path.isEmpty) key value) path origin fields

/-- Opens the table of a header; it may be one that was only on the way of headers so far. -/
def openTable (path : List String) (key : String) (root : Fields) : Option Fields :=
  descend false (fun _ fields => match fields.lookup key with
    | none => some (fields ++ [(key, table .header [])])
    | some (table .path inner) => some (setField key (table .header inner) fields)
    | some _ => none) path .header root

/-- Opens one more table of a header in double brackets. -/
def openItem (path : List String) (key : String) (root : Fields) : Option Fields :=
  descend false (fun _ fields => match fields.lookup key with
    | none => some (fields ++ [(key, tables [[]])])
    | some (tables items) => some (setField key (tables (items ++ [[]])) fields)
    | some _ => none) path .header root

/-- Puts a value under a dotted key into the table of the last header. -/
def insertUnder (header path : List String) (key : String) (value : Toml) (root : Fields) : Option Fields :=
  descend false (insert path key value) header .header root

/-- A key of the outermost table is not taken twice. -/
theorem insert_twice {key : String} {v w : Toml} {origin : TableOrigin} {fields fields' : Fields}
    (h : insert [] key v origin fields = some fields') : insert [] key w origin fields' = none := by
  simp only [insert, descend, putNew, List.isEmpty_nil, Bool.not_true, Bool.false_eq_true, false_and, if_false] at h ⊢
  split at h
  · cases h
  · rename_i hnone
    cases h
    rw [if_pos]
    exact List.lookup_isSome_iff.mpr ⟨(key, v), by simp, by simp⟩

/-! ## The value -/

mutual

/-- The value of a TOML value. A date is a table, and a number that is not finite has no value. -/
def toDocument : Toml → Document
  | text s => .text s
  | integer n => .integer n
  | float (some x) => .float x
  | float none => .null
  | bool b => .bool b
  | moment written => .table [("moment", .text written)]
  | array items => .list (itemDocuments items)
  | table _ fields => Document.tableOf (fieldDocuments fields)
  | tables items => .list (tableDocuments items)

def itemDocuments : List Toml → List Document
  | [] => []
  | item :: items => toDocument item :: itemDocuments items

def fieldDocuments : List (String × Toml) → List (String × Document)
  | [] => []
  | (key, value) :: fields => (key, toDocument value) :: fieldDocuments fields

def tableDocuments : List (List (String × Toml)) → List Document
  | [] => []
  | fields :: items => Document.tableOf (fieldDocuments fields) :: tableDocuments items

end

end Toml
end PluginHost
