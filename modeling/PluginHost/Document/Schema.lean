import PluginHost.Document.Basic
import PluginHost.Text.Quoted
import PluginHost.Version.Range

/-!
# Reading values out of documents

A decoder takes a document to a value or says why the document does not fit. A structure may be given as a table, whose
unknown keys are ignored and whose fields are looked at in the order of their keys, or as a list of its fields in their
own order, from the end of which fields with a default may be left out.
-/

namespace PluginHost

/-- Why a document does not fit a structure. -/
inductive SchemaError where
  /-- A value of another kind was expected. -/
  | unexpected (found expected : String)
  /-- A number below zero was found where none may be. -/
  | negative (n : Int)
  | missingField (name : String)
  /-- A list of fields ends after `length` of them. -/
  | tooShort (length : Nat) (expected : String)
  /-- A list of fields has `length` of them, which is too many. -/
  | tooLong (length : Nat)
  | constraint (error : VersionError)
deriving DecidableEq, Repr

def SchemaError.message : SchemaError → String
  | unexpected found expected => "invalid type: " ++ found ++ ", expected " ++ expected
  | negative n => s!"invalid value: integer `{n}`, expected u64"
  | missingField name => s!"missing field `{name}`"
  | tooShort length expected => s!"invalid length {length}, expected {expected}"
  | tooLong length => s!"invalid length {length}, expected fewer elements in array"
  | constraint error => error.message

def Document.describe : Document → String
  | null => "null"
  | bool b => "boolean `" ++ (if b then "true" else "false") ++ "`"
  | integer n => s!"integer `{n}`"
  | float x => "floating point `" ++ x.render ++ "`"
  | text s => "string " ++ Text.quoted s
  | list _ => "sequence"
  | table _ => "map"

/-- Takes a document to a value or to the reason why it has none. -/
abbrev Decoder (α : Type) := Document → Except SchemaError α

namespace Decoder

/-- The error of a document that is not of the expected kind. -/
def refuse {α : Type} (expected : String) (d : Document) : Except SchemaError α :=
  .error (.unexpected d.describe expected)

/-- A text; `expected` is how a message calls it. -/
def textAs (expected : String) : Decoder String
  | .text s => .ok s
  | d => refuse expected d

def text : Decoder String := textAs "a string"

def bool : Decoder Bool
  | .bool b => .ok b
  | d => refuse "a boolean" d

/-- A number from zero on. -/
def natural : Decoder Nat
  | .integer n => if n < 0 then .error (.negative n) else .ok n.toNat
  | d => refuse "u64" d

/-- Null for the absent value, anything else for a value. -/
def optional {α : Type} (decoder : Decoder α) : Decoder (Option α)
  | .null => .ok none
  | d => (decoder d).map some

def items {α : Type} (decoder : Decoder α) : List Document → Except SchemaError (List α)
  | [] => .ok []
  | d :: ds => do
    let a ← decoder d
    let as ← items decoder ds
    return a :: as

def list {α : Type} (decoder : Decoder α) : Decoder (List α)
  | .list ds => items decoder ds
  | d => refuse "a sequence" d

/-- A range of versions, given by its text. -/
def range : Decoder VersionRange := fun d => do
  let s ← text d
  match VersionRange.parse s with
  | .ok r => return r
  | .error e => throw (.constraint e)

/-! ## Fields of a table -/

/-- The value of a field, none when the table has no such field. -/
def field? {α : Type} (fields : List (String × Document)) (name : String) (decoder : Decoder α) :
    Except SchemaError (Option α) :=
  match Document.field? name fields with
  | none => .ok none
  | some d => (decoder d).map some

/-- The value of a field that has to be there, given what the table says of it. -/
def required {α : Type} (name : String) : Option α → Except SchemaError α
  | some a => .ok a
  | none => .error (.missingField name)

/-! ## Fields in a list -/

/-- Takes the next field from a list, a default when the list has ended. -/
def next {α : Type} (decoder : Decoder α) (default : α) : List Document → Except SchemaError (α × List Document)
  | [] => .ok (default, [])
  | d :: ds => (decoder d).map fun a => (a, ds)

/-- Takes the next field, the one at `place`, from a list that must not have ended. -/
def nextRequired {α : Type} (decoder : Decoder α) (place : Nat) (expected : String) :
    List Document → Except SchemaError (α × List Document)
  | [] => .error (.tooShort place expected)
  | d :: ds => (decoder d).map fun a => (a, ds)

/-- All fields have been taken. -/
def finish (length : Nat) : List Document → Except SchemaError Unit
  | [] => .ok ()
  | _ :: _ => .error (.tooLong length)

end Decoder
end PluginHost
