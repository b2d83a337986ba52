import PluginHost.Number.Shortest
import PluginHost.Ordered.Keyed

/-!
# Documents

A document is what a manifest or configuration text says once its format no longer matters: a value made of scalars,
lists and tables. The keys of a table are ascending, so a table has one form.
-/

namespace PluginHost

/-- A generic value. Integers fit 64 bits, with or without sign. -/
inductive Document where
  | null
  | bool (b : Bool)
  | integer (n : Int)
  | float (x : Binary64)
  | text (s : String)
  | list (items : List Document)
  | table (fields : List (String × Document))

namespace Document

/-- The table of some fields; of several with one key the last one counts. -/
def tableOf (fields : List (String × Document)) : Document := .table (Keyed.ofList fields)

/-- The value of a field. -/
def field? (key : String) (fields : List (String × Document)) : Option Document := fields.lookup key

end Document
end PluginHost
