import PluginHost.Files.Path

/-!
# Arguments of the command

`hearth [--config FILE] [--plugins-dir DIR] (list | resolve | load)`, or `--version` in front of the task.
-/

namespace PluginHost.Command

/-- What the command does. -/
inductive Task where
  /-- Lists the plugins of a directory. -/
  | list
  /-- Tells the order in which they would be loaded. -/
  | resolve
  /-- Loads them, tells what came of it, and stops them. -/
  | load
deriving DecidableEq, Repr

def Task.ofWord? (word : String) : Option Task :=
  if word = "list" then some list
  else if word = "resolve" then some resolve
  else if word = "load" then some load
  else none

/-- What the options say. -/
structure Settings where
  configFile : Option Path := none
  pluginsDir : Option Path := none
deriving DecidableEq, Repr

/-- Takes in an option. Its value is not empty, and no option is given twice. -/
def Settings.set? (s : Settings) (option value : String) : Option Settings :=
  if value = "" then none
  else if option = "--config" ∧ s.configFile = none then some { s with configFile := some ⟨value⟩ }
  else if option = "--plugins-dir" ∧ s.pluginsDir = none then some { s with pluginsDir := some ⟨value⟩ }
  else none

/-- What is asked for. -/
inductive Request where
  | version
  | run (task : Task) (settings : Settings)
deriving DecidableEq, Repr

namespace Request

/-- Whether an argument asks for the version; letters may follow the short form. -/
def asksVersion (argument : String) : Bool := argument == "--version" || "-V".isPrefixOf argument

/-- Whether an argument can be the value of the option before it: options cannot. -/
def isValue (argument : String) : Bool := argument == "-" || argument.toList.head? != some '-'

/-- The option and the value that an argument with an equals sign writes. -/
def splitValue? (argument : String) : Option (String × String) :=
  match argument.toList.dropWhile (· ≠ '=') with
  | [] => none
  | _ :: value => some (String.ofList (argument.toList.takeWhile (· ≠ '=')), String.ofList value)

/-- Reads arguments after those that `settings` were read from; none when they are not those of the command. -/
def ofArguments? (settings : Settings) : List String → Option Request
  | [] => none
  | argument :: rest =>
    match Task.ofWord? argument with
    | some task => if rest = [] ∨ rest = ["--"] then some (.run task settings) else none
    | none =>
      if asksVersion argument then some .version
      else match splitValue? argument with
        | some (option, value) => (settings.set? option value).bind fun settings => ofArguments? settings rest
        | none =>
          match rest with
          | [] => none
          | value :: rest =>
            if isValue value then (settings.set? argument value).bind fun settings => ofArguments? settings rest
            else none

end Request
end PluginHost.Command
