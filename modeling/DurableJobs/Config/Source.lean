import DurableJobs.Config.Ini
import DurableJobs.Config.Json5
import DurableJobs.Config.KeyPath
import DurableJobs.Config.Ron
import DurableJobs.Config.Toml.Document
import DurableJobs.Config.Yaml.Document
import DurableJobs.Json.Parser
import DurableJobs.Text.Lower

/-!
# Sources of configuration

A layer comes from a file, whose format its extension tells, or from environment variables. A file is
asked for by its name with or without the extension; what is looked in is any list of names with texts.
-/

set_option autoImplicit false

namespace DurableJobs.Config

/-- Why a source gives no layer. -/
inductive SourceError where
  /-- There is no such file, or none of a known format. -/
  | absent
  /-- The text is not of its format, or holds no table. -/
  | malformed
  deriving DecidableEq, Repr

/-! ## Files -/

inductive Format where
  | toml
  | json
  | yaml
  | ini
  | ron
  | json5
  deriving DecidableEq, Repr

namespace Format

/-- The formats in the order in which they are looked for, with the extensions of each. -/
def extensions : List (Format × List String) :=
  [(.toml, ["toml"]), (.json, ["json"]), (.yaml, ["yaml", "yml"]), (.ini, ["ini"]),
   (.ron, ["ron"]), (.json5, ["json5"])]

def ofExtension? (extension : String) : Option Format :=
  (extensions.find? fun (_, names) => names.contains extension).map (·.1)

/-- The members of a document of a format. -/
def parse? (format : Format) (text : String) : Option (Keyed Json.Value) :=
  match format with
  | .toml => Toml.parse? text
  | .yaml => Yaml.parse? text
  | .ini => Ini.parse? text
  | .ron => Ron.parse? text
  | .json5 => Json5.parse? text
  | .json =>
      match Json.parse text with
      | .ok (.object members) => some members
      | _ => none

end Format

/-- Files by name. -/
abbrev Files := List (String × String)

/-- The extension of a file name: what stands behind its last dot, unless the dot begins the name. -/
def extension? (name : String) : Option String :=
  match Text.cutAtLast? '.' name.toList with
  | some (front, extension) =>
      if front.isEmpty || front.getLast? == some '/' then none else some (String.ofList extension)
  | none => none

/-- The file meant by a name: the one of that very name, or the first with an extension behind it. -/
def findFile? (files : Files) (name : String) : Option (String × Format × String) :=
  match files.lookup name with
  | some text =>
      ((extension? name).bind Format.ofExtension?).map fun format => (name, format, text)
  | none =>
      let named (format : Format) (extension : String) : Option (String × Format × String) :=
        (files.lookup (name ++ "." ++ extension)).map (name ++ "." ++ extension, format, ·)
      Format.extensions.findSome? fun (format, extensions) => extensions.findSome? (named format)

/-- The layer of a file. -/
def fileLayer (files : Files) (name : String) : Except SourceError (Keyed Value) :=
  match findFile? files name with
  | none => .error .absent
  | some (name, format, text) =>
      match format.parse? text with
      | some members => .ok (members.map fun (key, v) => (key, Value.ofDocument name v))
      | none => .error .malformed

/-- The layer of a file that need not be there. -/
def optionalFileLayer (files : Files) (name : String) : Except SourceError (Keyed Value) :=
  match fileLayer files name with
  | .error .absent => .ok []
  | layer => layer

/-! ## Environment variables -/

/-- What parts the names in a variable. -/
def separator : String := "__"

/-- The layer of the variables under a name, in any case: what follows the name and a separator is the
key, with a dot for each further separator. -/
def environmentLayer (name : String) (environment : List (String × String)) : Keyed Value :=
  let front := (name ++ separator).toList
  Keyed.ofList <| environment.filterMap fun (key, text) =>
    let cs := key.toList.flatMap Text.lowerOf
    if front.isPrefixOf cs then
      let key := Text.replaceAll separator "." (String.ofList (cs.drop front.length))
      some (key, .scalar (some "the environment") (.text text))
    else none

end DurableJobs.Config
