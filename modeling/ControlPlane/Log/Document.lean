import ControlPlane.Files
import ControlPlane.Log.Filter
import ControlPlane.Toml.Parser

/-! The logging document, and how it is reloaded while the program runs. -/

namespace ControlPlane.Log

/-- How the lines of the log are written. -/
inductive Format where
  | pretty | json
deriving DecidableEq, Repr

namespace Format

/-- The word for a format. -/
def text : Format → String
  | .pretty => "pretty"
  | .json => "json"

/-- The format that a word names. -/
def ofText? : String → Option Format
  | "pretty" => some .pretty
  | "json" => some .json
  | _ => none

/-- The format of a value: its word, or a table with its word as the only key and nothing in it. -/
def ofToml? : Toml → Option Format
  | .text word => ofText? word
  | .table [(word, .table [])] | .table [(word, .list [])] => ofText? word
  | _ => none

end Format

/-- What a logging document says. -/
structure Document where
  /-- The level of all modules without one of their own. -/
  level : String := "info"
  format : Format := .pretty
  /-- The levels of single modules, sorted by module. -/
  modules : List (String × String) := []
deriving DecidableEq, Repr

namespace Document

/-- The texts of a table's fields, sorted by key. -/
def modules? (value : Toml) : Option (List (String × String)) := do
  let pairs ← (← value.fields?).mapM fun (key, value) => value.text?.map (key, ·)
  return pairs.mergeSort fun a b => decide (a.1 ≤ b.1)

/-- The document of a table; keys without a meaning are passed over. -/
def ofToml? (value : Toml) : Option Document := do
  let fields ← value.fields?
  let read {α : Type} (key : String) (of : Toml → Option α) (default : α) : Option α :=
    match Json.lookup key fields with
    | some value => of value
    | none => some default
  let default : Document := {}
  return { level := ← read "level" Toml.text? default.level
           format := ← read "format" Format.ofToml? default.format
           modules := ← read "modules" modules? default.modules }

/-- The directives of a document, the general level first. -/
def directives (document : Document) : String :=
  String.intercalate "," (Text.trim document.level ::
    document.modules.map fun (target, level) => target ++ "=" ++ Text.trim level)

/-- The filter of a document. -/
def filter (document : Document) : Except Error Filter :=
  match Filter.parse? document.directives with
  | some filter => .ok filter
  | none => .error (.config ("invalid log filter '" ++ document.directives ++
      "': invalid filter directive"))

/-- The document that a text gives, and its filter. -/
def parse (text : String) : Except Error (Document × Filter) :=
  match (Toml.parse? text).bind ofToml? with
  | some document => do return (document, ← document.filter)
  | none => .error (.config "invalid logging config: not a logging document")

/-- The document in a file, and its filter. -/
def load (files : Files) (path : String) : Except Error (Document × Filter) := do
  parse (← files.readText "logging config" path)

/-- The document in a file, or the default and the reason why it is used. -/
def loadOrDefault (files : Files) (path : String) : Document × Option Error :=
  match load files path with
  | .ok (document, _) => (document, none)
  | .error reason => ({}, some reason)

/-- The filter after the file changed; a document that is not in order leaves it as it is. -/
def reload (current : Filter) (files : Files) (path : String) : Filter :=
  match load files path with
  | .ok (_, filter) => filter
  | .error _ => current

end Document

end ControlPlane.Log
