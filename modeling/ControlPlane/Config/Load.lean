import ControlPlane.Config.Place
import ControlPlane.Config.Record
import ControlPlane.Decimal.Plain
import ControlPlane.Text.Casing
import ControlPlane.Toml.Parser

/-! Loading the configuration: a TOML file, and environment variables that override it. -/

namespace ControlPlane.Config

/-- A variable of the environment. -/
structure Variable where
  name : String
  value : String

namespace Variable

/-- How the names of variables begin that belong to the program, in lower case. -/
def family : String := "flowgate__"

/-- The key of the setting that a variable overrides; two underscores separate its names. -/
def key? (entry : Variable) : Option String := do
  let name ← Text.afterPrefix? family.toList (Text.toLower entry.name).toList
  return String.intercalate "." ((String.ofList name).splitOn "__")

/-- The value of a variable: a truth value, a number, or else a text. -/
def setting (entry : Variable) : Json :=
  let cs := entry.value.toList
  let word := Text.toLower entry.value
  let integer := (Decimal.readInt? cs).filter fun n => -(Int.pow 2 63) ≤ n && n < Int.pow 2 63
  if word = "true" then .bool true
  else if word = "false" then .bool false
  else match integer, Decimal.readDouble? cs with
    | some n, _ => .num (.int n)
    | none, some d => .num (.real d)
    | none, none => .str entry.value

end Variable

/-- The settings of a file, with those of the environment in front. -/
def settings (file : List (String × Json)) (environment : List Variable) : Json :=
  let store (settings : Json) (key : String) (value : Json) : Json :=
    put value (Place.ofKey key) (some settings)
  let filed := file.foldl (fun settings (key, value) => store settings key value) (.obj [])
  environment.foldl (fun settings entry =>
    match entry.key? with
    | some key => store settings key entry.setting
    | none => settings) filed

/-- The text of a setting; truth values and numbers have one. -/
def settingText? : Json → Option String
  | .str text => some text
  | .bool value => some (if value then "true" else "false")
  | .num (.int n) => some (Json.Literal.intText n)
  | .num (.real d) => some (Decimal.plainText d)
  | _ => none

/-- The whole number of 64 bits that a text denotes. -/
def textCount? (text : String) : Option Nat :=
  let word := Text.toLower text
  if ["true", "on", "yes"].contains word then some 1
  else if ["false", "off", "no"].contains word then some 0
  else match text.toList with
    | '-' :: _ => none
    | cs => (Decimal.readInt? cs).bind fun n => if n < Int.pow 2 64 then some n.toNat else none

/-- The whole number of a setting: numbers with a fraction are rounded, and kept within 64 bits. -/
def settingCount? : Json → Option Nat
  | .str text => textCount? text
  | .bool value => some value.toNat
  | .num (.int n) => if 0 ≤ n then some n.toNat else none
  | .num (.real d) =>
    if d.isFinite then some (min d.roundAway.toNat (Nat.pow 2 64 - 1))
    else some (if d.fraction = 0 && !d.isNegative then Nat.pow 2 64 - 1 else 0)
  | _ => none

/-- Settings, which are turned into the types asked for; counts lose the bits in excess. -/
def settingSource : Source Json where
  fields names value :=
    match value with
    | .obj fields => some (Json.lookup · fields)
    | .arr items => some (itemAt names items)
    | _ => none
  text := settingText?
  count bits value := (settingCount? value).map (· % Nat.pow 2 bits)
  isNull
    | .null => true
    | _ => false

/-- The failure of a file that is no configuration. -/
def unreadable (reason : String) : Error :=
  .bootstrap ("failed to load configuration: " ++ reason) true

/-- The failure of a path with no file. -/
def missing (path : String) : Error :=
  .bootstrap ("configuration file '" ++ path ++ "' does not exist") false

/-- The configuration of a file and the environment, if it is in order. -/
def load (file : ByteArray) (environment : List Variable) : Except Error Config :=
  match (String.fromUTF8? file).bind Toml.parse? with
  | some (.table fields) =>
    match settingSource.config (settings (Toml.fieldsToJson fields) environment) with
    | some config => do
      config.validate
      return config
    | none => .error (unreadable "a value has the wrong type")
  | _ => .error (unreadable "the file is not TOML")

end ControlPlane.Config
