import ControlPlane.Config.Load
import ControlPlane.Deploy.Listing
import ControlPlane.Json.Printer
import ControlPlane.Log.Document
import ControlPlane.Plane.Start

/-! The command line: checks a configuration and its files, and shows what bundles deploy to.

The first argument after `--config` is the path of the configuration, any other the path of a
bundle. -/

namespace ControlPlane.Main

/-- What the command line asks for. -/
structure Arguments where
  config : String
  bundles : List String := []

/-- Reads the arguments, of which the last configuration counts. -/
def Arguments.read (given : Arguments) : List String → Arguments
  | "--config" :: path :: rest => Arguments.read { given with config := path } rest
  | path :: rest => Arguments.read { given with bundles := given.bundles ++ [path] } rest
  | [] => given

/-- The path of the configuration where none is given. -/
def defaultConfig : String := "config/flowgate.toml"

/-- The variables that override settings. -/
def variableNames : List String :=
  let names (place : String) (fields : List String) : List String :=
    fields.map fun field => (Config.Variable.family ++ place ++ "__" ++ field).toUpper
  let files := ["cert_path", "key_path", "client_ca_path"]
  names "xds" ["bind_address", "port", "ack_timeout_seconds"] ++ names "xds__tls" files ++
    names "admin" ["bind_address", "port", "username", "password", "max_bundle_bytes",
      "max_extracted_bytes"] ++ names "admin__tls" files ++
    names "router" ["listener_address", "listener_port", "connect_timeout_seconds",
      "default_route_timeout_seconds"] ++ names "router__listener_tls" files ++
    names "logging" ["config_path"]

/-- The variables that are set. -/
def environment : IO (List Config.Variable) :=
  variableNames.filterMapM fun name => return (← IO.getEnv name).map fun value => ⟨name, value⟩

/-- The bytes of a file that can be read. -/
def readFile? (path : String) : IO (Option ByteArray) := do
  let .ok bytes ← (IO.FS.readBinFile path).toBaseIO | return none
  return some bytes

/-- The files at some paths. -/
def readFiles (paths : List String) : IO Files := do
  let found ← paths.mapM fun path => return (path, ← readFile? path)
  return fun path => (found.lookup path).join

/-- The paths in a configuration that the program itself reads. -/
def pathsOf (config : Config) : List String :=
  config.log.path :: (config.discovery.tls.toList ++ config.admin.tls.toList).flatMap fun files =>
    [files.certificate, files.key] ++ files.clientAuthority.toList

/-- Shows a failure, which ends the program. -/
def fail (error : Error) : IO UInt32 := do
  IO.eprintln ("flowgate: " ++ error.display)
  return 1

/-- The exit code when the work breaks off without a report. -/
def brokenOff : UInt32 := 101

/-- Deploys bundles one after the other, and shows what became of each. -/
def deployAll (caller : String) (deployer : Deployer) :
    List String → IO (Except (Option Error) Deployer)
  | [] => return .ok deployer
  | path :: rest => do
    let archive := (← readFile? path).getD .empty
    match (Deployer.deployBundle { overwrite := true } caller archive).run deployer with
    | .error fault _ => return .error fault.toError
    | .ok report next =>
      IO.println report.toJson.render
      deployAll caller next rest

/-- Checks a configuration, and deploys bundles with it. -/
def check (arguments : Arguments) : IO UInt32 := do
  let some file ← readFile? arguments.config | fail (Config.missing arguments.config)
  match Config.load file (← environment) with
  | .error error => fail error
  | .ok config =>
    let files ← readFiles (pathsOf config)
    if let (_, some reason) := Log.Document.loadOrDefault files config.log.path then
      IO.eprintln ("flowgate: " ++ reason.display)
    match Service.plane.start files config with
    | .error error => fail error
    | .ok () =>
      match ← deployAll config.admin.username (Plane.ofConfig config).deployer arguments.bundles with
      | .error (some error) => fail error
      | .error none => return brokenOff
      | .ok deployer =>
        IO.println (listing (deployer.list none none)).render
        return 0

end ControlPlane.Main

/-- Checks the configuration and the bundles that the command line names. -/
def main (given : List String) : IO UInt32 := do
  let config := (← IO.getEnv "FLOWGATE_CONFIG").getD ControlPlane.Main.defaultConfig
  ControlPlane.Main.check (ControlPlane.Main.Arguments.read { config } given)
