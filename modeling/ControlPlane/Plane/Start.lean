import ControlPlane.Admin.Interface
import ControlPlane.Net.Address
import ControlPlane.Plane.Basic
import ControlPlane.Tls.Identity

/-! Starting the control plane: what a configuration makes of it, the addresses of its servers, and
their encryption. -/

namespace ControlPlane

/-- The control plane that a configuration describes, with nothing deployed. -/
def Plane.ofConfig (config : Config) : Plane :=
  .idle config.router.compileOptions config.router.listener config.admin.maxExtractedBytes
    (.ofSeconds config.discovery.ackTimeout) countedNonce

/-- What is started. -/
inductive Service where
  | discovery
  | admin
  /-- Both servers, the one for discovery first. -/
  | plane
deriving DecidableEq, Repr

namespace Service

/-- Checks that an address can be listened at. -/
def checkAddress (what address : String) : Except Error Unit :=
  match Net.SocketAddress.parse? address with
  | some _ => .ok ()
  | none => .error (.config ("Invalid " ++ what ++ " address: invalid socket address syntax"))

/-- Starts the discovery server. -/
def startDiscovery (files : Files) (settings : DiscoverySettings) : Except Error Unit := do
  checkAddress "xDS" settings.address
  match settings.tls with
  | some paths => Tls.secureDiscovery files paths
  | none => return ()

/-- Starts the administrative server. -/
def startAdmin (files : Files) (settings : AdminSettings) : Except Error Unit := do
  checkAddress "admin API" settings.address
  match settings.tls with
  | some paths => Tls.secureAdmin files paths
  | none => return ()

/-- Starts a service; of two servers that cannot start, the first gives the failure. -/
def start (files : Files) (config : Config) : Service → Except Error Unit
  | .discovery => startDiscovery files config.discovery
  | .admin => startAdmin files config.admin
  | .plane => do
    startDiscovery files config.discovery
    startAdmin files config.admin

/-- Whether a service that cannot start asks everything else to stop. -/
def stopsOnFailure : Service → Bool
  | .plane => true
  | _ => false

end Service

end ControlPlane
