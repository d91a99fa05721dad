import ControlPlane.Decimal.Reader
import ControlPlane.Text.Blank

/-! How much of the log is shown. -/

namespace ControlPlane.Log

/-- The least severe messages that are shown, or none at all. -/
inductive Level where
  | off | error | warn | info | debug | trace
deriving DecidableEq, Repr

namespace Level

/-- Every level, from the quietest on. -/
def all : List Level := [.off, .error, .warn, .info, .debug, .trace]

/-- The word for a level. -/
def text : Level → String
  | .off => "off"
  | .error => "error"
  | .warn => "warn"
  | .info => "info"
  | .debug => "debug"
  | .trace => "trace"

/-- The level that a text names: by its place among all levels, or by its word in any case. -/
def parse? (text : String) : Option Level :=
  let place? := match text.toList with
    | '-' :: _ => none
    | cs => (Decimal.readInt? cs).bind fun n => all[n.toNat]?
  place?.or (all.find? fun level => level.text = Text.toLowerAscii text)

end Level

end ControlPlane.Log
