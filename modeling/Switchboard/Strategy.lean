import Switchboard.Text.Blank
import Switchboard.Json.Decode

/-!
# What is done after a switch

The extension either takes the new account through its hook or is restarted with its host. A
switch that nobody asked for never restarts anything: `Strategy.effective`.
-/

set_option autoImplicit false

namespace Switchboard

open Json

/-- What is done after a switch, so that it takes effect. -/
inductive Strategy where
  | hook
  | restart
  deriving DecidableEq, Repr, Inhabited

namespace Strategy

/-- The name in settings and on the wire. -/
def name : Strategy → String
  | hook => "hook"
  | restart => "restart_extension_host"

/-- The strategy with exactly this name. -/
def ofName? (s : String) : Option Strategy :=
  if s = "hook" then some hook else if s = "restart_extension_host" then some restart else none

/-- The strategy that a stored text names, white space at its ends ignored. -/
def parse? (raw : String) : Option Strategy := ofName? (Text.trim raw)

/-- The strategy that runs when this one is asked for. -/
def effective (requested : Strategy) (automatic : Bool) : Strategy :=
  if automatic then hook else requested

/-- The name of the strategy. -/
def toJson (s : Strategy) : Json := .string s.name

/-- Reads the name of a strategy. -/
def ofDoc : Decoder Strategy := Decoder.oneOf ofName?

theorem ofName?_name (s : Strategy) : ofName? s.name = some s := by
  cases s <;> rfl

@[simp] theorem parse?_name (s : Strategy) : parse? s.name = some s := by
  cases s <;> decide +kernel

end Strategy

end Switchboard
