import SwitchAcl.Log

/-!
# Settings

What an operator decides: whether security groups are enforced at all, who answers requests for
addresses, and which columns the table of the switch has.  Everything has a default.

## Main definitions

* `Capabilities`, `Settings` — the settings.
* `Settings.isEffective`, `Settings.warnings` — whether every setting has an effect, and what is
  said where one has none.
* `Settings.defaultPath` — the file settings are read from unless another is named.
-/

namespace SwitchAcl

/-- What the access control table of a switch offers. -/
structure Capabilities where
  /-- Whether the table has the columns for logging. -/
  logColumns : Bool := true
  deriving DecidableEq, Repr

/-- The settings of a compilation. -/
structure Settings where
  /-- Whether security groups are enforced. -/
  enforced : Bool := true
  /-- Whether the switch itself answers requests for addresses. -/
  nativeDhcp : Bool := true
  capabilities : Capabilities := {}
  deriving DecidableEq, Repr

namespace Settings

/-- The file settings are read from unless another is named. -/
def defaultPath : String := "/etc/neutron/sgacl.toml"

/-- Whether every setting has an effect. -/
def isEffective (s : Settings) : Bool := s.enforced || s.nativeDhcp

/-- What is said where a setting has no effect. -/
def warnings (s : Settings) : List LogLine :=
  if s.isEffective then []
  else
    [⟨.warn, .settings,
      "native_dhcp = false has no effect while security groups are disabled"⟩]

end Settings

end SwitchAcl
