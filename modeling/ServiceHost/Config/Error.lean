/-!
Faults of a configuration.
-/

namespace ServiceHost

/-- Why options make no configuration. -/
inductive ConfigError where
  | invalidAddress (address reason : String)
  | invalidOption (option reason : String)
  deriving DecidableEq, Repr

/-- The name of the kind of a fault. -/
def ConfigError.kind : ConfigError → String
  | .invalidAddress _ _ => "InvalidAddress"
  | .invalidOption _ _ => "InvalidOption"

/-- The wording of a fault. -/
def ConfigError.message : ConfigError → String
  | .invalidAddress address reason => "invalid address '" ++ address ++ "': " ++ reason
  | .invalidOption option reason => "invalid value for option " ++ option ++ ": " ++ reason

end ServiceHost
