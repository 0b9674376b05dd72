/-! Failures of the services that an analysis asks: the knowledge store, the oracle, the registry
and the probe. -/
namespace PackageVet

inductive ServiceError where
  | retriesExhausted (service : String) (attempts : Nat) (last : String)
  | transport (service message : String)
  | malformedResponse (service message : String)
  deriving DecidableEq, Repr, Inhabited

def ServiceError.message : ServiceError → String
  | .retriesExhausted service attempts last =>
    service ++ " failed after " ++ toString attempts ++ " attempts: " ++ last
  | .transport service message => service ++ " request failed: " ++ message
  | .malformedResponse service message =>
    service ++ " returned an unexpected response: " ++ message

/-- A computation that may change its state and may fail; the state stays when it fails. -/
abbrev Effect (ε σ α : Type) : Type := ExceptT ε (StateM σ) α

/-- A computation on the second part of a state. -/
def Effect.onSecond {ε σ τ α : Type} (effect : Effect ε σ α) : Effect ε (τ × σ) α :=
  ExceptT.mk fun (t, s) =>
    let (result, s) := effect.run s
    (result, t, s)

/-- A request to a service with state `σ`. -/
abbrev Request (σ α : Type) : Type := Effect ServiceError σ α

end PackageVet
