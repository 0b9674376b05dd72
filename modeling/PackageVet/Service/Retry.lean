import PackageVet.Service.Error

/-! Bounded retry of a request.

A request is made until it succeeds, its answer is malformed, or the attempts are used up; a
policy of no attempts makes one. -/
namespace PackageVet

/-- How often a request is made and how long to wait between two tries. -/
structure RetryPolicy where
  attempts : Nat := 5
  delayMillis : Nat := 1000
  deriving DecidableEq, Repr, Inhabited

/-- Makes a request `left` more times at most, `last` being the text of the last failure. -/
def retryFrom {σ α : Type} (service : String) (attempts : Nat) (request : Request σ α) :
    Nat → String → Request σ α
  | 0, last => throw (.retriesExhausted service attempts last)
  | left + 1, _ => ExceptT.mk do
    match ← request.run with
    | .ok value => pure (.ok value)
    | .error (.malformedResponse name message) => pure (.error (.malformedResponse name message))
    | .error e => (retryFrom service attempts request left e.message).run

/-- Makes a request as often as the policy says. -/
def withRetry {σ α : Type} (service : String) (policy : RetryPolicy) (request : Request σ α) :
    Request σ α :=
  let attempts := max policy.attempts 1
  retryFrom service attempts request attempts ""

end PackageVet
