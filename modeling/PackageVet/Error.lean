import PackageVet.Dot.Token
import PackageVet.Duration
import PackageVet.Service.Error

/-! Why the analysis of a package may end without a verdict. -/
namespace PackageVet

inductive AnalysisError where
  | missingExport (path : String)
  | invalidExport (path : String) (cause : Dot.Error)
  | manifestMissing (path : String)
  | invalidManifest (path message : String)
  | timeout (limit : Duration)
  | service (cause : ServiceError)
  /-- A file could not be read or written. -/
  | file (path message : String)
  /-- Units were put into one another beyond every bound that acyclic code allows. -/
  | nesting
  /-- A walk was not over when the edges of its unit were used up. -/
  | unfinished
  deriving DecidableEq, Repr, Inhabited

def AnalysisError.message : AnalysisError → String
  | .missingExport path => "graph export not found at '" ++ path ++ "'"
  | .invalidExport path cause => "invalid graph export '" ++ path ++ "': " ++ cause.render
  | .manifestMissing path => "package.json not found under '" ++ path ++ "'"
  | .invalidManifest path message => "invalid package.json '" ++ path ++ "': " ++ message
  | .timeout limit => "analysis exceeded its deadline of " ++ limit.render
  | .service cause => cause.message
  | .file path message => "I/O error on '" ++ path ++ "': " ++ message
  | .nesting => "units are nested without end"
  | .unfinished => "a walk goes on beyond the edges of its unit"

/-- Fails once the time is used up. Where there is a limit, the clock is read at every check. -/
def Deadline.check {σ : Type} (d : Deadline σ) : Effect AnalysisError σ PUnit :=
  match d.limit with
  | none => pure ⟨⟩
  | some limit => do
    let elapsed ← ExceptT.lift d.elapsed
    if limit.nanoseconds ≤ elapsed.nanoseconds then throw (.timeout limit)

/-- A service request as a part of the analysis, on a part of its state. -/
def Request.lift {σ τ α : Type} (get : τ → σ) (set : σ → τ → τ) (request : Request σ α) :
    Effect AnalysisError τ α := do
  let s ← getThe τ
  match request.run (get s) with
  | (.ok value, s') => modifyThe τ (set s'); pure value
  | (.error e, s') => modifyThe τ (set s'); throw (.service e)

end PackageVet
