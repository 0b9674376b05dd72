import PackageVet.Service.Error
import PackageVet.Table
import PackageVet.Text.Cut

/-! The probe: a service that runs a package to see what the arguments of a call are.

Before the statement of the call, lines are put in that write each argument to a log, under a
placeholder, and end the program, so that the call itself never runs. -/
namespace PackageVet

/-- An expression to evaluate and the placeholder for its value. -/
structure ProbeRequest where
  placeholder : String
  expression : String
  deriving DecidableEq, Repr, Inhabited

/-- The statement before which the lines go: the folder of the package, a file of it, a line
counted from one and a column counted from nought. -/
structure ProbeSite where
  packageDir : String := ""
  file : String
  line : Nat
  column : Nat
  deriving DecidableEq, Repr, Inhabited

structure Probe (σ : Type) where
  /-- A probe that is not enabled never runs anything. -/
  enabled : Bool
  /-- The values seen, by placeholder; none when the program never came to the site. -/
  evaluate : ProbeSite → List ProbeRequest → Request σ (Option (Table String String))

/-- The probe that never runs anything. -/
def Probe.disabled {σ : Type} : Probe σ where
  enabled := false
  evaluate _ _ := pure none

/-- A part of what is written to the log. -/
inductive LogPart where
  | label (placeholder : String)
  | value (expression : String)
  | lineEnd
  deriving DecidableEq, Repr

/-- The expression for a part. -/
def LogPart.code : LogPart → String
  | .label placeholder => "\"" ++ placeholder ++ ":\""
  | .value expression => "(" ++ expression ++ ")"
  | .lineEnd => "\"\\n\""

namespace ProbeRequest

/-- What is written for a request: its placeholder and its value, on a line of their own. -/
def logParts (request : ProbeRequest) : List LogPart :=
  [.label request.placeholder, .value request.expression, .lineEnd]

/-- The statement that writes the value of a request to the log. -/
def logging (request : ProbeRequest) (indent : Nat) : String :=
  Text.spaces indent ++ "require('fs').appendFileSync(\"log.log\", " ++
    " + ".intercalate (request.logParts.map LogPart.code) ++ ");"

/-- The lines put before a statement. -/
def instrumentation (requests : List ProbeRequest) (indent : Nat) : List String :=
  requests.map (fun request => request.logging indent) ++ [Text.spaces indent ++ "process.exit(1);"]

end ProbeRequest

/-- One line of the log: a placeholder starts with `#` and ends before the first colon. -/
def logEntry? (line : List Char) : Option (String × String) :=
  match Text.splitFirst? ':' line with
  | some (placeholder, value) =>
    if placeholder.head? = some '#' then some (String.ofList placeholder, String.ofList value)
    else none
  | none => none

/-- The values of a log. The first value written for a placeholder counts. -/
def readProbeLog (log : String) : Table String String :=
  ((Text.lines log.toList).filterMap logEntry?).foldl
    (fun table (placeholder, value) =>
      if table.contains placeholder then table else table.insert placeholder value) {}

end PackageVet
