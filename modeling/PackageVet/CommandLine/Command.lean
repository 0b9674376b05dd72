import PackageVet.Analysis
import PackageVet.CommandLine.Arguments
import PackageVet.Text.Decimal

/-! The commands of the program and their options.

Some options may stand before the command as well as after it; where one stands in both places,
the one after the command counts. -/
namespace PackageVet.CommandLine

structure AnalyzeCommand where
  packages : List String
  workspace : Workspace
  /-- In seconds; nought for no limit. -/
  timeout : Option Nat := none
  /-- How many packages are analysed at a time. -/
  jobs : Option Nat := none
  asksOracle : Bool := true
  format : String := "pretty"
  deriving DecidableEq, Repr

inductive Command where
  | analyze (options : AnalyzeCommand)
  /-- Lists patterns and categories, or only those of one category. -/
  | patterns (category : Option Nat)
  deriving DecidableEq, Repr

/-- What is logged, and where. -/
structure LogOptions where
  level : String := "warn"
  file : Option String := none
  asJson : Bool := false
  deriving DecidableEq, Repr, Inhabited

structure Invocation where
  command : Command
  log : LogOptions := {}
  /-- The configuration file, where one is named. -/
  config : Option String := none
  deriving DecidableEq, Repr

/-! ### Grammars -/

def isPath (s : String) : Bool := s ≠ ""

def number? (s : String) : Option Nat := Text.readUnsigned Text.wordMax s.toList

/-- A number of one byte, with or without a sign. -/
def byte? (s : String) : Option Nat := (Text.readSigned 0 255 s.toList).map Int.toNat

def logLevels : List String := ["trace", "debug", "info", "warn", "error"]

/-- The options of every command. -/
def commonValues : List ValueOption :=
  [{ name := "log-level", allows := logLevels.contains },
   { name := "log-file", allows := isPath },
   { name := "config", allows := isPath }]

def commonFlags : List String := ["log-json"]

def commandNames : List String := ["analyze", "patterns", "help"]

def topGrammar : Grammar :=
  { values := commonValues, flags := commonFlags, commands := commandNames, tellsVersion := true }

def analyzeGrammar : Grammar where
  values := commonValues ++
    [{ name := "code-dir", allows := isPath },
     { name := "graph-dir", allows := isPath },
     { name := "report-dir", allows := isPath },
     { name := "timeout", allows := fun s => (number? s).isSome },
     { name := "jobs", short := some 'j', allows := fun s => (number? s).isSome },
     { name := "format", short := some 'f' }]
  flags := commonFlags ++ ["no-oracle"]
  takesWords := true

def patternsGrammar : Grammar where
  values := commonValues ++ [{ name := "category", allows := fun s => (byte? s).isSome }]
  flags := commonFlags

/-! ### Reading a command -/

/-- Reads all arguments of a command. -/
def readAll (g : Grammar) (args : List String) : Except Stop Reading := do
  let (r, _) ← g.read {} args
  r.settle

def required (r : Reading) (name : String) : Except Stop String :=
  match r.value? name with
  | some value => .ok value
  | none => .error (.refused (.missing ("--" ++ name)))

def analyzeOf (r : Reading) : Except Stop AnalyzeCommand := do
  if r.words.isEmpty then throw (.refused (.missing "PACKAGE"))
  return {
    packages := r.words
    workspace :=
      { codeDir := ← required r "code-dir"
        graphDir := ← required r "graph-dir"
        reportDir := ← required r "report-dir" }
    timeout := (r.value? "timeout").bind number?
    jobs := (r.value? "jobs").bind number?
    asksOracle := !r.flags.contains "no-oracle"
    format := (r.value? "format").getD "pretty" }

/-- The arguments of `help` name a command at most. -/
def helpOn : List String → Stop
  | [] => .help
  | [name] => if commandNames.contains name then .help else .refused (.unknownCommand name)
  | _ :: name :: _ => .refused (.unknownCommand name)

def readCommand (name : String) (args : List String) : Except Stop (Command × Reading) := do
  if name = "analyze" then
    let r ← readAll analyzeGrammar args
    return (.analyze (← analyzeOf r), r)
  else if name = "patterns" then
    let r ← readAll patternsGrammar args
    return (.patterns ((r.value? "category").bind byte?), r)
  else throw (helpOn args)

def Invocation.parse (args : List String) : Except Stop Invocation := do
  match ← topGrammar.read {} args with
  | (_, none) => throw (.refused .missingCommand)
  | (outer, some (name, rest)) =>
    let (command, inner) ← readCommand name rest
    let outer ← outer.settle
    let value? (name : String) : Option String :=
      (inner.value? name).orElse fun _ => outer.value? name
    return {
      command
      log :=
        { level := (value? "log-level").getD "warn"
          file := value? "log-file"
          asJson := (inner.flags ++ outer.flags).contains "log-json" }
      config := value? "config" }

end PackageVet.CommandLine
