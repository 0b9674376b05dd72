import PackageVet.CommandLine.Command
import PackageVet.CommandLine.Output
import PackageVet.Config
import PackageVet.Knowledge.Overlay
import PackageVet.Knowledge.Registry
import PackageVet.Knowledge.Standard
import PackageVet.Pattern.Format
import PackageVet.Service.Chat
import PackageVet.Service.ContainerProbe

/-! Running a command over a tree of files.

All that lies outside the files comes from `Outside`: the environment, the web, the containers and
the clock. A command ends with an exit code, and with what it prints. -/
namespace PackageVet.CommandLine

inductive CommandError where
  | invalidFormat (format : String)
  | noJobs
  | missingCodeDir (path : String)
  | unreadableConfig (path : String) (cause : FileError)
  | invalidConfig (path : String)
  | patternFile (path : String)
  | unreadableKnowledge (path : String) (cause : FileError)
  | invalidKnowledge (path : String)
  | missingKey (keyVariable : String)
  | unknownCategory (id : Nat)
  deriving DecidableEq, Repr

def CommandError.message : CommandError → String
  | .invalidFormat format => "Invalid format '" ++ format ++ "'. Valid values: pretty, json"
  | .noJobs => "--jobs must be at least 1"
  | .missingCodeDir path => "Code directory does not exist: " ++ path
  | .unreadableConfig path cause =>
    "Failed to read config file '" ++ path ++ "': " ++ cause.message
  | .invalidConfig path => "Invalid TOML in '" ++ path ++ "'"
  | .patternFile path => "Failed to load patterns from " ++ path
  | .unreadableKnowledge path cause =>
    "failed to read knowledge file '" ++ path ++ "': " ++ cause.message
  | .invalidKnowledge path => "invalid knowledge file '" ++ path ++ "'"
  | .missingKey keyVariable =>
    "Oracle is enabled but the " ++ keyVariable ++ " environment variable is not set"
  | .unknownCategory id => "Unknown category " ++ toString id

structure Outside (σ : Type) where
  environment : String → Option String := fun _ => none
  web : Web σ := .offline
  container : Container σ := .absent
  clock : Clock σ := .stopped

/-- How a command ended. -/
structure Result where
  exitCode : Nat := 0
  output : String := ""
  /-- Lines for the error channel. -/
  messages : List String := []
  deriving DecidableEq, Repr, Inhabited

/-- A command under way: its messages so far, the files, and the state of what lies outside. -/
structure Run (σ : Type) where
  messages : List String := []
  files : FileTree
  outside : σ

abbrev Step (σ α : Type) : Type := Effect CommandError (Run σ) α

variable {σ : Type}

/-- What an analysis knows, and the state of what lies outside. -/
abbrev Services (σ : Type) : Type := KnowledgeTables × σ

/-! ### Settings -/

def loadConfig (path : Option String) : Step σ Config := do
  let files := (← get).files
  let loaded ← match path with
    | none => pure (Config.loadFor files "")
    | some path =>
      match files.readText path with
      | .error cause => throw (.unreadableConfig path cause)
      | .ok text =>
        match Config.parse? text with
        | some loaded => pure loaded
        | none => throw (.invalidConfig path)
  modify fun r => { r with messages := r.messages ++ loaded.warnings.map ("warning: " ++ ·) }
  return loaded.config

/-- The standard patterns, and those of the file that is configured. -/
def loadPatterns (config : Config) : Step σ PatternLibrary := do
  match config.patternsPath with
  | none => return .standard
  | some path =>
    match ((← get).files.readText path).toOption.map PatternLibrary.parse with
    | some (.ok more) => return PatternLibrary.standard ++ more
    | _ => throw (.patternFile path)

/-- The standard tables, with the additions that are configured. -/
def loadTables (config : Config) : Step σ KnowledgeTables := do
  match config.knowledge.path with
  | none => return .standard
  | some path =>
    match (← get).files.readText path with
    | .error cause => throw (.unreadableKnowledge path cause)
    | .ok text =>
      match KnowledgeOverlay.parse? text with
      | some overlay => return KnowledgeTables.standard.apply overlay
      | none => throw (.invalidKnowledge path)

def loadOracle (outside : Outside σ) (c : AnalyzeCommand) (config : Config) :
    Step σ (Option ChatOracle) := do
  if !c.asksOracle || !config.oracle.enabled then return none
  match ChatOracle.ofConfig? config.oracle outside.environment with
  | some oracle => return some oracle
  | none => throw (.missingKey config.oracle.keyVariable)

/-- The web, next to what is known. -/
def Outside.sharedWeb (outside : Outside σ) : Web (Services σ) where
  send request := (outside.web.send request).onSecond

def Outside.sharedContainer (outside : Outside σ) : Container (Services σ) where
  run arguments tree := (outside.container.run arguments tree).onSecond

def Outside.sharedClock (outside : Outside σ) : Clock (Services σ) := fun (tables, s) =>
  let (now, s) := outside.clock.run s
  (now, tables, s)

def knowledgeOf (outside : Outside σ) (config : Config) : KnowledgeStore (Services σ) :=
  if config.knowledge.registerUnknown then
    let registry : Registry :=
      { address := config.knowledge.registry, policy := config.oracle.retryPolicy }
    registry.store outside.sharedWeb Prod.fst fun tables s => (tables, s.2)
  else KnowledgeTables.store Prod.fst

def probeOf (outside : Outside σ) (config : Config) (files : FileTree) : Probe (Services σ) :=
  if config.probe.enabled then
    let probe : ContainerProbe :=
      { image := config.probe.image, timeout := .ofSeconds config.probe.timeoutSeconds }
    probe.probe outside.sharedContainer files
  else .disabled

def optionsOf (c : AnalyzeCommand) (config : Config) : AnalysisOptions where
  timeout := match c.timeout with
    | some 0 => none
    | some n => some (.ofSeconds n)
    | none => config.analysis.timeout?
  phases := config.analysis.phases
  obfuscationLimit :=
    if config.obfuscation.enabled then some config.obfuscation.maxSourceBytes else none

/-! ### Commands -/

def validate (c : AnalyzeCommand) : Step σ PUnit := do
  if c.format ≠ "pretty" ∧ c.format ≠ "json" then throw (.invalidFormat c.format)
  if c.jobs = some 0 then throw .noJobs
  if !(← get).files.isFolder c.workspace.codeDir then throw (.missingCodeDir c.workspace.codeDir)

def render (c : AnalyzeCommand) (outcomes : List Outcome) : String :=
  if c.format = "json" then (outcomesJson c.workspace.reportDir outcomes).render ++ "\n"
  else prettyOutcomes outcomes

/-- Analyses the packages one after another; what one makes known is known to the next. -/
def analyze (outside : Outside σ) (c : AnalyzeCommand) (configPath : Option String) :
    Step σ Result := do
  validate c
  let config ← loadConfig configPath
  let patterns ← loadPatterns config
  let tables ← loadTables config
  let oracle ← loadOracle outside c config
  let analyzer (files : FileTree) : Analyzer (Services σ) :=
    { knowledge := knowledgeOf outside config
      patterns
      oracle := oracle.map fun o => o.oracle outside.sharedWeb
      probe := probeOf outside config files
      clock := outside.sharedClock
      options := optionsOf c config }
  let step (package : String) : StateM (FileTree × Services σ) Outcome := do
    (analyzer (← get).1).analyze c.workspace package
  let r ← get
  let (outcomes, files, _, s) := (c.packages.mapM step).run (r.files, tables, r.outside)
  set { r with files, outside := s }
  return { exitCode := exitCode outcomes, output := render c outcomes }

def listPatterns (category : Option Nat) (configPath : Option String) : Step σ Result := do
  let config ← loadConfig configPath
  let library ← loadPatterns config
  match category with
  | none => return { output := patternList library none }
  | some id =>
    match Category.ofId? id with
    | some c => return { output := patternList library (some c) }
    | none => throw (.unknownCategory id)

/-! ### The log -/

/-- The folder and the name of the log file; a path that names no file means one with the usual
name. -/
def LogOptions.place (path : String) : String × String :=
  let names := FileTree.names path
  let folder := "/".intercalate names.dropLast
  match names.getLast? with
  | some ".." | none => (folder, "malgraph.log")
  | some name => (folder, name)

/-- Makes the log file where it is not there. -/
def openLog (path : String) (files : FileTree) : Except FileError FileTree := do
  let (folder, name) := LogOptions.place path
  let file := FileTree.join folder name
  if files.isFile file then return files
  (← files.createFolder folder).writeText file ""

/-! ### The program -/

def usage : String :=
  "Behavior-graph detector for malicious npm packages\n\n" ++
  "Usage: malgraph [OPTIONS] <COMMAND>\n\n" ++
  "Commands:\n" ++
  "  analyze   Analyze packages and write a report per package\n" ++
  "  patterns  List the pattern library and category taxonomy\n" ++
  "  help      Print this message\n"

def Result.ofStop : Stop → Result
  | .refused cause => { exitCode := 2, messages := ["error: " ++ cause.message] }
  | .help => { output := usage }
  | .version => { output := "malgraph " ++ version ++ "\n" }

def runInvocation (outside : Outside σ) (i : Invocation) : Step σ Result :=
  match i.command with
  | .analyze c => analyze outside c i.config
  | .patterns category => listPatterns category i.config

/-- The result of the arguments, with the files and the state after it. -/
def run (outside : Outside σ) (args : List String) (files : FileTree) (s : σ) :
    Result × FileTree × σ :=
  match Invocation.parse args with
  | .error stop => (.ofStop stop, files, s)
  | .ok i =>
    match (i.log.file.map fun path => openLog path files).getD (.ok files) with
    | .error _ => ({ exitCode := 101, messages := ["the log file cannot be opened"] }, files, s)
    | .ok files =>
      match (runInvocation outside i).run { files, outside := s } with
      | (.ok result, r) => ({ result with messages := r.messages }, r.files, r.outside)
      | (.error e, r) =>
        ({ exitCode := 1, messages := r.messages ++ ["Error: " ++ e.message] }, r.files, r.outside)

end PackageVet.CommandLine
