import PackageVet.Duration
import PackageVet.FileTree
import PackageVet.Report
import PackageVet.Service.Retry
import PackageVet.Toml.Decode
import PackageVet.Toml.Reader

/-! The configuration of an analysis.

Every setting has a default, and every section may be left out. Options that nobody knows are
reported, not refused. -/
namespace PackageVet

structure AnalysisConfig where
  /-- Nought for no limit. -/
  timeoutSeconds : Nat := 600
  phases : List Phase := Phase.all
  deriving DecidableEq, Repr, Inhabited

def AnalysisConfig.timeout? (c : AnalysisConfig) : Option Duration :=
  if 0 < c.timeoutSeconds then some (.ofSeconds c.timeoutSeconds) else none

structure OracleConfig where
  enabled : Bool := false
  endpoint : Option String := none
  model : Option String := none
  /-- The environment variable that holds the key. -/
  keyVariable : String := "OPENAI_API_KEY"
  attempts : Nat := 5
  delayMillis : Nat := 1000
  deriving DecidableEq, Repr, Inhabited

def OracleConfig.retryPolicy (c : OracleConfig) : RetryPolicy :=
  { attempts := c.attempts, delayMillis := c.delayMillis }

structure KnowledgeConfig where
  /-- A file of additions to the knowledge tables. -/
  path : Option String := none
  registry : String := "https://registry.npmjs.org"
  registerUnknown : Bool := true
  deriving DecidableEq, Repr, Inhabited

structure ProbeConfig where
  enabled : Bool := false
  image : String := "node:20-alpine"
  timeoutSeconds : Nat := 10
  copiesDir : Option String := none
  deriving DecidableEq, Repr, Inhabited

structure ObfuscationConfig where
  enabled : Bool := false
  maxSourceBytes : Nat := 200000
  deriving DecidableEq, Repr, Inhabited

structure Config where
  analysis : AnalysisConfig := {}
  oracle : OracleConfig := {}
  knowledge : KnowledgeConfig := {}
  probe : ProbeConfig := {}
  /-- A file of more patterns. -/
  patternsPath : Option String := none
  obfuscation : ObfuscationConfig := {}
  deriving DecidableEq, Repr, Inhabited

namespace Config

def fileName : String := "malgraph.toml"

/-- The sections with their options. -/
def options : List (String × List String) :=
  [("analysis", ["timeout_secs", "phases"]),
   ("oracle",
     ["enabled", "endpoint", "model", "api_key_env", "max_attempts", "retry_delay_ms"]),
   ("knowledge", ["path", "registry", "register_unknown"]),
   ("probe", ["enabled", "image", "timeout_secs", "sandbox_dir"]),
   ("patterns", ["path"]),
   ("obfuscation", ["enabled", "max_source_bytes"])]

/-! ### Sections -/

open TomlValue in
def analysisOf? (value : TomlValue) : Option AnalysisConfig := do
  match ← value.fields? ["timeout_secs", "phases"] with
  | [timeout, phases] =>
    let phase := choice? (Phase.all.map fun phase => (phase.name, phase))
    return {
      timeoutSeconds := ← withDefault (nat? Text.wordMax) 600 timeout
      phases := ← withDefault (list? phase) Phase.all phases }
  | _ => none

open TomlValue in
def oracleOf? (value : TomlValue) : Option OracleConfig := do
  let fields ← value.fields?
    ["enabled", "endpoint", "model", "api_key_env", "max_attempts", "retry_delay_ms"]
  match fields with
  | [enabled, endpoint, model, key, attempts, delay] =>
    return {
      enabled := ← withDefault bool? false enabled
      endpoint := ← optional text? endpoint
      model := ← optional text? model
      keyVariable := ← withDefault text? "OPENAI_API_KEY" key
      attempts := ← withDefault (nat? 4294967295) 5 attempts
      delayMillis := ← withDefault (nat? Text.wordMax) 1000 delay }
  | _ => none

open TomlValue in
def knowledgeOf? (value : TomlValue) : Option KnowledgeConfig := do
  match ← value.fields? ["path", "registry", "register_unknown"] with
  | [path, registry, register] =>
    return {
      path := ← optional text? path
      registry := ← withDefault text? "https://registry.npmjs.org" registry
      registerUnknown := ← withDefault bool? true register }
  | _ => none

open TomlValue in
def probeOf? (value : TomlValue) : Option ProbeConfig := do
  match ← value.fields? ["enabled", "image", "timeout_secs", "sandbox_dir"] with
  | [enabled, image, timeout, copies] =>
    return {
      enabled := ← withDefault bool? false enabled
      image := ← withDefault text? "node:20-alpine" image
      timeoutSeconds := ← withDefault (nat? Text.wordMax) 10 timeout
      copiesDir := ← optional text? copies }
  | _ => none

open TomlValue in
def patternsOf? (value : TomlValue) : Option (Option String) := do
  match ← value.fields? ["path"] with
  | [path] => optional text? path
  | _ => none

open TomlValue in
def obfuscationOf? (value : TomlValue) : Option ObfuscationConfig := do
  match ← value.fields? ["enabled", "max_source_bytes"] with
  | [enabled, most] =>
    return {
      enabled := ← withDefault bool? false enabled
      maxSourceBytes := ← withDefault (nat? Text.wordMax) 200000 most }
  | _ => none

/-! ### Documents -/

open TomlValue in
def ofToml? (value : TomlValue) : Option Config := do
  match ← value.fields? (options.map Prod.fst) with
  | [analysis, oracle, knowledge, probe, patterns, obfuscation] =>
    return {
      analysis := ← withDefault analysisOf? {} analysis
      oracle := ← withDefault oracleOf? {} oracle
      knowledge := ← withDefault knowledgeOf? {} knowledge
      probe := ← withDefault probeOf? {} probe
      patternsPath := ← withDefault patternsOf? none patterns
      obfuscation := ← withDefault obfuscationOf? {} obfuscation }
  | _ => none

/-- The keys of a table in ascending order. -/
def sortedEntries (entries : List (String × TomlValue)) : List (String × TomlValue) :=
  Sorted.ofEntries entries

/-- The warnings about one section or option at the top. -/
def unknownIn (key : String) (value : TomlValue) : List String :=
  match options.lookup key, value with
  | none, _ => ["Unknown config option: '" ++ key ++ "'"]
  | some known, .table entries =>
    ((sortedEntries entries).filter fun e => !known.contains e.1).map fun e =>
      "Unknown config option in [" ++ key ++ "]: '" ++ e.1 ++ "'"
  | some _, _ => []

/-- Warnings about options that nobody knows, in the order of their names. -/
def unknownOptions : TomlValue → List String
  | .table entries => (sortedEntries entries).flatMap fun (key, value) => unknownIn key value
  | _ => []

/-- A configuration and the warnings about it. -/
structure Loaded where
  config : Config := {}
  warnings : List String := []
  deriving Repr, Inhabited

def parse? (text : String) : Option Loaded := do
  let value ← TomlValue.parse? text
  return { config := ← ofToml? value, warnings := unknownOptions value }

/-! ### Files -/

/-- The configuration file in a folder or in the nearest one above it; the names of the folder
stand last one first. -/
def findAbove? (t : FileTree) : List String → Option String
  | [] => if t.contains fileName then some fileName else none
  | name :: above =>
    let path := FileTree.join ("/".intercalate (name :: above).reverse) fileName
    if t.contains path then some path else findAbove? t above

def find? (t : FileTree) (folder : String) : Option String :=
  findAbove? t (FileTree.names folder).reverse

/-- The configuration that holds in a folder: the defaults where no file is found, or where the
one found cannot be used. -/
def loadFor (t : FileTree) (folder : String) : Loaded :=
  (((find? t folder).bind fun path => (t.readText path).toOption).bind parse?).getD {}

end Config

end PackageVet
