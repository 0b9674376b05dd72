import PackageVet.Refine
import PackageVet.Session
import PackageVet.Status

/-! The analysis of one package, from its folder to its report.

Every package ends in one status, and a report is written for each that could be looked at. -/
namespace PackageVet

/-- The folders of packages, graph exports and reports. -/
structure Workspace where
  codeDir : String := "code"
  graphDir : String := "graphs"
  reportDir : String := "reports"
  deriving DecidableEq, Repr, Inhabited

namespace Workspace

def packageDir (w : Workspace) (package : String) : String := FileTree.join w.codeDir package

def codeGraphDir (w : Workspace) (package : String) : String :=
  FileTree.join (FileTree.join w.graphDir package) "cpg"

def unitGraphDir (w : Workspace) (package : String) : String :=
  FileTree.join (FileTree.join w.graphDir package) "pdg"

def packageReportDir (w : Workspace) (package : String) : String :=
  FileTree.join w.reportDir package

end Workspace

structure AnalysisOptions where
  timeout : Option Duration := some (.ofSeconds 600)
  phases : List Phase := Phase.all
  /-- The size up to which files are judged for obfuscation; none for no such judgement. -/
  obfuscationLimit : Option Nat := none
  deriving DecidableEq, Repr, Inhabited

structure Outcome where
  package : String
  status : Status
  findings : Nat := 0
  elapsed : Duration := ⟨0⟩
  deriving DecidableEq, Repr

/-- The services of an analysis and what is looked for. -/
structure Analyzer (σ : Type) where
  knowledge : KnowledgeStore σ
  patterns : List Pattern
  oracle : Option (Oracle σ) := none
  probe : Probe σ := .disabled
  clock : Clock σ := .stopped
  options : AnalysisOptions := {}

namespace Analyzer
variable {σ : Type}

abbrev Step (σ α : Type) : Type := Effect AnalysisError (FileTree × σ) α

/-- A result of the tree of files, or the failure at a path. -/
def ofFile {α : Type} (path : String) : Except FileError α → Step σ α
  | .ok value => pure value
  | .error e => throw (.file path e.message)

def files : Step σ FileTree := do return (← get).1

def ask {α : Type} (request : Request σ α) : Step σ α :=
  Request.lift Prod.snd (fun services s => (s.1, services)) request

/-- Writes a file into a folder, which is made where it is not there. -/
def write (folder name text : String) : Step σ PUnit := do
  let tree ← ofFile folder ((← files).createFolder folder)
  modify fun (_, services) => (tree, services)
  let path := FileTree.join folder name
  let tree ← ofFile path (tree.writeText path text)
  modify fun (_, services) => (tree, services)

def writeReport (folder : String) (report : Report) : Step σ PUnit :=
  write folder Report.fileName report.render

def loadManifest (packageDir : String) : Step σ Manifest := do
  let folder := FileTree.join packageDir "package"
  let path := FileTree.join folder "package.json"
  let tree ← files
  if !tree.isFile path then throw (.manifestMissing folder)
  match Manifest.parse? (← ofFile path (tree.readText path)) with
  | some manifest => return manifest
  | none => throw (.invalidManifest path "not a manifest")

/-- The files that the oracle finds to be obfuscated; large ones are not shown to it. -/
def obfuscatedFiles (a : Analyzer σ) (packageDir : String) (sources : PackageSources)
    (limit : Nat) : Step σ (List String) :=
  match a.oracle with
  | none => return []
  | some oracle =>
    sources.scripts.filterM fun file => do
      let path := FileTree.join packageDir file
      let text ← ofFile path ((← files).readText path)
      if limit < text.utf8ByteSize then return false
      ask (oracle.judge .obfuscatedSource text)

/-- The profile of a script. A shell command is malicious when it runs a file that cannot be
analysed, or when the oracle says so. -/
def scriptProfile (a : Analyzer σ) (name command : String) : Step σ ScriptProfile := do
  let profile := ScriptProfile.ofCommand name command
  if profile.kind = .node then return profile
  if profile.runsSensitiveFile then return { profile with malicious := true }
  match a.oracle with
  | some oracle => return { profile with malicious := ← ask (oracle.judge .shellCommand command) }
  | none => return profile

/-- The profiles of the install-time scripts, from an earlier analysis where it kept them. -/
def scriptProfiles (a : Analyzer σ) (manifest : Manifest) (reportDir : String) :
    Step σ ScriptProfiles := do
  let kept := (← files).readText (FileTree.join reportDir ScriptProfiles.fileName)
  match kept.toOption.bind ScriptProfiles.parse? with
  | some profiles => return profiles
  | none =>
    let profiles ← manifest.scripts.mapM fun (name, command) => do
      return (name, ← a.scriptProfile name command)
    let profiles : ScriptProfiles := Sorted.ofEntries profiles
    write reportDir ScriptProfiles.fileName profiles.render
    return profiles

/-- Whether a name is that of an export of a unit. -/
def isExport (name : String) : Bool :=
  match Text.splitLast? '.' name.toList with
  | some (stem, ending) => !stem.isEmpty && ending = "dot".toList
  | none => false

/-- The exports of the units, in ascending order. -/
def unitExports (folder : String) : Step σ (List String) := do
  let names ← ofFile folder ((← files).children folder)
  return (Sorted.ofList (names.filter isExport)).map (FileTree.join folder)

/-- A graph that was exported. -/
def loadGraph (path : String) : Step σ Dot.Graph := do
  match Dot.Graph.parse (← ofFile path ((← files).readText path)) with
  | .ok graph => return graph
  | .error e => throw (.invalidExport path e)

def loadCode (folder : String) : Step σ CodeGraph := do
  let path := FileTree.join folder "export.dot"
  if !(← files).isFile path then throw (.missingExport path)
  return .ofDot (← loadGraph path)

def loadUnits (code : CodeGraph) (exports : List String) : Step σ (UnitIndex × Arena) := do
  let (units, arena) ← exports.foldlM (fun (units, arena) path => do
    match CodeUnit.ofDot (← loadGraph path) code arena with
    | some (unit, arena) => return (unit :: units, arena)
    | none => return (units, arena)) ([], ({} : Arena))
  return ({ units := units.reverse }, arena)

/-- The phases, over the units of the package. -/
def runSession (a : Analyzer σ) (deadline : Deadline σ) (packageDir : String)
    (sources : PackageSources) (manifest : Manifest) (profiles : ScriptProfiles) (code : CodeGraph)
    (index : UnitIndex) (arena : Arena) : Step σ Session := ExceptT.mk fun (tree, services) =>
  let refiner : Refiner σ := { files := tree, packageDir, oracle := a.oracle, probe := a.probe }
  let context : SessionContext σ :=
    { index
      sources
      knowledge := a.knowledge
      patterns := a.patterns
      keep := fun p m arena report =>
        Request.lift id (fun services _ => services) (refiner.keep p m arena report)
      deadline }
  let session : Session := { code, state := { arena } }
  let (result, session, services) :=
    (Session.runPhases context manifest profiles a.options.phases).run (session, services)
  (result.map fun _ => session, tree, services)

/-- The verdict on a package whose folders are all there. -/
def judge (a : Analyzer σ) (deadline : Deadline σ) (w : Workspace) (package : String)
    (sources : PackageSources) (manifest : Manifest) : Step σ (Status × Nat) := do
  let reportDir := w.packageReportDir package
  let profiles ← a.scriptProfiles manifest reportDir
  let exports ← unitExports (w.unitGraphDir package)
  if sources.scripts.isEmpty || exports.isEmpty then
    let report := Session.recordScripts profiles {}
    writeReport reportDir report
    if report.malicious then return (.malicious, 0)
    else if sources.scripts.isEmpty then return (.noSourceFiles, 0)
    else return (.syntacticError, 0)
  let code ← loadCode (w.codeGraphDir package)
  let (index, arena) ← loadUnits code exports
  let session ← a.runSession deadline (w.packageDir package) sources manifest profiles code index
    arena
  writeReport reportDir session.report
  return (.ofVerdict session.report.malicious, session.findings)

/-- The status of a package and the number of its findings. -/
def run (a : Analyzer σ) (deadline : Deadline σ) (w : Workspace) (package : String) :
    Step σ (Status × Nat) := do
  let packageDir := w.packageDir package
  let tree ← files
  if !tree.isFolder packageDir then return (.codeMissing, 0)
  let sources ← ofFile packageDir (PackageSources.collect tree packageDir [])
  if sources.isEmpty then return (.emptyPackage, 0)
  let manifest ← loadManifest packageDir
  let sources := { sources with dependencies := manifest.dependencies }
  [w.codeGraphDir package, w.unitGraphDir package].forM fun folder =>
    if tree.isFolder folder then pure ⟨⟩ else throw (.missingExport folder)
  match a.options.obfuscationLimit with
  | none => a.judge deadline w package sources manifest
  | some limit =>
    let obfuscated ← a.obfuscatedFiles packageDir sources limit
    if obfuscated.isEmpty then a.judge deadline w package sources manifest
    else
      writeReport (w.packageReportDir package) (Report.setObfuscation {} obfuscated)
      return (.obfuscated, 0)

/-- A part of an analysis that is about the services alone. -/
def onServices {α : Type} (part : StateM σ α) : StateM (FileTree × σ) α := fun (tree, services) =>
  let (value, services) := part.run services
  (value, tree, services)

/-- Analyses a package. A failure is a status too, without findings. -/
def analyze (a : Analyzer σ) (w : Workspace) (package : String) :
    StateM (FileTree × σ) Outcome := do
  let started ← onServices a.clock
  let deadline ← onServices (Deadline.start a.clock a.options.timeout)
  let result ← (a.run deadline w package).run
  let elapsed := (← onServices a.clock).since started
  match result with
  | .ok (status, findings) => return { package, status, findings, elapsed }
  | .error e => return { package, status := .ofError e, elapsed }

end Analyzer

end PackageVet
