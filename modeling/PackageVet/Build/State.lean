import PackageVet.Behavior
import PackageVet.Error
import PackageVet.Knowledge.Tables
import PackageVet.Scope
import PackageVet.Sources

/-! What the building of behaviour graphs reads and changes.

All builds of one package share a `BuildState`: what is known of the nodes, what names stand for
in each file, and which files and functions are open. Every frame that a build opens it closes
again, also when it fails (`restoring`). -/
namespace PackageVet

/-- The units of a package, in the order of their exports. -/
structure UnitIndex where
  units : List CodeUnit := []
  deriving Repr, Inhabited

namespace UnitIndex

/-- The unit of an id; of several, the last. -/
def get? (index : UnitIndex) (id : NodeId) : Option CodeUnit :=
  index.units.reverse.find? fun u => u.id = id

/-- The top level of a file; of several, the first. -/
def program? (index : UnitIndex) (file : String) : Option CodeUnit :=
  index.units.find? fun u => u.isProgram && u.file = file

def ofFullName? (index : UnitIndex) (fullName : String) : Option CodeUnit :=
  index.units.find? fun u => u.fullName = fullName

/-- The unit of a name in a file. -/
def named? (index : UnitIndex) (name file : String) : Option CodeUnit :=
  index.units.find? fun u => u.name = name && u.file = file

end UnitIndex

structure BuildState where
  arena : Arena := {}
  /-- What names stand for, by file. -/
  scopes : Table String Scope := {}
  /-- Units that some build went through. -/
  analyzed : List NodeId := []
  /-- Modules that could not be registered. -/
  unregistered : List String := []
  /-- Files being put in at a `require`, the innermost first. -/
  requiring : List String := []
  deriving Repr, Inhabited

namespace BuildState

def scope (s : BuildState) (file : String) : Scope := (s.scopes.get? file).getD {}

def setScope (s : BuildState) (file : String) (scope : Scope) : BuildState :=
  { s with scopes := s.scopes.insert file scope }

def lookup? (s : BuildState) (file name : String) (line : Nat) : Option Identifier :=
  (s.scope file).lookup? name line

def declare (s : BuildState) (i : Identifier) : BuildState :=
  s.setScope i.file ((s.scope i.file).declare i)

def openFrame (s : BuildState) (file name : String) : BuildState :=
  s.setScope file ((s.scope file).push name)

def closeFrame (s : BuildState) (file : String) : BuildState :=
  s.setScope file (s.scope file).pop

def isOpen (s : BuildState) (file name : String) : Bool := (s.scope file).isOpen name

def isAnalyzed (s : BuildState) (unit : NodeId) : Bool := s.analyzed.contains unit

def markAnalyzed (s : BuildState) (unit : NodeId) : BuildState :=
  if s.isAnalyzed unit then s else { s with analyzed := unit :: s.analyzed }

def openFile (s : BuildState) (file : String) : BuildState :=
  { s with requiring := file :: s.requiring }

def closeFile (s : BuildState) : BuildState := { s with requiring := s.requiring.tail }

def updateNode (s : BuildState) (id : NodeId) (change : ProgramNode → ProgramNode) : BuildState :=
  { s with arena := s.arena.modify id change }

/-- Forgets all names but those of the functions declared in the files of the package. -/
def initializeScopes (s : BuildState) (index : UnitIndex) (sources : PackageSources) :
    BuildState :=
  let functions := index.units.filter fun u => u.kind = .function && sources.contains u.file
  functions.foldl (fun s u => s.declare (.ofFunction u.name u.file u.id))
    { s with scopes := ⟨s.scopes.entries.map fun (file, _) => (file, {})⟩ }

end BuildState

/-- What a build only reads. -/
structure BuildContext (σ : Type) where
  code : CodeGraph
  index : UnitIndex
  sources : PackageSources
  knowledge : KnowledgeStore σ
  deadline : Deadline σ := .unlimited

/-- A step of a build: it changes the state of the package and that of the services. -/
abbrev Building (σ α : Type) : Type := Effect AnalysisError (BuildState × σ) α

namespace Building
variable {σ α : Type}

def state : Building σ BuildState := do return (← get).1

def change (f : BuildState → BuildState) : Building σ PUnit :=
  modify fun (s, services) => (f s, services)

/-- Runs a step and then changes the state, whether the step failed or not. -/
def restoring (step : Building σ α) (restore : BuildState → BuildState) : Building σ α :=
  ExceptT.mk fun s =>
    let (result, s, services) := step.run s
    (result, restore s, services)

def ask (request : Request σ α) : Building σ α :=
  Request.lift Prod.snd (fun services s => (s.1, services)) request

/-- Fails once the time of the package is used up. -/
def check (c : BuildContext σ) : Building σ PUnit := c.deadline.check.onSecond

def node? (id : NodeId) : Building σ (Option ProgramNode) := do return (← state).arena.get? id

def lookup? (file name : String) (line : Nat) : Building σ (Option Identifier) := do
  return (← state).lookup? file name line

/-- Marks a node sensitive, unless there is nothing to mark it with. -/
def markSensitive (id : NodeId) (categories : List Category) : Building σ PUnit :=
  if categories.isEmpty then pure ⟨⟩
  else change fun s => s.updateNode id fun n => n.markSensitive categories

/-- Notes what a call stands for. -/
def resolveCall (id : NodeId) (fullName : String) (derivation : Derivation) : Building σ PUnit :=
  change fun s => s.updateNode id fun n =>
    { n with fullName := some fullName, derivation := some derivation }

def setCallKind (id : NodeId) (kind : CallKind) : Building σ PUnit :=
  change fun s => s.updateNode id fun n => { n with callKind := some kind }

def classify (c : BuildContext σ) (module_ : String) : Building σ ModuleClass :=
  ask (c.knowledge.classify module_)

def sensitiveCall (c : BuildContext σ) (qualifier call : String) (derivation : Derivation)
    (hint : Option Category) : Building σ (List Category) :=
  ask (c.knowledge.sensitiveCall qualifier call derivation hint)

/-- Tries to make an unknown module known. A module that could not be registered is not tried
again, and a failure of the service counts as a refusal. -/
def register (c : BuildContext σ) (module_ : String) : Building σ Bool := do
  if (← state).unregistered.contains module_ then return false
  let registered ← ExceptT.mk fun (s, services) =>
    match (c.knowledge.registerModule module_ c.sources.dependencies).run services with
    | (.ok registered, services) => (.ok registered, s, services)
    | (.error _, services) => (.ok false, s, services)
  if !registered then
    change fun s => { s with unregistered := module_ :: s.unregistered }
  return registered

end Building

end PackageVet
