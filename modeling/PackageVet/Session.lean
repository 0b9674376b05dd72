import PackageVet.Build.Walk
import PackageVet.Manifest
import PackageVet.Matching
import PackageVet.Reduced.Extract

/-! The phases of an analysis.

The install phase looks at the scripts that an installation runs, the import phase at the entry
file, and the run phase at every unit that no build has gone through yet. -/
namespace PackageVet

/-- What the phases only read. -/
structure SessionContext (σ : Type) where
  index : UnitIndex
  sources : PackageSources
  knowledge : KnowledgeStore σ
  patterns : List Pattern
  keep : Keeper σ
  deadline : Deadline σ := .unlimited

/-- What the phases change. -/
structure Session where
  /-- The graph of all code, for its fresh ids. -/
  code : CodeGraph
  state : BuildState
  report : Report := {}
  /-- Files whose top level was looked at. -/
  programs : List String := []
  findings : Nat := 0
  /-- The graphs in which patterns were looked for, the newest first. -/
  detected : List BehaviorGraph := []

namespace Session
variable {σ : Type}

abbrev Step (σ α : Type) : Type := Effect AnalysisError (Session × σ) α

def change (f : Session → Session) : Step σ PUnit := modify fun (s, services) => (f s, services)

def current : Step σ Session := do return (← get).1

/-- The behaviour graph of a unit. -/
def build (c : SessionContext σ) (unit : NodeId) : Step σ BehaviorGraph :=
  ExceptT.mk fun (s, services) =>
    let context : BuildContext σ :=
      { code := s.code, index := c.index, sources := c.sources, knowledge := c.knowledge
        deadline := c.deadline }
    let (result, state, services) := (Building.build context unit).run (s.state, services)
    (result, { s with state }, services)

/-- Takes over the nodes that splitting made. -/
def split (g : BehaviorGraph) : Step σ BehaviorGraph := do
  let s ← current
  let split := Splitting.splitAll { graph := g, arena := s.state.arena, code := s.code }
  change fun s => { s with code := split.code, state := { s.state with arena := split.arena } }
  return split.graph

/-- Looks for the patterns in a reduced graph. The report stays as far as this has come when it
fails; the findings count once it has come to its end. -/
def look (c : SessionContext σ) (reduced : ReducedGraph) (phase : Phase) : Step σ PUnit := do
  let added ← ExceptT.mk fun (s, services) =>
    let (result, matched, services) :=
      (matchPatterns c.patterns reduced s.state.arena c.keep phase c.deadline).run
        ({ report := s.report }, services)
    (result.map fun _ => matched.added, { s with report := matched.report }, services)
  change fun s => { s with findings := s.findings + added }

/-- Looks for the patterns in a graph. -/
def detect (c : SessionContext σ) (g : BehaviorGraph) (phase : Phase) : Step σ PUnit := do
  change fun s => { s with detected := g :: s.detected }
  let g ← split g
  let arena := (← current).state.arena
  look c (← (g.reduce arena c.deadline).onSecond) phase

def initializeScopes (c : SessionContext σ) : Step σ PUnit :=
  change fun s => { s with state := s.state.initializeScopes c.index c.sources }

def markAnalyzed (unit : NodeId) : Step σ PUnit :=
  change fun s => { s with state := s.state.markAnalyzed unit }

/-- Looks at the top level of a file, unless that was done. -/
def analyzeProgram (c : SessionContext σ) (file : String) (phase : Phase) : Step σ PUnit := do
  if (← current).programs.contains file then return
  match c.index.program? file with
  | none => return
  | some program =>
    change fun s => { s with programs := file :: s.programs }
    markAnalyzed program.id
    initializeScopes c
    detect c (← build c program.id) phase

/-- Whether a script belongs in the report. -/
def isFlagged (profile : ScriptProfile) : Bool :=
  profile.kind = .shellCommand && profile.malicious

def recordScript (name : String) (profile : ScriptProfile) (report : Report) : Report :=
  { report.addScript name profile with malicious := true }

/-- Records the malicious scripts, where there is no code to look at. -/
def recordScripts (profiles : ScriptProfiles) (report : Report) : Report :=
  profiles.foldl (fun report (name, profile) =>
    if isFlagged profile then recordScript name profile report else report) report

def installPhase (c : SessionContext σ) (profiles : ScriptProfiles) : Step σ PUnit :=
  profiles.forM fun (name, profile) => do
    if isFlagged profile || profile.runsSensitiveFile then
      change fun s => { s with report := recordScript name profile s.report }
    if profile.needsAnalysis then
      profile.sourceFiles.forM fun file => analyzeProgram c file .install

def importPhase (c : SessionContext σ) (manifest : Manifest) : Step σ PUnit :=
  analyzeProgram c manifest.mainFile .imported

/-- Takes what leads to a graph from outside out of the graph of the file's top level. -/
def pullOutside (g background : BehaviorGraph) : BehaviorGraph :=
  let heads := (g.nodes.flatMap g.predecessors).filter fun head =>
    !g.contains head && background.contains head
  heads.foldl (fun g head => (g.addNode head).pullPredecessors head background) g

/-- Looks at the units that no build has gone through. A unit of a file without a top level ends
the phase. -/
def runUnits (c : SessionContext σ) : List CodeUnit → Step σ PUnit
  | [] => pure ⟨⟩
  | unit :: rest => do
    if (← current).state.isAnalyzed unit.id then runUnits c rest
    else
      markAnalyzed unit.id
      initializeScopes c
      match c.index.program? unit.file with
      | none => pure ⟨⟩
      | some program =>
        let background ← build c program.id
        let g ← build c unit.id
        detect c (pullOutside g background) .run
        runUnits c rest

def runPhase (c : SessionContext σ) : Step σ PUnit := runUnits c c.index.units

/-- The phases that are asked for, in their order. -/
def runPhases (c : SessionContext σ) (manifest : Manifest) (profiles : ScriptProfiles)
    (phases : List Phase) : Step σ PUnit :=
  (Phase.all.filter phases.contains).forM fun
    | .install => installPhase c profiles
    | .imported => importPhase c manifest
    | .run => runPhase c

end Session

end PackageVet
