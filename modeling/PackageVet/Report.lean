import PackageVet.Script

/-! The report on a package.

Findings are grouped by phase and by general behaviour. Each names its pattern and the lines
involved, file by file. A finding that an earlier one of the same behaviour covers is left out. -/
namespace PackageVet

/-- When code of a package runs: at its installation, when it is imported, when it is used. -/
inductive Phase where
  | install
  | imported
  | run
  deriving DecidableEq, Repr, Inhabited

namespace Phase

def all : List Phase := [.install, .imported, .run]

/-- The heading in a report. -/
def heading : Phase → String
  | .install => "INSTALL"
  | .imported => "IMPORT"
  | .run => "RUN"

/-- The name in a configuration. -/
def name : Phase → String
  | .install => "install"
  | .imported => "import"
  | .run => "run"

def ofName? (name : String) : Option Phase := all.find? fun p => p.name = name

end Phase

/-- Lines by file, files and lines in ascending order. -/
abbrev Locality := List (String × List Nat)

structure Finding where
  description : String
  lines : Locality := []
  deriving DecidableEq, Repr, Inhabited

/-- Whether a finding says no more than another: the same files, and all its lines among the
other's. -/
def Finding.isCoveredBy (f other : Finding) : Bool :=
  f = other || (f.lines.length = other.lines.length &&
    f.lines.all fun (file, lines) =>
      match Sorted.find? file other.lines with
      | some covering => lines.all covering.contains
      | none => false)

/-- Findings by general behaviour, behaviours in ascending order. -/
abbrev Behaviors := List (String × List Finding)

structure Report where
  malicious : Bool := false
  /-- The files that were judged to be obfuscated. -/
  obfuscation : Option (List String) := none
  /-- Malicious install-time scripts. -/
  scripts : ScriptProfiles := []
  install : Behaviors := []
  imported : Behaviors := []
  run : Behaviors := []
  deriving DecidableEq, Repr, Inhabited

namespace Report

def fileName : String := "report.json"

def informationStealing : String := "Information Stealing"

def findings (r : Report) : Phase → Behaviors
  | .install => r.install
  | .imported => r.imported
  | .run => r.run

def setFindings (r : Report) (phase : Phase) (behaviors : Behaviors) : Report :=
  match phase with
  | .install => { r with install := behaviors }
  | .imported => { r with imported := behaviors }
  | .run => { r with run := behaviors }

/-- Whether a behaviour of a phase already has a finding that covers this one. -/
def covers (r : Report) (phase : Phase) (behavior : String) (f : Finding) : Bool :=
  ((Sorted.find? behavior (r.findings phase)).getD []).any f.isCoveredBy

/-- Adds a finding unless it is covered, and says whether it was added. -/
def addFinding (r : Report) (phase : Phase) (behavior : String) (f : Finding) : Bool × Report :=
  let covered := r.covers phase behavior f
  let behaviors := Sorted.upsert behavior
    (fun found => found.getD [] ++ if covered then [] else [f]) (r.findings phase)
  (!covered, r.setFindings phase behaviors)

def addScript (r : Report) (name : String) (profile : ScriptProfile) : Report :=
  { r with scripts := Sorted.put name profile r.scripts }

/-- Obfuscated code is malicious. -/
def setObfuscation (r : Report) (files : List String) : Report :=
  { r with malicious := true, obfuscation := some files }

def findingCount (r : Report) : Nat :=
  (Phase.all.flatMap fun phase => (r.findings phase).flatMap Prod.snd).length

def hasInformationStealing (r : Report) : Bool :=
  Phase.all.any fun phase => (r.findings phase).any fun b => b.1 = informationStealing

/-! ### As JSON -/

def localityJson (lines : Locality) : JsonValue :=
  .record (lines.map fun (file, lines) => (file, .array (lines.map .nat)))

def findingJson (f : Finding) : JsonValue :=
  .record [("pattern desc", .text f.description), ("file", localityJson f.lines)]

def behaviorsJson (behaviors : Behaviors) : JsonValue :=
  .record (behaviors.map fun (behavior, findings) => (behavior, .array (findings.map findingJson)))

/-- Empty sections are left out. -/
def toJson (r : Report) : JsonValue :=
  .record ([("Malicious", .bool r.malicious)] ++
    (match r.obfuscation with
      | some files => [("Obfuscation", .array (files.map .text))]
      | none => []) ++
    (if r.scripts.isEmpty then [] else [("INSTALL TIME SCRIPT", r.scripts.toJson)]) ++
    Phase.all.filterMap fun phase =>
      let behaviors := r.findings phase
      if behaviors.isEmpty then none else some (phase.heading, behaviorsJson behaviors))

def localityOfJson? (value : JsonValue) : Option Locality :=
  value.map? fun lines => (lines.list? (JsonValue.nat? Text.wordMax)).map Sorted.ofList

def findingOfJson? (value : JsonValue) : Option Finding := do
  match ← value.fields? ["pattern desc", "file"] with
  | [some description, some lines] =>
    return { description := ← description.text?, lines := ← localityOfJson? lines }
  | _ => none

def behaviorsOfJson? (value : JsonValue) : Option Behaviors := value.map? (·.list? findingOfJson?)

def ofJson? (value : JsonValue) : Option Report := do
  match ← value.fields?
    ["Malicious", "Obfuscation", "INSTALL TIME SCRIPT", "INSTALL", "IMPORT", "RUN"] with
  | [malicious, obfuscation, scripts, install, imported, run] =>
    return {
      malicious := ← JsonValue.withDefault JsonValue.bool? false malicious
      obfuscation := ← JsonValue.nullable (JsonValue.list? JsonValue.text?) obfuscation
      scripts := ← JsonValue.withDefault (JsonValue.map? ScriptProfile.ofJson?) [] scripts
      install := ← JsonValue.withDefault behaviorsOfJson? [] install
      imported := ← JsonValue.withDefault behaviorsOfJson? [] imported
      run := ← JsonValue.withDefault behaviorsOfJson? [] run }
  | _ => none

def parse? (text : String) : Option Report := (JsonValue.parse? text).bind ofJson?

def render (r : Report) : String := r.toJson.render

end Report

end PackageVet
