import PackageVet.Json.Decode
import PackageVet.Json.Printer
import PackageVet.Json.Reader
import PackageVet.Path
import PackageVet.Text.Blank
import PackageVet.Text.Word

/-! Profiles of install-time scripts: what a command runs, as far as its text shows.

A command that runs `.js` files is a node script, and these files are analysed; any other command
is a shell command, of which only the files it names are noted. -/
namespace PackageVet

inductive ScriptKind where
  | node
  | shellCommand
  deriving DecidableEq, Repr, Inhabited

def ScriptKind.name : ScriptKind → String
  | .node => "node"
  | .shellCommand => "shell-command"

structure ScriptProfile where
  /-- The script's name in the manifest. -/
  phase : String
  command : String
  kind : ScriptKind
  /-- The files that the command runs. -/
  run : List String := []
  malicious : Bool := false
  deriving DecidableEq, Repr, Inhabited

/-! ### Files in a command -/

/-- Whether a word ends before this text. -/
def endsWord : List Char → Bool
  | [] => true
  | c :: _ => !Text.isWord c

/-- The longest file name at the start of a text, and what follows it. A name is made of allowed
characters, at least one before its ending, and ends where a word ends. `taken` holds what was
passed, the last character first, and `best` the longest name so far. -/
def longestName (isAllowed : Char → Bool) (endings : List String) (taken : List Char)
    (best : Option (List Char × List Char)) : List Char → Option (List Char × List Char)
  | [] => best
  | c :: rest =>
    let here := if taken.isEmpty then none else
      endings.findSome? fun ending =>
        (Text.afterStart? (c :: rest) ending.toList).bind fun after =>
          if endsWord after then some (taken.reverse ++ ending.toList, after) else none
    let best := here.orElse fun _ => best
    if isAllowed c then longestName isAllowed endings (c :: taken) best rest else best

/-- The script that a node command at the start of a text runs, and what follows it. -/
def nodeScript? (cs : List Char) : Option (List Char × List Char) :=
  match Text.afterStart? cs "node".toList with
  | some (c :: rest) =>
    if Text.isBlank c then
      longestName (fun c => !Text.isBlank c) [".js"] [] none (rest.dropWhile Text.isBlank)
    else none
  | _ => none

/-- What ends a word of a shell command besides a blank. -/
def shellMarks : List Char := ['\'', '"', '&', '|', ';']

/-- The file that a shell could run at the start of a text, and what follows it. -/
def runnableFile? (cs : List Char) : Option (List Char × List Char) :=
  longestName (fun c => !Text.isBlank c && !shellMarks.contains c)
    [".sh", ".exe", ".md", ".bat", ".cmd"] [] none cs

/-- Everything that `find?` finds in a text, from left to right and without overlap. The fuel is a
list at least as long as the text. -/
def findAll (find? : List Char → Option (List Char × List Char)) :
    List Char → List Char → List String
  | _, [] => []
  | [], _ => []
  | _ :: fuel, c :: rest =>
    match find? (c :: rest) with
    | some (name, after) => String.ofList name :: findAll find? fuel after
    | none => findAll find? fuel rest

namespace ScriptProfile

/-- The profile of a command, as far as its text shows. -/
def ofCommand (phase command : String) : ScriptProfile :=
  let cs := command.toList
  let scripts := findAll nodeScript? cs cs
  if scripts.isEmpty then
    { phase, command, kind := .shellCommand, run := findAll runnableFile? cs cs }
  else { phase, command, kind := .node, run := scripts }

def needsAnalysis (p : ScriptProfile) : Bool := p.kind = .node

/-- The scripts that the command runs, as paths of the package. -/
def sourceFiles (p : ScriptProfile) : List String :=
  (p.run.filter fun file => Text.endsWith file ".js").map fun file =>
    Path.normalize ("package/" ++ file)

/-- Whether the command runs a file into which the analysis cannot see. -/
def runsSensitiveFile (p : ScriptProfile) : Bool :=
  p.run.any fun file => ["md", "sh", "exe"].any fun ending => Text.endsWith file ending

/-! ### As JSON -/

def toJson (p : ScriptProfile) : JsonValue :=
  .record [("phase", .text p.phase), ("command", .text p.command), ("type", .text p.kind.name),
    ("run", .array (p.run.map .text)), ("malicious", .bool p.malicious)]

def ofJson? (value : JsonValue) : Option ScriptProfile := do
  match ← value.fields? ["phase", "command", "type", "run", "malicious"] with
  | [some phase, some command, some kind, some run, some malicious] =>
    return {
      phase := ← phase.text?
      command := ← command.text?
      kind := ← kind.choice? [("node", .node), ("shell-command", .shellCommand)]
      run := ← run.list? JsonValue.text?
      malicious := ← malicious.bool? }
  | _ => none

end ScriptProfile

/-- Profiles by the name of the script, in ascending order. -/
abbrev ScriptProfiles := List (String × ScriptProfile)

namespace ScriptProfiles

/-- The file in which the profiles of a package are kept. -/
def fileName : String := "package_json_profile.json"

def parse? (text : String) : Option ScriptProfiles :=
  (JsonValue.parse? text).bind fun value => value.map? ScriptProfile.ofJson?

def toJson (profiles : ScriptProfiles) : JsonValue :=
  .record (profiles.map fun (name, p) => (name, p.toJson))

def render (profiles : ScriptProfiles) : String := profiles.toJson.render

end ScriptProfiles

end PackageVet
