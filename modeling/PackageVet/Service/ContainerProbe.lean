import PackageVet.Duration
import PackageVet.FileTree
import PackageVet.Json.Printer
import PackageVet.Manifest
import PackageVet.Service.Probe

/-! A probe that runs a copy of the package in a container.

The package is started in several ways, one after another, until the lines put into it have written
their log. -/
namespace PackageVet

structure Container (σ : Type) where
  /-- Runs a command over a folder, without a network, and gives the folder back as the run left
  it, or says why nothing could be run. The arguments are those after the mounted folder. -/
  run : (arguments : List String) → FileTree → Effect String σ FileTree

/-- Where no container can be started. -/
def Container.absent {σ : Type} : Container σ where
  run _ _ := throw FileError.missing.message

/-- How the package is started. -/
inductive Launch where
  /-- By an installation with the scripts of the package. -/
  | install
  /-- By an installation that ends with a script. -/
  | postinstall (script : String)
  /-- By a script alone, for packages whose installation needs the network. -/
  | direct (script : String)
  deriving DecidableEq, Repr

def Launch.command : Launch → List String
  | .install | .postinstall _ => ["npm", "install"]
  | .direct script => ["node", script]

structure ContainerProbe where
  image : String := "node:20-alpine"
  timeout : Duration := .ofSeconds 10
  deriving DecidableEq, Repr

namespace ContainerProbe
variable {σ : Type}

def service : String := "argument probe"

/-- A run gets whole seconds, and one at least. -/
def arguments (s : ContainerProbe) (launch : Launch) : List String :=
  let seconds := max (s.timeout.nanoseconds / 1000000000) 1
  ["-w", "/pkg/package", s.image, "timeout", toString seconds] ++ launch.command

/-! ### Putting lines into a file -/

/-- The text with the lines of the requests before a line counted from one, or at the end. -/
def instrument (source : String) (line column : Nat) (requests : List ProbeRequest) : String :=
  let lines := (Text.lines source.toList).map String.ofList
  let place := line - 1
  let lines := lines.take place ++ ProbeRequest.instrumentation requests column ++ lines.drop place
  "\n".intercalate lines ++ "\n"

/-! ### Launches -/

/-- A path of the package as the package itself names it. -/
def packageRelative (file : String) : String := (Text.stripStart? file "package/").getD file

def manifestPath : String := "package/package.json"

def logPath : String := "package/log.log"

/-- First the installation, then one that ends with the entry file or with the probed file, then
the probed file alone. -/
def launches (tree : FileTree) (file : String) : List Launch :=
  let target := packageRelative file
  let manifest := (tree.readText manifestPath).toOption.bind Manifest.parse?
  let entry := match manifest with
    | some m =>
      let main := packageRelative m.mainFile
      if main ≠ target then [.postinstall main] else []
    | none => []
  .install :: entry ++ [.postinstall target, .direct target]

mutual

/-- The value with the members of every object in ascending order, the last of a name alone. -/
def sorted : JsonValue → JsonValue
  | .array items => .array (sortedItems items)
  | .object members => .record (Sorted.ofEntries (sortedMembers members))
  | value => value

def sortedItems : List JsonValue → List JsonValue
  | [] => []
  | item :: rest => sorted item :: sortedItems rest

def sortedMembers : List (Option String × JsonValue) → List (String × JsonValue)
  | [] => []
  | (name, value) :: rest => (name.getD "", sorted value) :: sortedMembers rest

end

/-- The scripts of a manifest with one that runs after the installation. -/
def scriptsWith (script : String) (scripts : Option JsonValue) : JsonValue :=
  let members := match scripts with
    | some (.object members) => members
    | _ => []
  .object (members ++ [(some "postinstall", .text ("node " ++ script))])

/-- A manifest with a script that runs after the installation. -/
def withPostinstall (script text : String) : Except ServiceError String :=
  match (JsonValue.parse? text).filter fun value => value.isUsable JsonValue.maxDepth with
  | none => .error (.malformedResponse service "package.json: not JSON")
  | some (.object members) =>
    let scripts := (members.reverse.find? fun m => m.1 = some "scripts").map Prod.snd
    .ok (sorted (.object (members ++ [(some "scripts", scriptsWith script scripts)]))).render
  | some _ => .error (.malformedResponse service "package.json is not an object")

/-- A result of the tree of files, or the failure of a step. -/
def ofFile {α : Type} (action : String) : Except FileError α → Except ServiceError α
  | .ok value => .ok value
  | .error e => .error (.transport service (action ++ ": " ++ e.message))

def setPostinstall (script : String) (tree : FileTree) : Except ServiceError FileTree := do
  let text ← ofFile "read package.json" (tree.readText manifestPath)
  ofFile "write package.json" (tree.writeText manifestPath (← withPostinstall script text))

/-- The copy of the package, with the lines put in. -/
def prepare (files : FileTree) (site : ProbeSite) (requests : List ProbeRequest) :
    Except ServiceError FileTree := do
  let tree ← ofFile "copy package" (files.subtree site.packageDir)
  let source ← ofFile "read source" (tree.readText site.file)
  ofFile "write source"
    (tree.writeText site.file (instrument source site.line site.column requests))

/-- The tree before a launch. -/
def prepareLaunch (tree : FileTree) : Launch → Except ServiceError FileTree
  | .postinstall script => setPostinstall script tree
  | _ => .ok tree

/-- The values in the log; none before anything is written. -/
def logged (tree : FileTree) : Option (Table String String) :=
  let values := ((tree.readText logPath).toOption.map readProbeLog).getD {}
  if values.entries.isEmpty then none else some values

/-! ### Running -/

def lift {α : Type} : Except ServiceError α → Request σ α
  | .ok value => pure value
  | .error e => throw e

def start (s : ContainerProbe) (container : Container σ) (launch : Launch) (tree : FileTree) :
    Request σ FileTree := ExceptT.mk do
  match ← (container.run (s.arguments launch) tree).run with
  | .ok tree => pure (.ok tree)
  | .error message =>
    pure (.error (.transport service ("failed to start docker: " ++ message)))

/-- Tries the launches in turn, until one has written the log. -/
def tryLaunches (s : ContainerProbe) (container : Container σ) :
    List Launch → FileTree → Request σ (Option (Table String String))
  | [], _ => return none
  | launch :: rest, tree => do
    let tree ← s.start container launch (← lift (prepareLaunch tree launch))
    match logged tree with
    | some values => return some values
    | none => s.tryLaunches container rest tree

/-- A package without a manifest is not run at all. -/
def evaluate (s : ContainerProbe) (container : Container σ) (files : FileTree) (site : ProbeSite)
    (requests : List ProbeRequest) : Request σ (Option (Table String String)) := do
  if requests.isEmpty then return none
  let tree ← lift (prepare files site requests)
  if !tree.isFile manifestPath then return none
  s.tryLaunches container (launches tree site.file) tree

def probe (s : ContainerProbe) (container : Container σ) (files : FileTree) : Probe σ where
  enabled := true
  evaluate := s.evaluate container files

end ContainerProbe

end PackageVet
