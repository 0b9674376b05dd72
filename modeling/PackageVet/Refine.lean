import PackageVet.FileTree
import PackageVet.JavaScript.Source
import PackageVet.Matching
import PackageVet.Service.Oracle
import PackageVet.Service.Probe

/-! Judging matches by the arguments of a call.

Some patterns are malicious only when an argument is: the command that is run, the path that is
read, the address that is called. The argument is taken from the source, with the help of the probe
where it is computed, and given to the oracle. -/
namespace PackageVet

/-- Which call of a pattern is judged, and in which role its argument is. -/
structure RefinementRule where
  category : Category
  judgement : Judgement
  /-- Whether matches are dropped once the report shows stolen information. -/
  skipWhenStealing : Bool := false
  deriving DecidableEq, Repr

/-- The rules by the description of the pattern. -/
def refinementRules : List (String × RefinementRule) :=
  [("execute a command", { category := .executeCommand, judgement := .command }),
   ("spawn a new process", { category := .spawnProcess, judgement := .command }),
   ("run an executable file", { category := .runExecutable, judgement := .executable }),
   ("execute a dynamically created program",
     { category := .dynamicProgram, judgement := .program }),
   ("read from file - execute dynamically created program",
     { category := .readFile, judgement := .fileRead }),
   ("manipulate path - read local file - send through network communication",
     { category := .readFile, judgement := .fileRead }),
   ("read local file - send through network communication",
     { category := .readFile, judgement := .fileRead }),
   ("read local file - send through HTTP request",
     { category := .readFile, judgement := .fileRead }),
   ("search file - send through network", { category := .searchFile, judgement := .searchPath }),
   ("make HTTP request - write data to local sensitive path",
     { category := .writeFile, judgement := .fileWrite }),
   ("change file mode - write data to file", { category := .writeFile, judgement := .fileWrite }),
   ("read file - write data to file", { category := .writeFile, judgement := .fileWrite }),
   ("encode data - data rep - send through network communication",
     { category := .networkCommunication, judgement := .url, skipWhenStealing := true }),
   ("encode data - send through network communication",
     { category := .networkCommunication, judgement := .url, skipWhenStealing := true })]

structure Refiner (σ : Type) where
  files : FileTree
  packageDir : String
  oracle : Option (Oracle σ)
  probe : Probe σ

/-! ### Arguments -/

/-- A part of the text of the arguments: known, or known to the probe by its placeholder. -/
inductive ArgumentPart where
  | text (text : String)
  | placeholder (name : String)
  deriving DecidableEq, Repr

/-- The parts of some arguments and what to ask the probe; `number` arguments were asked for
before. -/
def argumentParts (number : Nat) :
    List JavaScript.Source.Argument → List ArgumentPart × List ProbeRequest
  | [] => ([], [])
  | .literal text :: rest =>
    let (parts, requests) := argumentParts number rest
    (.text text :: parts, requests)
  | .dynamic expression :: rest =>
    let name := "#" ++ toString (number + 1)
    let (parts, requests) := argumentParts (number + 1) rest
    (.placeholder name :: parts, { placeholder := name, expression } :: requests)

/-- The parts with the values that were seen, between blanks; what was not seen is left out. -/
def fillParts (values : Table String String) (parts : List ArgumentPart) : String :=
  " ".intercalate (parts.filterMap fun
    | .text text => some text
    | .placeholder name => values.get? name)

namespace Refiner
variable {σ : Type}

/-- The text of the arguments of the call at a node. There is none where it cannot be known; it is
empty where there is no call, or where the probe never came to it. -/
def argumentText? (r : Refiner σ) (node : ProgramNode) : Request σ (Option String) := do
  if node.line = unknownPosition ∨ node.file = "" then return none
  let column := if node.column = unknownPosition then 0 else node.column
  match (r.files.readText (FileTree.join r.packageDir node.file)).toOption with
  | none => return none
  | some text =>
    let source := JavaScript.Source.ofText text
    if source.tree?.isNone then return none
    match source.callArguments? node.line column with
    | none => return some ""
    | some arguments =>
      let (parts, requests) := argumentParts 0 arguments
      if requests.isEmpty then return some (fillParts {} parts)
      match source.statementStart? node.line column with
      | none => return some ""
      | some (line, column) =>
        if !r.probe.enabled then return none
        let site : ProbeSite := { packageDir := r.packageDir, file := node.file, line, column }
        match ← r.probe.evaluate site requests with
        | some values => return some (fillParts values parts)
        | none => return some ""

/-- Whether a match is kept. What cannot be judged is kept; a call without arguments is not. -/
def keep (r : Refiner σ) (p : Pattern) (m : Mapping) (arena : Arena) (report : Report) :
    Request σ Bool := do
  match refinementRules.lookup p.description with
  | none => return true
  | some rule =>
    if rule.skipWhenStealing && report.hasInformationStealing then return false
    match r.oracle, (m.node? rule.category).bind arena.get? with
    | some oracle, some node =>
      match ← r.argumentText? node with
      | none => return true
      | some "" => return false
      | some text => oracle.judge rule.judgement text
    | _, _ => return true

end Refiner

end PackageVet
