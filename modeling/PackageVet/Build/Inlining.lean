import PackageVet.Build.State

/-! Units that are put in at a call.

What a call runs is found out first, as an `Inlining`; then the graph of that unit is built and put
in (`putIn`). Meanwhile a frame is open for a function, and the file for the top level of a file. -/
namespace PackageVet

/-- A unit that is to be put in at a call. -/
inductive Inlining where
  /-- A function of the same file, called by its name. -/
  | function (unit : CodeUnit) (file name : String)
  /-- A function of another file of the package. -/
  | localModule (unit : CodeUnit) (file name : String)
  /-- A function given as an argument, in a frame of the file that gives it. -/
  | lambda (unit : CodeUnit) (file : String)
  /-- The top level of a required file. -/
  | program (unit : CodeUnit) (file : String)
  deriving Repr

namespace Inlining

def unit : Inlining → CodeUnit
  | function unit .. | localModule unit .. | lambda unit _ | program unit _ => unit

/-- What is open while the unit is built. -/
def enter (i : Inlining) (s : BuildState) : BuildState :=
  match i with
  | function unit file name | localModule unit file name =>
    (s.openFrame file name).markAnalyzed unit.id
  | lambda unit file => (s.openFrame file unit.name).markAnalyzed unit.id
  | program unit file => (s.openFile file).markAnalyzed unit.id

def leave (i : Inlining) (s : BuildState) : BuildState :=
  match i with
  | function _ file _ | localModule _ file _ | lambda _ file => s.closeFrame file
  | program .. => s.closeFile

/-- Control goes to the top level of a file, and data to a function. -/
def tag : Inlining → String
  | program .. => "CFG"
  | _ => "DDG"

/-- What is noted at a call of a function: where its graph starts and what it returns. -/
def note (i : Inlining) (inner : BehaviorGraph) (call : ProgramNode) : ProgramNode :=
  let link : CalleeLink := { entrance := inner.entrance, returns := inner.returns }
  match i with
  | function .. => { call with callee := some link }
  | localModule .. => { call with callee := some link, callKind := some .localModuleCall }
  | lambda .. | program .. => call

end Inlining

namespace Building
variable {σ : Type}

/-- The builder of the units that are put in. -/
abbrev Nested (σ : Type) := NodeId → Building σ BehaviorGraph

/-- Puts the graph of a unit in at a call, if there is one to put in. -/
def putIn (nested : Nested σ) (call : NodeId) (g : BehaviorGraph) :
    Option Inlining → Building σ BehaviorGraph
  | none => pure g
  | some i => do
    change i.enter
    let inner ← restoring (nested i.unit.id) i.leave
    change fun s => s.updateNode call (i.note inner)
    return (g.addEdge call inner.entrance [i.tag]).join inner

end Building

end PackageVet
