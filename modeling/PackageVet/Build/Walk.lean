import PackageVet.Build.Assignment
import PackageVet.Build.Invocation

/-! Building the behaviour graph of a unit.

The unit is walked depth first from its entrance, control before data. A node is looked at when
the walk comes to it first; whenever it comes again, only the edge is added (`revisit`). The graphs
of called functions, of required files and of functions given as arguments are put in where they
are called. -/
namespace PackageVet.Building
variable {σ : Type}

/-! ### Units put in at a call -/

/-- The top level of a required file; a file that is being required already is not entered
again. -/
def require (c : BuildContext σ) (node : ProgramNode) : Building σ (Option Inlining) := do
  match JavaScript.firstCallString? node.code with
  | none => return none
  | some module_ =>
    if (← classify c module_) = .builtin then return none
    if !c.sources.isLocalFile node.file module_ then return none
    let path := PackageSources.requiredScript node.file module_
    match c.index.program? path with
    | none => return none
    | some program =>
      if !c.sources.contains path || (← state).requiring.contains path then return none
      else return some (.program program path)

/-- The function that is given as the last argument of a call. -/
def lambdaArgument? (c : BuildContext σ) (node : ProgramNode) : Option Inlining := do
  let last ← (c.code.arguments node.id).getLast?
  let fullName ← last.methodFullName?
  if isLambdaName (last.code?.getD "") then
    return .lambda (← c.index.ofFullName? fullName) node.file
  else none

/-! ### Calls -/

/-- Whether a call has the name of a function, and not that of an operator. -/
def isCallName (name : String) : Bool :=
  let isStart (c : Char) : Bool := c.isAlpha || c = '$' || c = '_'
  match name.toList with
  | c :: rest => isStart c && rest.all fun c => isStart c || c.isDigit
  | [] => false

/-- `+=` carries data back to the node that declared its left side. -/
def assignPlus (c : BuildContext σ) (node : ProgramNode) (g : BehaviorGraph) :
    Building σ BehaviorGraph := do
  match (c.code.children node.id).head?.bind CodeNode.code? with
  | some left =>
    match (← lookup? node.file left node.line).bind Identifier.node with
    | some target => return g.addEdge node.id target ["DDG: " ++ left]
    | none => return g
  | none => return g

/-- A template takes what a call returned. -/
def formatString (u : CodeUnit) (node : ProgramNode) (former : Option NodeId) (g : BehaviorGraph) :
    Building σ BehaviorGraph := do
  match former with
  | some former =>
    let tags := u.incomingTags (some former) node.id
    match ← node? former with
    | some source => return g.substituteReturns source node.id tags
    | none => return g.addEdge former node.id tags
  | none => return g

/-- A call, by its name. -/
def operation (c : BuildContext σ) (u : CodeUnit) (node : ProgramNode) (former : Option NodeId)
    (g : BehaviorGraph) : Building σ (BehaviorGraph × Option Inlining) := do
  let tags := u.incomingTags former node.id
  match node.name with
  | "<operator>.assignment" =>
    let g ← assignment c u node former g
    match former with
    | some former => return (g.ensureEdge former node.id tags, none)
    | none => return (g, none)
  | "<operator>.assignmentPlus" =>
    return ((← assignPlus c node g).linkIncoming u former node.id, none)
  | "<operator>.formatString" => return (← formatString u node former g, none)
  | "<operator>.new" =>
    if JavaScript.firstConstructed? node.code = some (.name "Function") then
      markSensitive node.id [Category.dynamicProgram]
    return (g.linkIncoming u former node.id, none)
  | "require" => return (g.linkIncoming u former node.id, ← require c node)
  | name =>
    if isCallName name then
      invoke c u node (g.linkFrom former node.id (if name = "then" then ["DDG"] else tags))
    else return (g.linkIncoming u former node.id, none)

/-! ### The walk -/

/-- What a node adds when the walk comes to it first. -/
def firstVisit (c : BuildContext σ) (nested : Nested σ) (u : CodeUnit) (current : NodeId)
    (former : Option NodeId) (g : BehaviorGraph) : Building σ BehaviorGraph := do
  match ← node? current with
  | none => return g
  | some node =>
    if node.entrance then return g
    match node.kind with
    | "RETURN" =>
      change fun s => s.updateNode current fun n => { n with returnValue := true }
      return (g.addReturn current).linkIncoming u former current
    | "METHOD_PARAMETER_IN" =>
      if node.name ≠ "this" then
        change fun s => s.declare
          { name := node.name, line := node.line, node := some current, file := node.file }
      return g.linkIncoming u former current
    | "CALL" =>
      let (g, called?) ← operation c u node former g
      putIn nested current (← putIn nested current g called?) (lambdaArgument? c node)
    | _ => return g.linkIncoming u former current

/-- The edge that is added when the walk comes to a node again. -/
def revisit (arena : Arena) (u : CodeUnit) (former current : NodeId) (g : BehaviorGraph) :
    BehaviorGraph :=
  let tags := u.incomingTags (some former) current
  match arena.get? former, arena.get? current with
  | some source, some target =>
    if target.name = "<operator>.formatString" then g.linkResolved source current tags
    else if EdgeKind.ofTags tags = .data then
      if target.callKind = some .assignment then g.linkResolved source current tags
      else if target.callee.isSome && source.hasResolvedCallee then
        (g.substituteReturns source current tags).addEdge former current tags
      else g.addEdge former current tags
    else g.addEdge former current tags
  | _, _ => g.addEdge former current tags

/-- The successors of a node: where control goes first, then where data goes, by line. -/
def orderedSuccessors (arena : Arena) (u : CodeUnit) (current : NodeId) : List NodeId :=
  let isData (next : NodeId) : Bool := u.edgeKind? current next = some .data
  let (data, control) := (u.successors current).partition isData
  control ++ Sorted.orderBy arena.line data

/-- Walks on from the nodes of a stack, each with the node that the walk came from. An edge of the
unit puts one node on the stack once, so the edges bound the steps: no walk from the entrance is left
unfinished. -/
def walk (c : BuildContext σ) (nested : Nested σ) (u : CodeUnit) :
    Nat → List NodeId → List (NodeId × Option NodeId) → BehaviorGraph → Building σ BehaviorGraph
  | _, _, [], g => pure g
  | 0, _, _ :: _, _ => throw .unfinished
  | steps + 1, visited, (current, former) :: stack, g => do
    check c
    if current ∈ visited then
      match former with
      | some former =>
        walk c nested u steps visited stack (revisit (← state).arena u former current g)
      | none => walk c nested u steps visited stack g
    else
      let g ← firstVisit c nested u current former (g.addNode current)
      let next := orderedSuccessors (← state).arena u current
      walk c nested u steps (current :: visited) (next.map (·, some current) ++ stack) g

/-- The graph of a unit, with units put in at most `depth` deep. -/
def buildWithin (c : BuildContext σ) : Nat → NodeId → Building σ BehaviorGraph
  | 0, _ => throw .nesting
  | depth + 1, id =>
    match c.index.get? id with
    | some u =>
      walk c (buildWithin c depth) u (u.edges.size + 1) [] [(u.id, none)] { entrance := id }
    | none => pure { entrance := id }

/-- How deep units can be put in: a function is not entered while a frame of its name is open in
its file, nor a file while it is being required, and between two of these come only functions given
as arguments, which stand inside one another in the code. -/
def maxDepth (c : BuildContext σ) : Nat :=
  let units := c.index.units.length
  (units * units + units + 1) * (units + 1) + 1

/-- The behaviour graph from the entrance of a unit. -/
def build (c : BuildContext σ) (id : NodeId) : Building σ BehaviorGraph :=
  buildWithin c (maxDepth c) id

end PackageVet.Building
