import PackageVet.Build.Inlining
import PackageVet.Build.Link
import PackageVet.JavaScript.Shape

/-! Calls of functions and methods, by the shape of the callee.

A call of a function of the package gives the unit of that function, which is then put in. A call
of a function from elsewhere is looked up in the knowledge store and marked where it is
sensitive. -/
namespace PackageVet.Building
variable {σ : Type}

/-! ### Functions from elsewhere -/

/-- Notes what a call stands for and marks it with the categories of that. -/
def markKnown (c : BuildContext σ) (node : ProgramNode) (qualifier call fullName : String)
    (derivation : Derivation) : Building σ PUnit := do
  let categories ← sensitiveCall c qualifier call derivation none
  resolveCall node.id fullName derivation
  markSensitive node.id categories

/-- A method of an object from another package: only an object of an interesting category is
looked up, and the call stands for something only where it is sensitive. -/
def markHinted (c : BuildContext σ) (node : ProgramNode) (found : Identifier)
    (qualifier : String) : Building σ PUnit := do
  match Category.firstInterest? found.createdBy with
  | some hint =>
    let categories ← sensitiveCall c qualifier node.name .thirdParty (some hint)
    if categories.isEmpty then pure ⟨⟩
    else
      resolveCall node.id (qualifier ++ "." ++ node.name) .thirdParty
      markSensitive node.id categories
  | none => pure ⟨⟩

/-- A method of a module or global of the platform that no name of the file hides. -/
def builtinMember (c : BuildContext σ) (node : ProgramNode) (qualifier : String) :
    Building σ PUnit := do
  let root := String.ofList (((Text.splitOn '.' qualifier.toList).head?).getD [])
  if (← classify c root) = .builtin then
    markKnown c node qualifier node.name (qualifier ++ "." ++ node.name) .builtin
  else pure ⟨⟩

/-! ### Functions of the package -/

/-- A call of a function of the same file; one that is open already is not entered again. -/
def functionCall (c : BuildContext σ) (node : ProgramNode) (declaration : NodeId) :
    Building σ (Option Inlining) := do
  match c.index.get? declaration with
  | some callee =>
    if (← state).isOpen node.file node.name then return none
    else return some (.function callee node.file node.name)
  | none => return none

/-- A call of a function of another file of the package. -/
def localModuleCall (c : BuildContext σ) (node : ProgramNode) (module_ function : String) :
    Building σ (Option Inlining) := do
  let path := Path.resolve node.file module_
  let path := if Text.endsWith path ".js" then path else path ++ ".js"
  match c.index.named? function path with
  | some callee =>
    if (← state).isOpen path function then return none
    else return some (.localModule callee path function)
  | none => return none

/-! ### Arguments -/

/-- An edge from the node that declared a name to a call that is given it; functions carry no
data. -/
def linkArgument (s : BuildState) (u : CodeUnit) (call : NodeId) (g : BehaviorGraph) (name : String)
    (line : Nat) : BehaviorGraph :=
  match s.lookup? u.file name line with
  | some found => if found.kind.isFunction then g else g.linkName u found.node call name
  | none => g

/-- Edges from the names in one argument of a call, but for the call's own qualifier. -/
def connectArgument (c : BuildContext σ) (s : BuildState) (u : CodeUnit) (node : ProgramNode)
    (qualifier : Option String) (g : BehaviorGraph) (argument : CodeNode) : BehaviorGraph :=
  let line := argument.line?.getD node.line
  match argument.kind with
  | "CALL" =>
    if argument.name? = some "<operator>.fieldAccess" ∨
        argument.name? = some "<operator>.indexAccess" then
      match c.code.children argument.id with
      | object :: _ =>
        linkArgument s u node.id g (object.code?.getD "") (object.line?.getD line)
      | [] => g
    else g
  | "IDENTIFIER" =>
    (JavaScript.identifiers (argument.code?.getD "")).foldl (fun g name =>
      if name = "this" ∨ some name = qualifier then g else linkArgument s u node.id g name line) g
  | _ => g

def connectArguments (c : BuildContext σ) (u : CodeUnit) (node : ProgramNode)
    (qualifier : Option String) (g : BehaviorGraph) : Building σ BehaviorGraph := do
  let s ← state
  return (c.code.arguments node.id).foldl (connectArgument c s u node qualifier) g

/-! ### Shapes of calls -/

/-- A function called by its name alone. -/
def bareCall (c : BuildContext σ) (node : ProgramNode) : Building σ (Option Inlining) := do
  let call := node.name
  match ← lookup? node.file call node.line with
  | none =>
    if (← classify c call) = .builtin then markKnown c node call call call .builtin
    return none
  | some found =>
    let module_ := found.module?.getD ""
    let function := found.importedFunction.getD ""
    match found.kind with
    | .functionDeclare =>
      setCallKind node.id .functionCall
      match found.declaration, c.code.callTarget? node.id with
      | some declaration, some target =>
        if target.id = declaration then functionCall c node declaration else return none
      | some declaration, none => functionCall c node declaration
      | none, _ => return none
    | .functionFromRequire =>
      if found.isLocal then localModuleCall c node module_ function
      else
        let fullName := module_ ++ "." ++ function
        match ← classify c module_ with
        | .builtin => markKnown c node module_ function fullName .builtin
        | .thirdParty => markKnown c node module_ function fullName .thirdParty
        | .unknown =>
          if ← register c module_ then markKnown c node module_ function fullName .thirdParty
        return none
    | .require =>
      match ← classify c module_ with
      | .thirdParty =>
        resolveCall node.id module_ .thirdParty
        markSensitive node.id (← sensitiveCall c module_ module_ .thirdParty none)
      | .builtin =>
        resolveCall node.id module_ .builtin
        markSensitive node.id (← sensitiveCall c module_ call .builtin none)
      | .unknown => pure ⟨⟩
      return none
    | _ => return none

/-- A method called on a name that is known. -/
def knownMember (c : BuildContext σ) (node : ProgramNode) (found : Identifier) :
    Building σ (Option Inlining) := do
  let call := node.name
  match found.kind with
  | .require =>
    let module_ := found.module?.getD ""
    let fullName := module_ ++ "." ++ call
    if found.isLocal then localModuleCall c node module_ call
    else
      if found.isBuiltin then markKnown c node module_ call fullName .builtin
      else if found.isThirdParty then markKnown c node module_ call fullName .thirdParty
      return none
  | .returnObject =>
    match found.fullName, found.origin with
    | some fullName, some .thirdParty => markHinted c node found fullName
    | some fullName, some .builtin =>
      let qualifier := (factoryClass? fullName).getD fullName
      markKnown c node qualifier call (qualifier ++ "." ++ call) .builtin
    | _, _ => pure ⟨⟩
    return none
  | _ => return none

/-- `object.method(…)` -/
def memberCall (c : BuildContext σ) (u : CodeUnit) (node : ProgramNode) (object : String)
    (g : BehaviorGraph) : Building σ (BehaviorGraph × Option Inlining) := do
  let g ← connectArguments c u node (some object) g
  match ← lookup? node.file object node.line with
  | some found =>
    let g := g.linkName u found.node node.id object
    if found.source = "this" then return (g, none)
    else return (g, ← knownMember c node found)
  | none =>
    builtinMember c node object
    return (g, none)

/-- `object.factory(…).method(…)` -/
def chainedCall (c : BuildContext σ) (u : CodeUnit) (node : ProgramNode) (object inner : String)
    (g : BehaviorGraph) : Building σ BehaviorGraph := do
  let g ← connectArguments c u node (some object) g
  match ← lookup? node.file object node.line with
  | some found =>
    let g := g.linkName u found.node node.id object
    if found.source = "this" || !found.isBuiltin then return g
    match found.module? with
    | some module_ =>
      let factory := module_ ++ "." ++ inner
      markKnown c node ((factoryClass? factory).getD factory) node.name
        (factory ++ "." ++ node.name) .builtin
      return g
    | none => return g
  | none => return g

/-- A method of a part of an object that is known. -/
def nestedKnown (c : BuildContext σ) (node : ProgramNode) (inner : String) (found : Identifier) :
    Building σ PUnit :=
  let call := node.name
  match found.kind with
  | .require =>
    if !found.isLocal && found.isBuiltin then
      let qualifier := found.module?.getD "" ++ "." ++ inner
      markKnown c node qualifier call (qualifier ++ "." ++ call) .builtin
    else pure ⟨⟩
  | .returnObject =>
    match found.fullName, found.origin with
    | some fullName, some .builtin =>
      let className := (factoryClass? fullName).getD fullName
      let method := inner ++ "." ++ call
      markKnown c node className method (className ++ "." ++ method) .builtin
    | some fullName, some .thirdParty => markHinted c node found (fullName ++ "." ++ inner)
    | _, _ => pure ⟨⟩
  | _ => pure ⟨⟩

/-- `object.part.method(…)` -/
def nestedMember (c : BuildContext σ) (u : CodeUnit) (node : ProgramNode) (object inner : String)
    (g : BehaviorGraph) : Building σ (BehaviorGraph × Option Inlining) := do
  let qualifier := object ++ "." ++ inner
  if qualifier = "module.exports" then return (g, none)
  match ← lookup? node.file qualifier node.line with
  | some found =>
    return (g.linkName u found.node node.id qualifier, ← knownMember c node found)
  | none =>
    if object = "this" then return (g, none)
    let g ← connectArguments c u node (some object) g
    match ← lookup? node.file object node.line with
    | some found =>
      if found.source ≠ "this" then nestedKnown c node inner found
      return (g.linkName u found.node node.id object, none)
    | none =>
      builtinMember c node qualifier
      return (g, none)

/-- A call, by its shape. A shape that names another function than the node does is left alone. -/
def invoke (c : BuildContext σ) (u : CodeUnit) (node : ProgramNode) (g : BehaviorGraph) :
    Building σ (BehaviorGraph × Option Inlining) := do
  setCallKind node.id .call
  let call := node.name
  match JavaScript.CallShape.ofCode node.code with
  | .bare _ =>
    let g ← connectArguments c u node none g
    return (g, ← bareCall c node)
  | .member object property | .partialMember object property =>
    if property ≠ call || object = "this" then return (g, none)
    else memberCall c u node object g
  | .requireMember module_ property =>
    if property = call then builtinMember c node module_
    return (g, none)
  | .chainedCall object inner outer =>
    if outer ≠ call || object = "this" then return (g, none)
    else return (← chainedCall c u node object inner g, none)
  | .nestedMember object inner outer =>
    if outer ≠ call then return (g, none)
    else nestedMember c u node object inner g
  | .partialMemberCall .. | .subscript | .other => return (g, none)

end PackageVet.Building
