import PackageVet.Build.Link
import PackageVet.Build.State
import PackageVet.JavaScript.Source

/-! Assignments: what the assigned name stands for afterwards.

The value may be a module, a function of a module, what a call returned, or another name. -/
namespace PackageVet.Building
variable {σ : Type}

/-- An identifier of a module that is not a file of the package, with the module's class. An unknown
module is taken for a package and registered. -/
def classifyInto (c : BuildContext σ) (module_ : String) (i : Identifier) :
    Building σ Identifier := do
  match ← classify c module_ with
  | .builtin => return { i with isBuiltin := true }
  | .thirdParty => return { i with isThirdParty := true }
  | .unknown =>
    let _ ← register c module_
    return { i with isThirdParty := true }

/-- An identifier of a module, with where the module comes from. -/
def originInto (c : BuildContext σ) (file module_ : String) (i : Identifier) :
    Building σ Identifier :=
  if c.sources.isLocalFile file module_ then pure { i with isLocal := true }
  else classifyInto c module_ i

/-- The value is a module. -/
def assignRequire (c : BuildContext σ) (node : ProgramNode) (right : CodeNode) (i : Identifier) :
    Building σ Identifier := do
  match JavaScript.firstCallString? (right.code?.getD "") with
  | some module_ =>
    let i ← originInto c node.file module_ i
    return { i with kind := .require, fullName := some module_, module? := some module_ }
  | none => return i

/-- The value is a part of an object or, directly, of a module. -/
def assignField (c : BuildContext σ) (u : CodeUnit) (node : ProgramNode) (right : CodeNode)
    (g : BehaviorGraph) (i : Identifier) : Building σ (BehaviorGraph × Identifier) := do
  match c.code.children right.id with
  | [] => return (g, i)
  | object :: rest =>
    let objectCode := object.code?.getD ""
    let property := (rest.head?.bind CodeNode.code?).getD ""
    match ← lookup? node.file objectCode (object.line?.getD node.line) with
    | some found =>
      let g := g.linkName u found.node node.id objectCode
      if found.kind = .require then
        let module_ := found.module?.getD ""
        let i :=
          { i with
            kind := .functionFromRequire
            fullName := some (module_ ++ "." ++ property)
            module? := some module_
            importedFunction := some property
            isLocal := found.isLocal
            isBuiltin := found.isBuiltin
            isThirdParty := found.isThirdParty }
        return (g, i)
      else return (g, i)
    | none =>
      if object.name? = some "require" then
        match JavaScript.firstCallString? objectCode with
        | some module_ =>
          let i :=
            if property = "default" then { i with kind := .require, fullName := some module_ }
            else
              { i with
                kind := .functionFromRequire
                fullName := some (module_ ++ "." ++ property)
                importedFunction := some property }
          let i ← originInto c node.file module_ i
          return (g, { i with module? := some module_ })
        | none => return (g, i)
      else return (g, i)

/-- Edges from what a call returned, or else one from where the walk came from. -/
def linkCallReturns (g : BehaviorGraph) (call : ProgramNode) (target : NodeId)
    (former : Option NodeId) (fallback : String) : BehaviorGraph :=
  match BehaviorGraph.returnsOf call with
  | [] => g.linkFrom former target [fallback]
  | returns => g.linkReturns returns target ["DDG"]

/-- The value is what a call returned. -/
def assignReturned (node : ProgramNode) (former : Option NodeId) (right : CodeNode)
    (g : BehaviorGraph) (i : Identifier) : Building σ (BehaviorGraph × Identifier) := do
  match ← node? right.id with
  | none => return (g.linkFrom former node.id ["DDG"], i)
  | some call =>
    match call.callKind with
    | some .localModuleCall =>
      return (linkCallReturns g call node.id former "DDG",
        { i with kind := .localModuleReturnValue })
    | some .functionCall =>
      let fallback := if call.callee.isSome then "DDG" else "CFG"
      return (linkCallReturns g call node.id former fallback,
        { i with kind := .functionReturnValue })
    | some .call =>
      return (g.linkFrom former node.id ["DDG"],
        { i with
          kind := .returnObject
          fullName := call.fullName
          origin := call.derivation
          createdBy := call.categories })
    | _ => return (g.linkFrom former node.id ["DDG"], i)

/-- Data of a sum comes in over an edge of data alone. -/
def assignSum (u : CodeUnit) (node : ProgramNode) (former : Option NodeId) (g : BehaviorGraph) :
    Building σ BehaviorGraph := do
  let tags := u.incomingTags former node.id
  match former with
  | some former =>
    if EdgeKind.ofTags tags = .data then
      match ← node? former with
      | some source => return g.linkResolved source node.id tags
      | none => return g.addEdge former node.id tags
    else return g
  | none => return g

/-- The value is written as a call. -/
def assignCall (c : BuildContext σ) (u : CodeUnit) (node : ProgramNode) (former : Option NodeId)
    (right : CodeNode) (g : BehaviorGraph) (i : Identifier) :
    Building σ (BehaviorGraph × Identifier) := do
  match right.name?.getD "" with
  | "require" =>
    let i ← assignRequire c node right i
    return (g.linkIncoming u former node.id, i)
  | "<operator>.addition" => return (← assignSum u node former g, i)
  | "<operator>.fieldAccess" | "<operator>.indexAccess" =>
    let (g, i) ← assignField c u node right g i
    return (g.linkIncoming u former node.id, i)
  | _ => assignReturned node former right g i

/-- An object of a class that has a name of its own. -/
def constructNamed (c : BuildContext σ) (u : CodeUnit) (node : ProgramNode) (className : String)
    (g : BehaviorGraph) (i : Identifier) : Building σ (BehaviorGraph × Identifier) := do
  match ← lookup? node.file className node.line with
  | some found =>
    let i := match found.kind with
      | .require =>
        if found.isBuiltin then
          { i with kind := .require, module? := found.module?, isBuiltin := true }
        else if found.isThirdParty then
          { i with kind := .require, module? := found.module?, isThirdParty := true }
        else i
      | .functionFromRequire =>
        if found.isBuiltin then
          { i with kind := .returnObject, fullName := found.fullName, origin := some .builtin }
        else i
      | _ => i
    let g := if found.kind = .functionDeclare then g else g.linkName u found.node node.id className
    return (g, i)
  | none =>
    if (← classify c className) = .builtin then
      return (g, { i with kind := .require, isBuiltin := true, module? := some className })
    else return (g, i)

/-- An object of a class of a module whose origin is known. -/
def constructOf (c : BuildContext σ) (node : ProgramNode) (module_ property : String)
    (derivation : Derivation) (i : Identifier) : Building σ Identifier := do
  let categories ← sensitiveCall c module_ property derivation none
  markSensitive node.id categories
  return { i with
    kind := .returnObject
    fullName := some (module_ ++ "." ++ property)
    origin := some derivation
    createdBy := if categories.isEmpty then i.createdBy else categories }

/-- An object of a class that is part of a module. -/
def constructMember (c : BuildContext σ) (u : CodeUnit) (node : ProgramNode)
    (object property : String) (g : BehaviorGraph) (i : Identifier) :
    Building σ (BehaviorGraph × Identifier) := do
  match ← lookup? node.file object node.line with
  | some found =>
    let g := g.linkName u found.node node.id object
    if found.kind = .require then
      let module_ := found.module?.getD ""
      match ← classify c module_ with
      | .builtin => return (g, ← constructOf c node module_ property .builtin i)
      | .thirdParty => return (g, ← constructOf c node module_ property .thirdParty i)
      | .unknown => return (g, i)
    else return (g, i)
  | none =>
    if (← classify c object) = .builtin then
      return (g, ← constructOf c node object property .builtin i)
    else return (g, i)

def assignConstructed (c : BuildContext σ) (u : CodeUnit) (node : ProgramNode) (right : CodeNode)
    (g : BehaviorGraph) (i : Identifier) : Building σ (BehaviorGraph × Identifier) :=
  match JavaScript.firstConstructed? (right.code?.getD "") with
  | some (.name className) => constructNamed c u node className g i
  | some (.member object property) => constructMember c u node object property g i
  | none => pure (g, i)

/-- The value is another name. -/
def assignName (u : CodeUnit) (node : ProgramNode) (right : CodeNode) (g : BehaviorGraph)
    (i : Identifier) : Building σ (BehaviorGraph × Identifier) := do
  let name := right.code?.getD ""
  match ← lookup? node.file name node.line with
  | some found => return (g.linkName u found.node node.id name, i.resolveFrom found)
  | none => return (g, i)

/-- What an assigned name stands for, by the kind of its value. -/
def assignValue (c : BuildContext σ) (u : CodeUnit) (node : ProgramNode) (former : Option NodeId)
    (right : CodeNode) (g : BehaviorGraph) (i : Identifier) :
    Building σ (BehaviorGraph × Identifier) :=
  match right.kind with
  | "CALL" => assignCall c u node former right g i
  | "IDENTIFIER" => assignName u node right (g.linkIncoming u former node.id) i
  | "BLOCK" => assignConstructed c u node right (g.linkIncoming u former node.id) i
  | _ => pure (g.linkIncoming u former node.id, i)

/-- Declares the assigned name, unless a function is assigned. -/
def assignment (c : BuildContext σ) (u : CodeUnit) (node : ProgramNode) (former : Option NodeId)
    (g : BehaviorGraph) : Building σ BehaviorGraph := do
  match c.code.children node.id with
  | left :: right :: _ =>
    setCallKind node.id .assignment
    if right.kind = "METHOD_REF" then return g.linkIncoming u former node.id
    let i : Identifier :=
      { name := left.code?.getD "", line := node.line, node := some node.id, file := node.file }
    let (g, i) ← assignValue c u node former right g i
    change fun s => s.declare i
    return g
  | _ => return g.linkIncoming u former node.id

end PackageVet.Building
