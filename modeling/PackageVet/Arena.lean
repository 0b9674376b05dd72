import PackageVet.Category
import PackageVet.Edges
import PackageVet.Text.Decimal

/-! The nodes of all units of a package.

The nodes live in one arena, so that what the analysis finds out about a node while it looks at one
unit is known wherever the node is seen again. -/
namespace PackageVet

/-- Stands for a line or column that is not known; it sorts after all others. -/
def unknownPosition : Nat := Text.wordMax

/-- What a call turned out to be. -/
inductive CallKind where
  | functionCall
  | localModuleCall
  | assignment
  | call
  deriving DecidableEq, Repr

/-- Whether a sensitive function comes with the platform or from another package. -/
inductive Derivation where
  | builtin
  | thirdParty
  deriving DecidableEq, Repr

def Derivation.name : Derivation → String
  | .builtin => "builtin"
  | .thirdParty => "third_party"

def Derivation.ofName? (name : String) : Option Derivation :=
  if name = "builtin" then some .builtin else if name = "third_party" then some .thirdParty
  else none

/-- The unit whose graph was put in at a call: where it starts and what it returns. -/
structure CalleeLink where
  entrance : NodeId
  returns : List NodeId
  deriving DecidableEq, Repr

structure ProgramNode where
  id : NodeId
  /-- The unit that the node belongs to. -/
  unit : NodeId
  kind : String
  line : Nat := unknownPosition
  column : Nat := unknownPosition
  name? : Option String := none
  code? : Option String := none
  file : String := ""
  entrance : Bool := false
  returnValue : Bool := false
  callKind : Option CallKind := none
  fullName : Option String := none
  derivation : Option Derivation := none
  /-- The categories of a sensitive node; none for a node that is not sensitive. -/
  sensitivity : Option (List Category) := none
  callee : Option CalleeLink := none
  deriving DecidableEq, Repr

namespace ProgramNode

def name (n : ProgramNode) : String := n.name?.getD ""

def code (n : ProgramNode) : String := n.code?.getD ""

def isSensitive (n : ProgramNode) : Bool := n.sensitivity.isSome

def categories (n : ProgramNode) : List Category := n.sensitivity.getD []

def markSensitive (n : ProgramNode) (categories : List Category) : ProgramNode :=
  { n with sensitivity := some categories }

/-- The category of a node that has one. -/
def category? (n : ProgramNode) : Option Category := n.categories.head?

/-- Whether the node is a call into a unit that was put in at it. -/
def hasResolvedCallee (n : ProgramNode) : Bool :=
  (n.callKind = some .functionCall || n.callKind = some .localModuleCall) && n.callee.isSome

end ProgramNode

abbrev Arena := Table NodeId ProgramNode

namespace Arena

def insertNode (a : Arena) (node : ProgramNode) : Arena := a.insert node.id node

/-- The kind of a node, and nothing for an id that is not in the arena. -/
def kind (a : Arena) (id : NodeId) : String := ((a.get? id).map ProgramNode.kind).getD ""

/-- The line of a node, unknown for an id that is not in the arena. -/
def line (a : Arena) (id : NodeId) : Nat := ((a.get? id).map ProgramNode.line).getD unknownPosition

end Arena

end PackageVet
