import PackageVet.Arena

/-! What a name stands for in a source file.

A file has a stack of frames, one for each function that is being looked at, above a root frame
that never goes away. A name is looked up in the innermost frame that knows it at the line, and
there the newest declaration counts. -/
namespace PackageVet

/-- How an identifier came to its value. -/
inductive IdentifierKind where
  | require
  | functionFromRequire
  | functionDeclare
  | localModuleReturnValue
  | functionReturnValue
  | returnObject
  | identifier
  deriving DecidableEq, Repr

/-- A function never carries data into an argument. -/
def IdentifierKind.isFunction : IdentifierKind → Bool
  | .functionDeclare | .functionFromRequire => true
  | _ => false

structure Identifier where
  name : String
  line : Nat
  kind : IdentifierKind := .identifier
  /-- The node that declared the identifier. -/
  node : Option NodeId := none
  file : String
  /-- The module it came from. -/
  module? : Option String := none
  isLocal : Bool := false
  isBuiltin : Bool := false
  isThirdParty : Bool := false
  fullName : Option String := none
  importedFunction : Option String := none
  /-- The name it stands for: its own, or that of the identifier it was copied from. -/
  source : String := name
  /-- Where the call comes from whose value it holds. -/
  origin : Option Derivation := none
  /-- The categories of the sensitive call whose value it holds. -/
  createdBy : List Category := []
  /-- The unit that declares it, for a function. -/
  declaration : Option NodeId := none
  deriving DecidableEq, Repr

namespace Identifier

/-- A function declared by a unit is known from the first line of its file. -/
def ofFunction (name file : String) (unit : NodeId) : Identifier :=
  { name, line := 1, kind := .functionDeclare, file, declaration := some unit }

/-- The identifier with what another one is resolved to. -/
def resolveFrom (i other : Identifier) : Identifier :=
  { i with
    source := other.name
    kind := other.kind
    isLocal := other.isLocal
    isBuiltin := other.isBuiltin
    isThirdParty := other.isThirdParty
    module? := other.module?
    fullName := other.fullName
    importedFunction := other.importedFunction
    origin := other.origin }

end Identifier

/-- An open frame; the newest declaration stands first. -/
structure Frame where
  name : String
  declared : List Identifier := []
  deriving DecidableEq, Repr

/-- The open frames above the root, the innermost one first, and the root frame. -/
structure Scope where
  inner : List Frame := []
  root : Frame := { name := "program" }
  deriving DecidableEq, Repr

namespace Scope

def empty : Scope := {}

instance : Inhabited Scope := ⟨{}⟩

/-- All open frames, the innermost one first. -/
def frames (s : Scope) : List Frame := s.inner ++ [s.root]

def declare (s : Scope) (i : Identifier) : Scope :=
  match s.inner with
  | [] => { s with root := { s.root with declared := i :: s.root.declared } }
  | frame :: rest => { s with inner := { frame with declared := i :: frame.declared } :: rest }

/-- The newest declaration of a name in a frame, among those not after a line. -/
def Frame.lookup? (f : Frame) (name : String) (line : Nat) : Option Identifier :=
  f.declared.find? fun i => i.name = name && i.line ≤ line

def lookup? (s : Scope) (name : String) (line : Nat) : Option Identifier :=
  s.frames.findSome? fun frame => Frame.lookup? frame name line

def push (s : Scope) (name : String) : Scope := { s with inner := { name } :: s.inner }

def pop (s : Scope) : Scope := { s with inner := s.inner.tail }

/-- Whether a frame of a name is open. -/
def isOpen (s : Scope) (name : String) : Bool := s.frames.any fun frame => frame.name = name

def depth (s : Scope) : Nat := s.frames.length

theorem isOpen_push (s : Scope) (name other : String) :
    (s.push name).isOpen other = (name = other || s.isOpen other) := by
  simp [isOpen, frames, push]

end Scope

end PackageVet
