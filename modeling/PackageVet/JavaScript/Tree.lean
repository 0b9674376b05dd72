/-! Trees of JavaScript code.

A tree is a form, a span and the parts in the order in which they are visited. That is the order
of the text, but for three forms: a loop that tests at its end visits the test before the body, a
class its body before what it extends, and an import specifier the local name before the imported
one. Names of properties are no parts. Forms that no question tells apart share one constructor. -/
namespace PackageVet.JavaScript

/-- The bytes from `start` up to, and without, `stop`. -/
structure Span where
  start : Nat
  stop : Nat
  deriving DecidableEq, Repr, Inhabited

def Span.contains (s : Span) (offset : Nat) : Bool := s.start ≤ offset && offset < s.stop

inductive Form where
  /-- An identifier, where it is declared or used. -/
  | name (text : String)
  | string (value : String)
  /-- Any other literal. -/
  | literal
  /-- A template, with the texts between its expressions as they are written. -/
  | template (texts : List String)
  | tagged
  | this
  | superKeyword
  | importKeyword
  | array
  | object
  /-- A property written as its name alone. -/
  | shorthand
  /-- A property written as its name and a default, as only a pattern has it. -/
  | shorthandDefault
  /-- A property with a value, which is the last part. -/
  | property
  | method
  | spread
  | function
  | arrow
  | classBody
  | unary
  | update
  | await
  | yield
  | binary (operator : String)
  | conditional
  | assign (operator : String)
  | sequence
  | member (property : String)
  | privateMember
  | superMember
  /-- A member by a computed key: the object, then the key. -/
  | index
  /-- A member of, or a call on, an optional chain. -/
  | optional
  /-- A call: what is called, then the arguments. -/
  | call
  /-- A construction by `new`: the constructor, then the arguments. -/
  | construct
  | metaProperty
  | paren
  /-- A list of statements. -/
  | statements
  | expressionStatement
  /-- Any other statement or part of one. -/
  | other
  deriving DecidableEq, Repr, Inhabited

inductive Tree where
  | node (form : Form) (span : Span) (parts : List Tree)
  deriving Repr, Inhabited

namespace Tree

def form : Tree → Form
  | .node form _ _ => form

def span : Tree → Span
  | .node _ span _ => span

def parts : Tree → List Tree
  | .node _ _ parts => parts

mutual

/-- The tree and all trees below it, each before its parts. -/
def preorder : Tree → List Tree
  | .node form span parts => .node form span parts :: preorderAll parts

/-- All trees of a list and below it, in order. -/
def preorderAll : List Tree → List Tree
  | [] => []
  | tree :: rest => tree.preorder ++ preorderAll rest

end

/-- The statements that stand in a list, each before those inside it. -/
def listedStatements (tree : Tree) : List Tree :=
  (tree.preorder.filter fun t => t.form = .statements).flatMap parts

def isArrow (tree : Tree) : Bool := tree.form = .arrow

end Tree

end PackageVet.JavaScript
