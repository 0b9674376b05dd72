import PackageVet.Category
import PackageVet.Edges

/-! Patterns of malicious behaviour.

A pattern is a small graph over categories: some categories have to be there, and each of its
triples asks for a way from one to another. -/
namespace PackageVet

/-- A way from one category to another: of data, or of any kind. -/
structure Triple where
  head : Category
  kind : EdgeKind
  tail : Category
  deriving DecidableEq, Repr

/-- What a pattern starts from. -/
inductive PatternKey where
  | single (category : Category)
  | pair (triple : Triple)
  deriving DecidableEq, Repr

def PatternKey.head : PatternKey → Category
  | .single category => category
  | .pair triple => triple.head

structure Pattern where
  /-- The general behaviour. -/
  behavior : String
  description : String
  key : PatternKey
  /-- Each once, in the order in which they are first named. -/
  categories : List Category := []
  /-- Each once. -/
  triples : List Triple := []
  deriving DecidableEq, Repr

namespace Pattern

def addCategory (p : Pattern) (c : Category) : Pattern :=
  if c ∈ p.categories then p else { p with categories := p.categories ++ [c] }

def addTriple (p : Pattern) (t : Triple) : Pattern :=
  let p := (p.addCategory t.head).addCategory t.tail
  if t ∈ p.triples then p else { p with triples := p.triples ++ [t] }

/-- The pattern of a key and some more triples. -/
def ofKey (behavior description : String) (key : PatternKey) (others : List Triple) : Pattern :=
  let p : Pattern := { behavior, description, key }
  let p := match key with
    | .single c => p.addCategory c
    | .pair t => p.addTriple t
  others.foldl addTriple p

def head (p : Pattern) : Category := p.key.head

def isSingle (p : Pattern) : Bool := p.triples.isEmpty

/-! ### Subsumption -/

/-- Whether a triple can be part of a way of a kind: only data leads data on. -/
def follows (kind : EdgeKind) (t : Triple) : Bool := kind = .control || t.kind = .data

/-- The categories one triple further on. -/
def next (p : Pattern) (kind : EdgeKind) (c : Category) : List Category :=
  (p.triples.filter fun t => t.head = c && follows kind t).map Triple.tail

/-- Whether a category can be reached from those of a stack, without those already seen. A triple
puts one category on the stack once, so the steps are bounded by the triples. -/
def reachesFrom (p : Pattern) (tail : Category) (kind : EdgeKind) :
    Nat → List Category → List Category → Bool
  | 0, _, _ => false
  | _, _, [] => false
  | steps + 1, seen, c :: stack =>
    if c ∈ seen then p.reachesFrom tail kind steps seen stack
    else
      let next := p.next kind c
      next.contains tail || p.reachesFrom tail kind steps (c :: seen) (next ++ stack)

/-- Whether the triples make a way of a kind from one category to another. -/
def hasPath (p : Pattern) (t : Triple) : Bool :=
  p.reachesFrom t.tail t.kind (p.triples.length + 1) [] [t.head]

/-- Whether all that a pattern asks for is asked for by another. -/
def isSubsumedBy (p other : Pattern) : Bool :=
  p.categories.all other.categories.contains && p.triples.all other.hasPath

end Pattern

end PackageVet
