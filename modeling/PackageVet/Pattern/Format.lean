import PackageVet.Pattern.Library
import PackageVet.Toml.Decode
import PackageVet.Toml.Reader

/-! Pattern libraries written in TOML.

Each `[[pattern]]` has a behaviour, a description, a key and perhaps more edges. An edge names a
head; a kind and a tail come together or, for a key of one category, not at all. -/
namespace PackageVet

inductive PatternError where
  /-- The text is no TOML, or lacks a field, or has one of a wrong type. -/
  | malformed
  | unknownCategory (pattern : String) (id : Nat)
  | invalidEdgeKind (pattern kind : String)
  | incompleteEdge (pattern : String)
  deriving DecidableEq, Repr

def PatternError.message : PatternError → String
  | .malformed => "Invalid TOML in pattern file"
  | .unknownCategory pattern id =>
    "Pattern '" ++ pattern ++ "' uses unknown category " ++ toString id
  | .invalidEdgeKind pattern kind =>
    "Pattern '" ++ pattern ++ "' has an edge with an invalid kind '" ++ kind ++ "'"
  | .incompleteEdge pattern =>
    "Pattern '" ++ pattern ++ "' has an edge without both a kind and a tail"

/-- An edge as it is written. -/
structure EdgeEntry where
  head : Nat
  kind : Option String := none
  tail : Option Nat := none
  deriving DecidableEq, Repr

/-- A pattern as it is written. -/
structure PatternEntry where
  behavior : String
  description : String
  key : EdgeEntry
  edges : List EdgeEntry := []
  deriving DecidableEq, Repr

namespace EdgeEntry

/-- Numbers of categories are numbers of one byte. An array holds all three fields. -/
def ofToml? (value : TomlValue) : Option EdgeEntry := do
  let isComplete : Bool := match value with
    | .array items => 3 ≤ items.length
    | _ => true
  match isComplete, ← value.fields? ["head", "kind", "tail"] with
  | true, [some head, kind, tail] =>
    return {
      head := ← head.nat? 255
      kind := ← TomlValue.optional TomlValue.text? kind
      tail := ← TomlValue.optional (TomlValue.nat? 255) tail }
  | _, _ => none

def category (pattern : String) (id : Nat) : Except PatternError Category :=
  match Category.ofId? id with
  | some c => .ok c
  | none => .error (.unknownCategory pattern id)

/-- The key that an edge makes; an unknown head is noticed before anything else. -/
def key (pattern : String) (e : EdgeEntry) : Except PatternError PatternKey := do
  let head ← category pattern e.head
  match e.kind, e.tail with
  | none, none => return .single head
  | some kind, some tail =>
    match EdgeKind.ofName? kind with
    | some kind => return .pair ⟨head, kind, ← category pattern tail⟩
    | none => throw (.invalidEdgeKind pattern kind)
  | _, _ => throw (.incompleteEdge pattern)

def triple (pattern : String) (e : EdgeEntry) : Except PatternError Triple := do
  match ← e.key pattern with
  | .pair triple => return triple
  | .single _ => throw (.incompleteEdge pattern)

end EdgeEntry

namespace PatternEntry

def ofToml? (value : TomlValue) : Option PatternEntry := do
  match ← value.fields? ["behavior", "description", "key", "edges"] with
  | [some behavior, some description, some key, edges] =>
    return {
      behavior := ← behavior.text?
      description := ← description.text?
      key := ← EdgeEntry.ofToml? key
      edges := ← TomlValue.withDefault (TomlValue.list? EdgeEntry.ofToml?) [] edges }
  | _ => none

def pattern (e : PatternEntry) : Except PatternError Pattern := do
  let key ← e.key.key e.description
  let others ← e.edges.mapM (EdgeEntry.triple e.description)
  return .ofKey e.behavior e.description key others

end PatternEntry

namespace PatternLibrary

def entries? (text : String) : Option (List PatternEntry) := do
  match ← (← TomlValue.parse? text).fields? ["pattern"] with
  | [patterns] => TomlValue.withDefault (TomlValue.list? PatternEntry.ofToml?) [] patterns
  | _ => none

/-- The patterns of a text. All of it has to be well formed before any pattern is looked at, and
the first pattern that is wrong is named. -/
def parse (text : String) : Except PatternError PatternLibrary :=
  match entries? text with
  | some entries => entries.mapM PatternEntry.pattern
  | none => .error .malformed

end PatternLibrary

end PackageVet
