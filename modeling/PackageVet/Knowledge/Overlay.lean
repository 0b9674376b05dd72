import PackageVet.Json.Decode
import PackageVet.Json.Reader
import PackageVet.Knowledge.Tables

/-! Additions to the knowledge tables, written in JSON. -/
namespace PackageVet

structure KnownFunction where
  qualifier : String
  name : String
  derivation : Derivation
  /-- Numbers with hyphens between them. -/
  categories : String
  deriving DecidableEq, Repr

structure KnowledgeOverlay where
  builtins : List String := []
  thirdParty : List String := []
  functions : List KnownFunction := []
  deriving DecidableEq, Repr

def KnownFunction.ofJson? (value : JsonValue) : Option KnownFunction := do
  match ← value.fields? ["qualifier", "name", "derivation", "categories"] with
  | [some qualifier, some name, some derivation, some categories] =>
    return {
      qualifier := ← qualifier.text?
      name := ← name.text?
      derivation := ← derivation.choice? [("builtin", .builtin), ("third_party", .thirdParty)]
      categories := ← categories.text? }
  | _ => none

namespace KnowledgeOverlay

def ofJson? (value : JsonValue) : Option KnowledgeOverlay := do
  match ← value.fields? ["builtin_modules", "third_party_modules", "apis"] with
  | [builtins, thirdParty, functions] =>
    return {
      builtins := ← JsonValue.withDefault (JsonValue.list? JsonValue.text?) [] builtins
      thirdParty := ← JsonValue.withDefault (JsonValue.list? JsonValue.text?) [] thirdParty
      functions := ← JsonValue.withDefault (JsonValue.list? KnownFunction.ofJson?) [] functions }
  | _ => none

def parse? (text : String) : Option KnowledgeOverlay := (JsonValue.parse? text).bind ofJson?

end KnowledgeOverlay

/-- The tables with an overlay added; what it says of a function takes the place of what was
known. -/
def KnowledgeTables.apply (t : KnowledgeTables) (overlay : KnowledgeOverlay) : KnowledgeTables :=
  let t :=
    { t with
      builtins := overlay.builtins.foldl (fun known name => Sorted.insert name known) t.builtins
      thirdParty :=
        overlay.thirdParty.foldl (fun known name => Sorted.insert name known) t.thirdParty }
  overlay.functions.foldl (fun t f =>
    t.addFunction f.derivation f.qualifier f.name (Category.listOfText f.categories)) t

end PackageVet
