import PackageVet.Arena
import PackageVet.Service.Error
import PackageVet.Sorted
import PackageVet.Table
import PackageVet.Text.Cut

/-! What is known about modules: where one comes from, and which of its functions are sensitive.

`KnowledgeStore` is what the analysis asks; `KnowledgeTables` answers from tables. -/
namespace PackageVet

inductive ModuleClass where
  | builtin
  | thirdParty
  | unknown
  deriving DecidableEq, Repr, Inhabited

structure KnowledgeStore (σ : Type) where
  classify : (module_ : String) → Request σ ModuleClass
  /-- The categories of a function; none when it is not sensitive. The hint is a category of the
  object on which a method is called. -/
  sensitiveCall : (qualifier call : String) → Derivation → (hint : Option Category) →
    Request σ (List Category)
  /-- Makes an unknown module known, and says whether that was done. -/
  registerModule : (module_ : String) → (dependencies : List String) → Request σ Bool

/-! ### Names of modules -/

/-- Whether a name can be that of a package: at most 214 bytes, no blank, and no start that stands
for a path or for the folder of installed packages. -/
def isLegalModuleName (name : String) : Bool :=
  name.utf8ByteSize ≤ 214 && !Text.startsWith name "." && !Text.startsWith name "_" &&
    !Text.contains name " " && !Text.startsWith name "node_modules"

/-- The name without the scheme of the platform's own modules. -/
def stripScheme (name : String) : String := (Text.stripStart? name "node:").getD name

/-- The name under which a required module is found in the registry: the first dependency whose
last segment is the module's name, if there is one. -/
def registryName (module_ : String) (dependencies : List String) : String :=
  (dependencies.find? fun dependency =>
    match Text.splitLast? '/' dependency.toList with
    | some (_, last) => String.ofList last = module_
    | none => dependency = module_).getD module_

/-! ### Tables -/

structure KnowledgeTables where
  /-- In ascending order. -/
  builtins : List String := []
  /-- In ascending order. -/
  thirdParty : List String := []
  functions : Table (Derivation × String × String) (List Category) := {}
  deriving Repr, Inhabited

namespace KnowledgeTables

def addFunction (t : KnowledgeTables) (derivation : Derivation) (qualifier name : String)
    (categories : List Category) : KnowledgeTables :=
  { t with functions := t.functions.insert (derivation, qualifier, name) categories }

def addThirdParty (t : KnowledgeTables) (module_ : String) : KnowledgeTables :=
  { t with thirdParty := Sorted.insert module_ t.thirdParty }

/-- The platform's modules come before packages of the same name. -/
def classify (t : KnowledgeTables) (module_ : String) : ModuleClass :=
  if isLegalModuleName module_ then
    let name := stripScheme module_
    if t.builtins.contains name then .builtin
    else if t.thirdParty.contains name then .thirdParty
    else .unknown
  else .unknown

def sensitiveCall (t : KnowledgeTables) (qualifier call : String) (derivation : Derivation) :
    List Category :=
  (t.functions.get? (derivation, stripScheme qualifier, call)).getD []

/-- The store that knows what the tables say, registers nothing and needs no hint. -/
def store {σ : Type} (tables : σ → KnowledgeTables) : KnowledgeStore σ where
  classify module_ := do return (tables (← get)).classify module_
  sensitiveCall qualifier call derivation _ := do
    return (tables (← get)).sensitiveCall qualifier call derivation
  registerModule _ _ := pure false

end KnowledgeTables

end PackageVet
