import PackageVet.Knowledge.Tables
import PackageVet.Service.Retry
import PackageVet.Service.Web

/-! A knowledge store that looks unknown modules up in the package registry.

A module is third-party from then on that the registry holds a package of its name. -/
namespace PackageVet

structure Registry where
  address : String := "https://registry.npmjs.org"
  policy : RetryPolicy := {}
  deriving DecidableEq, Repr

namespace Registry
variable {σ : Type}

def service : String := "npm registry"

/-- The address of a package; a slash in a name is no part of the path. -/
def url (r : Registry) (name : String) : String :=
  let escaped := name.toList.flatMap fun c => if c = '/' then "%2F".toList else [c]
  String.ofList (Text.trimEnd '/' r.address.toList ++ '/' :: escaped)

def request (r : Registry) (name : String) : WebRequest where
  method := "GET"
  url := r.url name
  headers := [("Accept", "application/vnd.npm.install-v1+json")]

/-- Whether an answer says that the package is there. -/
def verdict (url : String) (response : WebResponse) : Except ServiceError Bool :=
  if response.isSuccess then .ok true
  else if response.status = 404 then .ok false
  else .error (.transport service ("HTTP " ++ toString response.status ++ " for " ++ url))

def holds (r : Registry) (web : Web σ) (name : String) : Request σ Bool := do
  match verdict (r.url name) (← web.ask service (r.request name)) with
  | .ok found => return found
  | .error e => throw e

/-- The store over tables that are part of its state. -/
def store (r : Registry) (web : Web σ) (tables : σ → KnowledgeTables)
    (setTables : KnowledgeTables → σ → σ) : KnowledgeStore σ :=
  { KnowledgeTables.store tables with
    registerModule := fun module_ dependencies => do
      let name := registryName module_ dependencies
      let found ← withRetry service r.policy (r.holds web name)
      if found then modify fun s => setTables ((tables s).addThirdParty module_) s
      return found }

end Registry

end PackageVet
