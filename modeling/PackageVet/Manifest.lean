import PackageVet.Json.Decode
import PackageVet.Json.Reader
import PackageVet.Path

/-! The manifest of a package: its entry file, its install-time scripts and its dependencies. -/
namespace PackageVet

structure Manifest where
  main : String := "index.js"
  /-- Install-time scripts by name, in the order in which they run. -/
  scripts : List (String × String) := []
  /-- In ascending order. -/
  dependencies : List String := []
  deriving DecidableEq, Repr, Inhabited

namespace Manifest

/-- The scripts that an installation runs, in their order. -/
def installScripts : List String := ["preinstall", "install", "postinstall"]

/-- The values of an object inside the manifest, which are all kept. -/
def kept? (value : JsonValue) : Option (List (String × JsonValue)) :=
  if value.isUsable (JsonValue.maxDepth - 1) then value.map? some else none

/-- In an object any field may be missing; the array form starts with the entry file. -/
def ofJson? (value : JsonValue) : Option Manifest := do
  let hasMain := match value with
    | .array items => !items.isEmpty
    | _ => true
  match hasMain, ← value.fields? ["main", "scripts", "dependencies"] with
  | true, [main, scripts, dependencies] =>
    let main ← JsonValue.nullable JsonValue.text? main
    let scripts ← JsonValue.withDefault kept? [] scripts
    let dependencies ← JsonValue.withDefault kept? [] dependencies
    return {
      main := main.getD "index.js"
      scripts := installScripts.filterMap fun name =>
        (Sorted.find? name scripts).bind fun command => command.text?.map fun text => (name, text)
      dependencies := dependencies.map Prod.fst }
  | _, _ => none

def parse? (text : String) : Option Manifest := (JsonValue.parse? text).bind ofJson?

/-- The entry file as a path of the package; a name without a dot gets the ending of a script. -/
def mainFile (m : Manifest) : String :=
  let file := Path.normalize ("package/" ++ m.main)
  let name := ((Path.segments file).getLast?).getD ""
  if Text.contains name "." then file else file ++ ".js"

end Manifest

end PackageVet
