import PackageVet.FileTree
import PackageVet.Sorted
import PackageVet.Text.Word

/-! The files of a package.

A file is named by its path from the folder of the package, with `/` between the segments, as the
graph exports name it. -/
namespace PackageVet

structure PackageSources where
  /-- In ascending order. -/
  files : List String := []
  dependencies : List String := []
  deriving DecidableEq, Repr, Inhabited

namespace PackageSources

def ofFiles (files dependencies : List String) : PackageSources :=
  { files := Sorted.ofList files, dependencies }

def contains (s : PackageSources) (file : String) : Bool := s.files.contains file

def isEmpty (s : PackageSources) : Bool := s.files.isEmpty

def scripts (s : PackageSources) : List String :=
  s.files.filter fun file => Text.endsWith file ".js"

/-! ### Collecting -/

/-- The folder of installed packages. -/
def installedFolder : String := "node_modules"

/-- The files at a path and below it; what is in a folder of installed packages is no part of the
package. -/
def collect (t : FileTree) (root : String) (dependencies : List String) :
    Except FileError PackageSources := do
  let files ← t.filesBelow root
  let files := if (FileTree.names root).getLast? = some installedFolder then [] else
    files.filter fun place => !place.contains installedFolder
  return ofFiles (files.map ("/".intercalate ·)) dependencies

/-! ### Required files -/

/-- Whether a name ends in a word, a dot and a word, as the name of a file does. -/
def isFileLike (name : String) : Bool :=
  match Text.splitLast? '.' name.toList with
  | some (before, ending) =>
    !ending.isEmpty && ending.all Text.isWord && before.getLast?.any Text.isWord
  | none => false

/-- The script that a name required in a file stands for. -/
def requiredScript (file name : String) : String :=
  Path.resolve file ((Text.stripEnd? name ".js").getD name) ++ ".js"

/-- Whether a name required in a file stands for a file of the package. -/
def isLocalFile (s : PackageSources) (file name : String) : Bool :=
  Text.startsWith name "." || Text.startsWith name "/" || Text.endsWith name ".js" ||
    isFileLike name || s.contains (Path.resolve file name ++ ".js")

end PackageSources

end PackageVet
