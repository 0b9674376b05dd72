import PackageVet.Text.Cut

/-! Paths with `/` between their segments, as text.

`normalize` folds a path without looking at files: no empty segment and no `.` remains, and `..`
remains only at the front of a relative path (`fold`). -/
namespace PackageVet.Path

/-- The segments kept so far, nearest first, after one more. -/
def fold (absolute : Bool) (kept : List String) (segment : String) : List String :=
  if segment = "" ∨ segment = "." then kept
  else if segment = ".." then
    match kept with
    | last :: rest => if last ≠ ".." then rest else if absolute then kept else ".." :: kept
    | [] => if absolute then [] else [".."]
  else segment :: kept

/-- The pieces between the slashes. -/
def segments (path : String) : List String := (Text.splitOn '/' path.toList).map String.ofList

def isAbsolute (path : String) : Bool := path.toList.head? = some '/'

/-- The segments of the folded path. -/
def normalSegments (path : String) : List String :=
  ((segments path).foldl (fold (isAbsolute path)) []).reverse

def render (absolute : Bool) (kept : List String) : String :=
  if absolute then "/" ++ "/".intercalate kept
  else if "/".intercalate kept = "" then "."
  else "/".intercalate kept

def normalize (path : String) : String := render (isAbsolute path) (normalSegments path)

/-- What stands before the last slash; nothing for a bare file name. -/
def parent (path : String) : String :=
  match Text.splitLast? '/' path.toList with
  | some (directory, _) => String.ofList directory
  | none => ""

/-- A path named in a file, seen from that file's directory. -/
def resolve (file entity : String) : String :=
  let directory := parent file
  if directory = "" ∨ isAbsolute entity then normalize entity
  else normalize (directory ++ "/" ++ entity)

end PackageVet.Path
