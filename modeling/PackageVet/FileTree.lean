import PackageVet.Path
import PackageVet.Table

/-! A tree of files.

A place is the list of the names on the way from the top of the tree. Paths are read from there:
every name on the way has to be that of a folder, and a path that leaves the tree leads nowhere. -/
namespace PackageVet

inductive FileEntry where
  /-- The text of the file; none for bytes that are no text. -/
  | file (text : Option String)
  | folder
  deriving DecidableEq, Repr

inductive FileError where
  | missing
  | notFolder
  | isFolder
  | notText
  | exists_
  deriving DecidableEq, Repr

def FileError.message : FileError → String
  | .missing => "No such file or directory (os error 2)"
  | .notFolder => "Not a directory (os error 20)"
  | .isFolder => "Is a directory (os error 21)"
  | .notText => "stream did not contain valid UTF-8"
  | .exists_ => "File exists (os error 17)"

/-- What is known of each place but the top, which is a folder. -/
structure FileTree where
  entries : Table (List String) FileEntry := {}
  deriving Repr, Inhabited

namespace FileTree

def entryAt? (t : FileTree) (place : List String) : Option FileEntry :=
  if place.isEmpty then some .folder else t.entries.get? place

/-! ### Paths -/

/-- The names of a path, those that stay in place left out. -/
def names (path : String) : List String :=
  (Path.segments path).filter fun name => name ≠ "" && name ≠ "."

/-- A path below a folder. -/
def join (folder path : String) : String :=
  if Path.isAbsolute path || folder = "" then path
  else if Text.endsWith folder "/" then folder ++ path
  else folder ++ "/" ++ path

/-- One name further on. -/
def step (t : FileTree) (place : List String) (name : String) : Except FileError (List String) :=
  match t.entryAt? place with
  | some .folder =>
    if name ≠ ".." then .ok (place ++ [name])
    else if place.isEmpty then .error .missing
    else .ok place.dropLast
  | some (.file _) => .error .notFolder
  | none => .error .missing

/-- The place that a path leads to, whether anything is there or not. -/
def resolve (t : FileTree) (path : String) : Except FileError (List String) :=
  if path = "" || Path.isAbsolute path then .error .missing
  else (names path).foldlM t.step []

def entry? (t : FileTree) (path : String) : Option FileEntry :=
  match t.resolve path with
  | .ok place => t.entryAt? place
  | .error _ => none

def isFolder (t : FileTree) (path : String) : Bool := t.entry? path = some .folder

def isFile (t : FileTree) (path : String) : Bool :=
  match t.entry? path with
  | some (.file _) => true
  | _ => false

def contains (t : FileTree) (path : String) : Bool := (t.entry? path).isSome

/-! ### Reading -/

def readText (t : FileTree) (path : String) : Except FileError String := do
  match t.entryAt? (← t.resolve path) with
  | some (.file (some text)) => return text
  | some (.file none) => throw .notText
  | some .folder => throw .isFolder
  | none => throw .missing

/-- What follows a place in a longer one. -/
def below? : List String → List String → Option (List String)
  | [], rest => some rest
  | name :: place, other :: rest => if name = other then below? place rest else none
  | _ :: _, [] => none

/-- The names in a folder. -/
def children (t : FileTree) (path : String) : Except FileError (List String) := do
  let place ← t.resolve path
  match t.entryAt? place with
  | some .folder =>
    return t.entries.keys.filterMap fun key =>
      match below? place key with
      | some [name] => some name
      | _ => none
  | some (.file _) => throw .notFolder
  | none => throw .missing

/-- The files at a path and below it, each with the names that lead to it from there. -/
def filesBelow (t : FileTree) (path : String) : Except FileError (List (List String)) := do
  let place ← t.resolve path
  match t.entryAt? place with
  | some (.file _) => return [[]]
  | some .folder =>
    return t.entries.entries.filterMap fun (key, entry) =>
      match entry with
      | .file _ => below? place key
      | .folder => none
  | none => throw .missing

/-- A folder as a tree of its own. -/
def subtree (t : FileTree) (path : String) : Except FileError FileTree := do
  let place ← t.resolve path
  match t.entryAt? place with
  | some .folder =>
    return {
      entries := .ofList (t.entries.entries.filterMap fun (key, entry) =>
        match below? place key with
        | some (name :: rest) => some (name :: rest, entry)
        | _ => none) }
  | some (.file _) => throw .notFolder
  | none => throw .missing

/-! ### Writing -/

/-- Makes the folders of the names after a place. -/
def makeFolders (place : List String) : List String → FileTree → Except FileError FileTree
  | [], t => .ok t
  | name :: rest, t =>
    match t.entryAt? place with
    | some .folder =>
      let next := if name = ".." then place.dropLast else place ++ [name]
      match t.entryAt? next with
      | some .folder => makeFolders next rest t
      | some (.file _) => .error .exists_
      | none => makeFolders next rest { entries := t.entries.insert next .folder }
    | _ => .error .notFolder

/-- Makes a folder and those above it. -/
def createFolder (t : FileTree) (path : String) : Except FileError FileTree :=
  if Path.isAbsolute path then .error .missing else makeFolders [] (names path) t

def writeText (t : FileTree) (path text : String) : Except FileError FileTree := do
  let place ← t.resolve path
  match t.entryAt? place, t.entryAt? place.dropLast with
  | some .folder, _ => throw .isFolder
  | _, some .folder => return { entries := t.entries.insert place (.file (some text)) }
  | _, some (.file _) => throw .notFolder
  | _, none => throw .missing

/-- The tree of some paths with what is there; the folders above are made. A path with `/` at its
end is a folder. -/
def ofEntries (entries : List (String × Option String)) : FileTree :=
  entries.foldl (fun t (path, text) =>
    let place := names path
    match makeFolders [] (if Text.endsWith path "/" then place else place.dropLast) t with
    | .ok t =>
      if Text.endsWith path "/" then t else { entries := t.entries.insert place (.file text) }
    | .error _ => t) {}

end FileTree

end PackageVet
