import PackageVet.CommandLine.Run

/-! The command line of the program.

The files below the working folder are read into a tree, the command runs over the tree, and what it
wrote is put back. No web and no container is reached from here: requests to them fail, as they do
on a machine without a network. -/
namespace PackageVet.Main

/-- A file, or the files of a folder, at a place of the tree. -/
partial def collect (place : List String) (entry : IO.FS.DirEntry) (t : FileTree) :
    IO FileTree := do
  let place := place ++ [entry.fileName]
  let path := entry.path
  if ← path.isDir then
    let t : FileTree := { entries := t.entries.insert place .folder }
    (← path.readDir).foldlM (fun t entry => collect place entry t) t
  else
    let bytes ← IO.FS.readBinFile path
    return { entries := t.entries.insert place (.file (String.fromUTF8? bytes)) }

/-- Writes the files and folders that a tree holds and another one does not. -/
def writeBack (before after : FileTree) : IO Unit :=
  after.entries.entries.forM fun (place, entry) => do
    if before.entries.get? place ≠ some entry then
      let path := "/".intercalate place
      match entry with
      | .folder => IO.FS.createDirAll path
      | .file text => IO.FS.writeFile path (text.getD "")

end PackageVet.Main

open PackageVet in
def main (args : List String) : IO UInt32 := do
  let folder ← IO.currentDir
  let files ← (← folder.readDir).foldlM (fun t entry => Main.collect [] entry t) {}
  let outside : CommandLine.Outside Unit := {}
  let (result, after, _) := CommandLine.run outside args files ()
  Main.writeBack files after
  result.messages.forM fun line => IO.eprintln line
  IO.print result.output
  return result.exitCode.toUInt32
