import IconCatalog.Reach
set_option autoImplicit false

namespace IconCatalog.Disk

def read (path : String) : IO (Option Node) := do
  try
    let file := (← IO.appPath) / path
    match (← file.metadata).type with
    | .dir => return some .directory
    | .file => return some (.file (.plain (← IO.FS.readBinFile file).toList))
    | _ => return none
  catch _ => return none

def observe (tree : FileTree) (loc : Location) : IO FileTree := do
  match loc, (Location.path loc).text? with
  | name :: dir, some path =>
    match ← read path with
    | some node => return tree.put name dir node
    | none => return tree
  | _, _ => return tree

def observePaths (session : Session) (paths : List Path) : IO Session := do
  let places := paths.flatMap (Reach.ofPath session.files)
  let tree ← places.foldlM observe session.files.tree
  return { session with files := { session.files with tree := tree } }

def environment : IO Environment := do
  let file := (← IO.appPath) / "/proc/self/environ"
  let entries := (← IO.FS.readBinFile file).toList.splitOn 0
  return ⟨entries.filterMap fun entry =>
    (Utf8.toString? (entry.takeWhile (· != 0x3D))).map fun name =>
      (name, (entry.dropWhile (· != 0x3D)).drop 1)⟩

/-- The working directory. Where one has been taken away, nothing tells what it was in. -/
def workingDirectory : IO Place := do
  try
    return .inTree (Path.ofString (← IO.currentDir).toString).names.reverse
  catch _ => return .lost 0 []

def observeSession (arguments : List Bytes) : IO Session := do
  let cwd ← workingDirectory
  let tree ← (Reach.ofWorkingDirectory cwd).foldlM observe FileTree.empty
  let session := ⟨⟨tree, cwd⟩, ← environment, none⟩
  let session ← observePaths session (Reach.settingsPaths session)
  match Command.ofArguments arguments with
  | .error _ => return session
  | .ok command => observePaths session (Reach.targetPaths session command)

def writeChanges (before after : FileTree) : IO Unit := do
  let changed := after.toList.filter fun (loc, node) => before.node? loc != some node
  for (loc, node) in changed.mergeSort fun a b => decide (a.1.length ≤ b.1.length) do
    if let some path := (Location.path loc).text? then
      let file := (← IO.appPath) / path
      match node with
      | .directory => IO.FS.createDir file
      | .file content => IO.FS.writeBinFile file ⟨content.bytes.toArray⟩

end IconCatalog.Disk

open IconCatalog in
/-- What a run can reach is read first, then the run is computed, and at last what it changed is
written back. -/
def main (arguments : List String) : IO UInt32 := do
  let arguments := arguments.map Utf8.ofString
  let session ← Disk.observeSession arguments
  let (exit, files) := Program.execute arguments session
  Disk.writeChanges session.files.tree files.tree
  (← IO.getStdout).write ⟨exit.output.toArray⟩
  IO.eprint exit.errors
  return exit.status
