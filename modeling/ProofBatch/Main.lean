/-
The command line. A session runs on a snapshot of the file system: the
directory that it is started in, the programs that it may search for, and what
the absolute paths among its arguments name. Afterwards what its scripts have
written is written back.
-/
import ProofBatch.Machine
import ProofBatch.Session
import ProofBatch.Settings.Yaml

namespace ProofBatch.Snapshot

/-- An entry of the file system. -/
def entry (path : String) : IO.FS.DirEntry :=
  { root := path, fileName := "." }

/-- The node at a path, and all below it. What cannot be read is left out. -/
partial def node? (path : String) : IO (Option Node) := do
  try
    if ← (entry path).path.isDir then
      let mut entries := []
      for child in ← (entry path).path.readDir do
        if let some node ← node? (path ++ "/" ++ child.fileName) then
          entries := (child.fileName, node) :: entries
      return some (.directory {} entries)
    else
      return some (.file {} (← IO.FS.readBinFile path).toList)
  catch _ => return none

/-- The names on the way to an absolute path. -/
def placeOf (path : String) : List String :=
  (Path.mk path).parts.filter (· ≠ "/")

/-- Add what is at some paths to a tree. -/
def take (paths : List String) : IO Node := do
  let mut root := Node.emptyDirectory
  for path in paths do
    if (root.descend? (placeOf path)).isNone then
      if let some node ← node? path then
        root := root.put node (placeOf path)
  return root

/-- Write the files below a path that are not as they were. -/
partial def putBack (path : String) (before : Option Node) : Node → IO Unit
  | .directory _ entries =>
    for (name, node) in entries do
      putBack (path ++ "/" ++ name) (before.bind (·.entries.lookup name)) node
  | .file _ bytes => do
    let same := match before with
      | some (.file _ old) => old == bytes
      | _ => false
    unless same do
      IO.FS.writeBinFile path ⟨bytes.toArray⟩
  | .link _ => return ()

/-- The paths that a session with some arguments may need, besides the
directory it is in. -/
def pathsFor (search : String) (arguments : List String) : List String :=
  let names :=
    ["make", "nice"] ++ arguments.filter fun argument => !argument.contains '/'
  let dirs := Shell.Program.directories (Shell.ofText search)
  let programs :=
    dirs.flatMap fun dir => names.map fun name => (dir.join name).text
  (programs ++ arguments).filter fun path => (Path.mk path).isAbsolute

/-- The number of processors, one if it is not known. -/
def processors : IO Nat := do
  try
    let lines := Text.lines (← IO.FS.readFile "/proc/cpuinfo").toList
    let named := lines.filter fun line => "processor".toList.isPrefixOf line
    return max 1 named.length
  catch _ => return 1

end ProofBatch.Snapshot

open ProofBatch

/-- Run a session in the current directory. -/
def main (arguments : List String) : IO UInt32 := do
  let here := (← IO.currentDir).toString
  let search := (← IO.getEnv "PATH").getD ""
  let root ← Snapshot.take (here :: Snapshot.pathsFor search arguments)
  let machine : Machine :=
    { files := { root, here := Snapshot.placeOf here }
      environment := [("PATH", Shell.ofText search)] }
  let host : Session.Host Machine :=
    { files := (·.files), start := Machine.launch
      cpus := ← Snapshot.processors, format := FileSettings.yaml
      schedule := fun _ => 0 }
  let result := Session.run host arguments machine
  Snapshot.putBack "" (some root) result.outside.files.root
  let out ← IO.getStdout
  let err ← IO.getStderr
  for (stream, bytes) in result.shown do
    let target := match stream with
      | .out => out
      | .err => err
    target.write ⟨bytes.toArray⟩
    target.flush
  return result.code.toUInt32
