import RequestHub.CommandLine

/-!
# The program

The program takes its arguments, its environment and the files that it needs from the operating system,
and leaves everything else to `CommandLine`.  Files are read in rounds, because the first ones tell
where the others are.
-/

namespace RequestHub.Program

/-- The names that lead to the end of a path from the root. -/
def names (path : String) : List String :=
  ((Text.cut '/' path.toList).map String.ofList).foldl
    (fun place name =>
      if name = "" || name = "." then place
      else if name = ".." then place.dropLast
      else place ++ [name])
    []

/-- The tree with what is at a path, and with what is directly below it if it is a directory. -/
def fetch (tree : FileTree) (path : String) : IO FileTree := do
  let place := (← IO.currentDir) / path
  if ← place.isDir then
    let mut tree := tree.withEntry (names place.toString) .directory
    for entry in ← place.readDir do
      let found ←
        if ← entry.path.isDir then pure FileEntry.directory
        else pure (FileEntry.file (← IO.FS.readBinFile entry.path).toList)
      tree := tree.withEntry (names place.toString ++ [entry.fileName]) found
    return tree
  else if ← place.pathExists then
    return tree.withEntry (names place.toString) (.file (← IO.FS.readBinFile place).toList)
  else return tree

/-- The tree with all that a run needs to know, found in so many rounds. -/
def explore (held : List Variable) (options : CommandLine.Options) : (rounds : Nat) → FileTree → IO FileTree
  | 0, tree => return tree
  | rounds + 1, tree => do
      let tree ← (CommandLine.paths tree held options).foldlM fetch tree
      explore held options rounds tree

/-- The variables of the environment. -/
def environment : IO (List Variable) := do
  let content ← IO.FS.readBinFile "/proc/self/environ"
  return (Text.cut 0 content.toList).filterMap fun bytes => do
    let (name, value) := Text.cutOnce '=' (← Bytes.decode? bytes).toList
    return ⟨String.ofList name, String.ofList (← value)⟩

/-- What is told of an application that is ready. -/
def report (application : Application) : String :=
  match application.server with
  | .ok server => server.summary
  | .error failure => failure.message

/-- Runs the program. -/
def run (arguments : List String) : IO UInt32 := do
  let held ← environment
  let here := FileTree.ofFiles (names (← IO.currentDir).toString) []
  let tree ←
    match CommandLine.read {} arguments with
    | .ok (.run options) => explore held options 3 here
    | _ => pure here
  match CommandLine.run arguments held tree with
  | .exit code output errors => do
      IO.print output
      IO.eprint errors
      return code.toUInt32
  | .serve application => do
      IO.println (report application)
      return 0

end RequestHub.Program

def main (arguments : List String) : IO UInt32 :=
  RequestHub.Program.run arguments
