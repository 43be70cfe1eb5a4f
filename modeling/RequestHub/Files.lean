import RequestHub.Text.Case
import RequestHub.Text.Split
import RequestHub.Text.Utf8

/-!
# Files

A home is a directory with documents.  A `FileTree` holds files and directories by the names that lead
to them from the root, in the order in which directories list them; a path is a text that is followed
name by name, from the root or from the current directory.
-/

namespace RequestHub

namespace Path

/-- A path behind a directory; one from the root stays as it is. -/
def join (directory path : String) : String :=
  if path.startsWith "/" then path
  else if directory.isEmpty || directory.endsWith "/" then directory ++ path
  else directory ++ "/" ++ path

/-- The last name of a path, if it ends with one. -/
def fileName? (path : String) : Option String := do
  let pieces := (Text.cut '/' path.toList).filter fun piece => !piece.isEmpty
  let last ← (pieces.reverse.dropWhile (· = ['.'])).head?
  if last = ['.', '.'] then none else return String.ofList last

/-- What follows the last point of the last name of a path, unless nothing is before the point. -/
def extension? (path : String) : Option String := do
  let name := (← fileName? path).toList
  match (Text.cut '.' name).reverse with
  | [] | [_] => none
  | last :: others =>
      if others.all List.isEmpty && others.length = 1 then none else return String.ofList last

/-- The extension of a path in small letters. -/
def smallExtension? (path : String) : Option String :=
  (extension? path).map Text.lower

end Path

/-- What a name in a directory stands for. -/
inductive FileEntry where
  | file (content : Bytes)
  | directory
deriving DecidableEq, Inhabited, Repr

/-- Why a file cannot be read. -/
inductive FileFault where
  | notFound
  | notDirectory
  | isDirectory
  | notText
deriving DecidableEq, Inhabited, Repr

/-- The wording of a fault. -/
def FileFault.message : FileFault → String
  | .notFound => "No such file or directory (os error 2)"
  | .notDirectory => "Not a directory (os error 20)"
  | .isDirectory => "Is a directory (os error 21)"
  | .notText => "stream did not contain valid UTF-8"

/-- Files and directories by the names that lead to them from the root. -/
structure FileTree where
  entries : List (List String × FileEntry)
  /-- The names that lead to the current directory. -/
  current : List String
deriving DecidableEq, Inhabited, Repr

namespace FileTree

/-- The tree with an entry, and with the directories on the way to it. -/
def withEntry (tree : FileTree) (names : List String) (entry : FileEntry) : FileTree :=
  let places := (List.range names.length).map fun length => names.take (length + 1)
  let missing := places.filter fun place => (tree.entries.lookup place).isNone
  { tree with
    entries := tree.entries ++ missing.map fun place =>
      (place, if place = names then entry else .directory) }

/-- The tree with some files in the current directory; a name that ends in a slash makes a directory. -/
def ofFiles (current : List String) (files : List (String × Bytes)) : FileTree :=
  files.foldl
    (fun tree (path, content) =>
      let names := ((Text.cut '/' path.toList).filter (!·.isEmpty)).map String.ofList
      tree.withEntry (current ++ names) (if path.endsWith "/" then .directory else .file content))
    (withEntry ⟨[], current⟩ current .directory)

/-- What some names lead to. -/
def entryAt? (tree : FileTree) : List String → Option FileEntry
  | [] => some .directory
  | names => tree.entries.lookup names

/-- Follows names from a directory. -/
def follow (tree : FileTree) (place : List String) : List String → Except FileFault (List String)
  | [] => .ok place
  | name :: names =>
      match tree.entryAt? place with
      | none => .error .notFound
      | some (.file _) => .error .notDirectory
      | some .directory =>
          if name = "" || name = "." then tree.follow place names
          else if name = ".." then tree.follow place.dropLast names
          else tree.follow (place ++ [name]) names

/-- The place to which a path leads. -/
def place (tree : FileTree) (path : String) : Except FileFault (List String) :=
  if path.isEmpty then .error .notFound
  else
    let names := (Text.cut '/' path.toList).map String.ofList
    tree.follow (if path.startsWith "/" then [] else tree.current) names

/-- What is at the end of a path. -/
def entry (tree : FileTree) (path : String) : Except FileFault FileEntry := do
  match tree.entryAt? (← tree.place path) with
  | some entry => return entry
  | none => .error .notFound

/-- The content of a file. -/
def read (tree : FileTree) (path : String) : Except FileFault Bytes := do
  match ← tree.entry path with
  | .file content => return content
  | .directory => .error .isDirectory

/-- The content of a file that holds text. -/
def readText (tree : FileTree) (path : String) : Except FileFault String := do
  match Bytes.decode? (← tree.read path) with
  | some text => return text
  | none => .error .notText

/-- Whether a path leads to something. -/
def exists? (tree : FileTree) (path : String) : Bool :=
  match tree.entry path with
  | .ok _ => true
  | .error _ => false

/-- Whether a path leads to a file. -/
def isFile (tree : FileTree) (path : String) : Bool :=
  match tree.entry path with
  | .ok (.file _) => true
  | _ => false

/-- Whether a path leads to a directory. -/
def isDirectory (tree : FileTree) (path : String) : Bool :=
  match tree.entry path with
  | .ok .directory => true
  | _ => false

/-- The name of an entry in a directory, if it is there. -/
def nameIn? (place names : List String) : Option String :=
  match Text.dropLead? place names with
  | some [name] => some name
  | _ => none

/-- The names in the directory at the end of a path, in the order in which it lists them. -/
def names (tree : FileTree) (path : String) : List String :=
  match tree.place path with
  | .ok place => tree.entries.filterMap fun (names, _) => nameIn? place names
  | .error _ => []

end FileTree

end RequestHub
