import Mathlib.Data.List.Find
import RequestHub.Home
import RequestHub.Proofs.Files.Additions

/-!
# Homes in other surroundings

A home is read from the documents in two directories.  They are sorted by name before the first of them is
read, so that nothing depends on the order in which the directories list; and a file whose name is not that
of a document is left out before it is opened.  A home is therefore read as before in a tree that lists in
another order and has more of such files, and so is one that cannot be read.
-/

namespace RequestHub

open FileTree

variable {tree later : FileTree} {added : List (List String × Bytes)} {path directory : String}
  {json : Bool} {place : List String}

theorem Document.read_eq_of_entry
    {α : Type} (decoder : Decoder α) (same : later.entry path = tree.entry path) :
    Document.read decoder later path = Document.read decoder tree path := by
  have text : later.readText path = tree.readText path := by
    rw [readText, readText, FileTree.read, FileTree.read, same]
  rw [Document.read, Document.read, text]

namespace Home

/-- The directories of documents in a home, and whether JSON is taken there. -/
def parts : List (String × Bool) :=
  [("aggregates", true), ("schemas", false)]

/-- A place in one of these directories, under a name that no document has there. -/
def PassesOver (tree : FileTree) (path : String) (place : List String) : Prop :=
  ∃ directory json parent name,
    (directory, json) ∈ parts ∧
      tree.place (Path.join path directory) = .ok parent ∧
        isDocument json name = false ∧ place = parent ++ [name]

theorem plain_of_parts (part : (directory, json) ∈ parts) : Plain directory := by
  have all : ∀ part ∈ parts, Plain part.1 := by decide
  exact all _ part

theorem plain_of_hubFiles {name : String} (candidate : name ∈ hubFiles) : Plain name := by
  have all : ∀ name ∈ hubFiles, Plain name := by decide
  exact all _ candidate

/-! ## The document of the hub -/

/-- No file beside the documents is where the document of a hub is looked for. -/
theorem unreached_of_hubFiles
    {name : String}
    (candidate : name ∈ hubFiles)
    (passed : PassesOver tree path place) :
    tree.place (Path.join path name) ≠ .ok place := by
  intro leads
  obtain ⟨directory, json, parent, other, part, found, -, rfl⟩ := passed
  obtain ⟨home, inHome, rfl⟩ :=
    exists_directory_of_joined (plain_of_hubFiles candidate) (plain_of_parts part) leads found
  have lengths := congrArg List.length inHome
  simp at lengths

theorem find?_hubFiles_eq
    (adds : tree.Adds added later)
    (passed : ∀ place content, (place, content) ∈ added → PassesOver tree path place) :
    (hubFiles.map (Path.join path)).find? later.isFile =
      (hubFiles.map (Path.join path)).find? tree.isFile := by
  refine List.find?_congr fun candidate member => ?_
  obtain ⟨name, candidate, rfl⟩ := List.mem_map.mp member
  exact adds.isFile_eq fun place content new =>
    unreached_of_hubFiles candidate (passed place content new)

/-! ## The documents in a directory -/

/-- Names that are sorted come in the same order, however they came before. -/
theorem mergeSort_eq_of_perm {names others : List String} (perm : names.Perm others) :
    (names.mergeSort fun left right => left ≤ right) =
      others.mergeSort fun left right => left ≤ right := by
  have sorted (names : List String) :
      (names.mergeSort fun left right => left ≤ right).Pairwise (· ≤ ·) := by
    have ordered := @List.pairwise_mergeSort _ (fun left right : String => left ≤ right)
      (fun _ _ _ first second =>
        decide_eq_true (String.le_trans (of_decide_eq_true first) (of_decide_eq_true second)))
      (fun left right => by
        rw [Bool.or_eq_true, decide_eq_true_iff, decide_eq_true_iff]
        exact String.le_total left right) names
    exact ordered.imp of_decide_eq_true
  exact List.Perm.eq_of_pairwise (fun _ _ _ _ => String.le_antisymm) (sorted names) (sorted others)
    ((List.mergeSort_perm _ _).trans (perm.trans (List.mergeSort_perm _ _).symm))

/-- A file that is passed over has no document's name in the directory that lists it. -/
theorem not_isDocument_of_listed
    {parent : List String} {name : String}
    (part : (directory, json) ∈ parts)
    (leads : tree.place (Path.join path directory) = .ok parent)
    (passed : PassesOver tree path (parent ++ [name])) : isDocument json name = false := by
  obtain ⟨directory', json', parent', name', part', found, other, same⟩ := passed
  obtain ⟨rfl, sameName⟩ := List.append_inj' same rfl
  cases sameName
  obtain ⟨home, inHome, again⟩ :=
    exists_directory_of_joined (plain_of_parts part) (plain_of_parts part') leads found
  obtain ⟨-, sameDirectory⟩ := List.append_inj' (inHome.symm.trans again) rfl
  cases sameDirectory
  have once : ∀ part ∈ parts, ∀ other ∈ parts, part.1 = other.1 → part.2 = other.2 := by decide
  have same : json = json' := once _ part _ part' rfl
  rw [same]
  exact other

theorem isFile_of_documentPaths
    {document : String} (member : document ∈ documentPaths json tree directory) :
    tree.isFile document = true := by
  rw [documentPaths] at member
  obtain ⟨name, listed, rfl⟩ := List.mem_map.mp member
  have kept := (List.mem_filter.mp (List.mem_mergeSort.mp listed)).2
  exact (Bool.and_eq_true_iff.mp kept).2

/-- What a directory of documents listed before is a file as it was. -/
theorem isFile_eq_of_listed
    {name : String}
    (adds : tree.Adds added later)
    (part : (directory, json) ∈ parts)
    (isDirectory : tree.isDirectory (Path.join path directory) = true)
    (listed : name ∈ tree.names (Path.join path directory)) :
    later.isFile (Path.join (Path.join path directory) name) =
      tree.isFile (Path.join (Path.join path directory) name) := by
  obtain ⟨parent, leads, present⟩ := exists_place_of_isDirectory isDirectory
  have filled := join_ne_empty (plain_of_parts part) path
  obtain ⟨entry, found⟩ := adds.before.exists_entry_of_mem_names filled leads present listed
  rw [isFile, isFile, adds.entry_eq_of_ok found, found]

theorem documentPaths_eq
    (adds : tree.Adds added later)
    (passed : ∀ place content, (place, content) ∈ added → PassesOver tree path place)
    (part : (directory, json) ∈ parts)
    (isDirectory : tree.isDirectory (Path.join path directory) = true) :
    documentPaths json later (Path.join path directory) =
      documentPaths json tree (Path.join path directory) := by
  obtain ⟨parent, leads, -⟩ := exists_place_of_isDirectory isDirectory
  have listed := (adds.names_perm leads).filter fun name =>
    isDocument json name && later.isFile (Path.join (Path.join path directory) name)
  rw [List.filter_append] at listed
  -- Of what was listed before, the same names are kept; of what was added, none.
  have old : ∀ name ∈ tree.names (Path.join path directory),
      (isDocument json name && later.isFile (Path.join (Path.join path directory) name)) =
        (isDocument json name && tree.isFile (Path.join (Path.join path directory) name)) :=
    fun name member => by rw [isFile_eq_of_listed adds part isDirectory member]
  have new : ∀ name ∈ added.filterMap (fun file => nameIn? parent file.1),
      ¬ (isDocument json name && later.isFile (Path.join (Path.join path directory) name)) = true := by
    intro name member
    obtain ⟨⟨place, content⟩, member, named⟩ := List.mem_filterMap.mp member
    obtain rfl : place = parent ++ [name] := nameIn?_eq_some_iff.mp named
    rw [not_isDocument_of_listed part leads (passed _ _ member), Bool.false_and]
    exact Bool.false_ne_true
  rw [List.filter_congr old, List.filter_eq_nil_iff.mpr new, List.append_nil] at listed
  rw [documentPaths, documentPaths, mergeSort_eq_of_perm listed]

theorem readDirectory_eq
    {α : Type} (decoder : Decoder α)
    (adds : tree.Adds added later)
    (passed : ∀ place content, (place, content) ∈ added → PassesOver tree path place)
    (part : (directory, json) ∈ parts) :
    readDirectory decoder json later (Path.join path directory) =
      readDirectory decoder json tree (Path.join path directory) := by
  rw [readDirectory, readDirectory, adds.isDirectory_eq]
  split
  · rename_i isDirectory
    rw [documentPaths_eq adds passed part isDirectory]
    refine list_mapM_congr fun document member => ?_
    rw [Document.read_eq_of_entry decoder (adds.entry_eq_of_isFile (isFile_of_documentPaths member))]
  · rfl

/-- A home is read as before. -/
theorem read_eq
    (adds : tree.Adds added later)
    (passed : ∀ place content, (place, content) ∈ added → PassesOver tree path place) :
    Home.read later path = Home.read tree path := by
  rw [Home.read, Home.read, find?_hubFiles_eq adds passed]
  cases found : (hubFiles.map (Path.join path)).find? tree.isFile with
  | none => rfl
  | some hubPath =>
      have hub := adds.entry_eq_of_isFile (List.find?_some found)
      simp only [Document.read_eq_of_entry _ hub, readDirectory_eq _ adds passed (List.mem_cons_self),
        readDirectory_eq _ adds passed (List.mem_cons_of_mem _ List.mem_cons_self)]

end Home

end RequestHub
