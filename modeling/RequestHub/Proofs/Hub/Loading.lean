import RequestHub.Compile
import RequestHub.Proofs.Home.Reading

/-!
# Loading a hub in other surroundings

A hub is loaded from the documents of a home and from the files that its lists of schemas name.  The order in
which directories list their entries makes no difference to what is loaded or to why nothing is.  Neither do
files that are no documents and that no list names, with one reservation.  The path of a list may go on behind
such a file, as if the file were a directory.  There is nothing at the end of such a path, with the file or
without it, and loading fails either way; but what the file system has to say of it is another thing.
-/

namespace RequestHub

open FileTree

variable {tree later : FileTree} {added : List (List String × Bytes)} {path directory : String}

/-- The paths of the files that the lists of a home name. -/
def Home.schemaPaths (home : Home) : List String :=
  home.schemas.flatMap fun list =>
    list.2.spec.schemas.map fun schema =>
      Path.join (Path.join home.path "schemas") schema.file

theorem Home.mem_schemaPaths_iff {home : Home} {file : String} :
    file ∈ home.schemaPaths ↔
      ∃ list ∈ home.schemas.map (·.2.spec), ∃ schema ∈ list.schemas,
        file = Path.join (Path.join home.path "schemas") schema.file := by
  simp only [schemaPaths, List.mem_flatMap, List.mem_map]
  constructor
  · rintro ⟨list, member, schema, named, rfl⟩
    exact ⟨list.2.spec, ⟨list, member, rfl⟩, schema, named, rfl⟩
  · rintro ⟨spec, ⟨list, member, rfl⟩, schema, named, rfl⟩
    exact ⟨list, member, schema, named, rfl⟩

/-! ## Outcomes before and after -/

/--
Two outcomes are the same, or both are failures to read a file at a path of some kind: a directory on the
way to it is missing for the first, and is no directory for the second.
-/
inductive Alike {α : Type} (crossed : String → Prop) :
    Except ConfigFailure α → Except ConfigFailure α → Prop where
  | same (outcome : Except ConfigFailure α) : Alike crossed outcome outcome
  | blocked {file : String} (crosses : crossed file) :
      Alike crossed (.error (.unreadable file .notFound)) (.error (.unreadable file .notDirectory))

theorem Alike.mono
    {α : Type} {crossed others : String → Prop} {outcome after : Except ConfigFailure α}
    (weaker : ∀ file, crossed file → others file)
    (alike : Alike crossed outcome after) : Alike others outcome after := by
  cases alike with
  | same outcome => exact .same outcome
  | blocked crosses => exact .blocked (weaker _ crosses)

/-! ## Schemas -/

theorem Catalog.loadFrom_alike
    (adds : tree.Adds added later)
    (compatibility : Option String)
    (catalog : Catalog)
    (schemas : List Definition.Schema)
    (unreached : ∀ schema ∈ schemas, tree.Unreached added (Path.join directory schema.file)) :
    (loadFrom later directory compatibility catalog schemas).2 =
        (loadFrom tree directory compatibility catalog schemas).2 ∧
      Alike
        (fun file => tree.Crosses added file ∧
          ∃ schema ∈ schemas, file = Path.join directory schema.file)
        (loadFrom tree directory compatibility catalog schemas).1
        (loadFrom later directory compatibility catalog schemas).1 := by
  induction schemas generalizing catalog with
  | nil => exact ⟨rfl, .same _⟩
  | cons schema schemas ih =>
      obtain ⟨first, others⟩ := List.forall_mem_cons.mp unreached
      rw [loadFrom, loadFrom]
      rcases adds.read_eq_or_crosses first with same | ⟨missing, blocked, crosses⟩
      · rw [same]
        cases tree.read (Path.join directory schema.file) with
        | error fault => exact ⟨rfl, .same _⟩
        | ok content =>
            obtain ⟨left, alike⟩ := ih _ others
            refine ⟨left, alike.mono ?_⟩
            rintro file ⟨crosses, schema, member, same⟩
            exact ⟨crosses, schema, List.mem_cons_of_mem _ member, same⟩
      · rw [missing, blocked]
        exact ⟨rfl, .blocked ⟨crosses, schema, List.mem_cons_self, rfl⟩⟩

theorem Compile.schemas_alike
    (adds : tree.Adds added later)
    (catalog : Catalog)
    (lists : List Definition.Schemas)
    (unreached : ∀ list ∈ lists, ∀ schema ∈ list.schemas,
      tree.Unreached added (Path.join directory schema.file)) :
    Alike
      (fun file => tree.Crosses added file ∧
        ∃ list ∈ lists, ∃ schema ∈ list.schemas, file = Path.join directory schema.file)
      (schemas tree directory catalog lists)
      (schemas later directory catalog lists) := by
  induction lists generalizing catalog with
  | nil => exact .same _
  | cons list lists ih =>
      obtain ⟨first, others⟩ := List.forall_mem_cons.mp unreached
      obtain ⟨left, alike⟩ :=
        Catalog.loadFrom_alike adds list.compatibility catalog list.schemas first
      rw [schemas, schemas, Catalog.load, Catalog.load]
      generalize Catalog.loadFrom tree directory list.compatibility catalog list.schemas = before,
        Catalog.loadFrom later directory list.compatibility catalog list.schemas = after at left alike ⊢
      obtain ⟨outcome, kept⟩ := before
      obtain ⟨again, kept'⟩ := after
      cases left
      cases alike with
      | same outcome =>
          cases outcome with
          | error failure => exact .same _
          | ok loaded =>
              refine (ih kept others).mono ?_
              rintro file ⟨crosses, list, member, named⟩
              exact ⟨crosses, list, List.mem_cons_of_mem _ member, named⟩
      | blocked crosses =>
          obtain ⟨crosses, named⟩ := crosses
          exact .blocked ⟨crosses, list, List.mem_cons_self, named⟩

namespace Home

/-- The catalog of the schemas that the lists of a home name. -/
def catalogFrom (home : Home) (tree : FileTree) : Except ConfigFailure Catalog :=
  Compile.schemas tree (Path.join home.path "schemas") .empty (home.schemas.map (·.2.spec))

/-- The catalog of the home at a path; whatever cannot be read is why there is none. -/
def catalog (tree : FileTree) (path : String) : Except ConfigFailure Catalog := do
  (← Home.read tree path).catalogFrom tree

theorem catalog_of_read {home : Home} (read : Home.read tree path = .ok home) :
    catalog tree path = home.catalogFrom tree := by
  rw [catalog, read]
  rfl

theorem catalogFrom_alike
    (home : Home)
    (adds : tree.Adds added later)
    (unreached : ∀ file ∈ home.schemaPaths, tree.Unreached added file) :
    Alike (fun file => file ∈ home.schemaPaths ∧ tree.Crosses added file)
      (home.catalogFrom tree) (home.catalogFrom later) := by
  refine (Compile.schemas_alike adds .empty _ ?_).mono ?_
  · intro list member schema listed
    exact unreached _ (mem_schemaPaths_iff.mpr ⟨list, member, schema, listed, rfl⟩)
  · rintro file ⟨crosses, named⟩
    exact ⟨mem_schemaPaths_iff.mpr named, crosses⟩

end Home

/-! ## Hubs -/

namespace Hub

/-- What fails while files are read ends the loading, before anything is assembled. -/
theorem load_eq_of_unread
    {registries : Registries} {assembly : Assembly} {failure : ConfigFailure}
    (unread : Home.catalog tree path = .error failure) :
    load tree registries path assembly = (.error failure, assembly) := by
  cases read : Home.read tree path with
  | error other =>
      rw [Home.catalog, read] at unread
      cases unread
      rw [load, read]
  | ok home =>
      rw [Home.catalog_of_read read] at unread
      rw [load, read]
      dsimp only
      rw [configure, Compile.home, ← Home.catalogFrom, unread]

/--
A hub is loaded as before from a home in a tree that lists in another order and has more files that are no
documents and that no list names.  Only where the path of a list crosses one of these files can there be a
difference: loading fails at that path before and after, with nothing assembled, and what was not found
before is not a directory after.
-/
theorem load_of_adds
    (registries : Registries)
    (assembly : Assembly)
    (adds : tree.Adds added later)
    (passed : ∀ place content, (place, content) ∈ added → Home.PassesOver tree path place)
    (unnamed : ∀ home, Home.read tree path = .ok home →
      ∀ file ∈ home.schemaPaths, tree.Unreached added file) :
    load later registries path assembly = load tree registries path assembly ∨
      ∃ home file,
        Home.read tree path = .ok home ∧
          file ∈ home.schemaPaths ∧
            tree.Crosses added file ∧
              load tree registries path assembly =
                  (.error (.unreadable file .notFound), assembly) ∧
                load later registries path assembly =
                  (.error (.unreadable file .notDirectory), assembly) := by
  have reread := Home.read_eq adds passed
  cases read : Home.read tree path with
  | error failure =>
      left
      rw [load, load, reread, read]
  | ok home =>
      have alike := home.catalogFrom_alike adds (unnamed home read)
      have catalog := Home.catalog_of_read read
      have catalogLater := Home.catalog_of_read (reread.trans read)
      generalize before : home.catalogFrom tree = outcome,
        behind : home.catalogFrom later = again at alike
      cases alike with
      | same outcome =>
          left
          rw [load, load, reread, read]
          dsimp only
          rw [configure, configure, Compile.home, Compile.home, ← Home.catalogFrom, ← Home.catalogFrom,
            before, behind]
      | @blocked file crosses =>
          right
          obtain ⟨named, crosses⟩ := crosses
          exact ⟨home, file, rfl, named, crosses, load_eq_of_unread (catalog.trans before),
            load_eq_of_unread (catalogLater.trans behind)⟩

/-- A home whose list of schemas names a file behind a directory that is missing. -/
def pantry : FileTree :=
  .ofFiles [] [
    ("hub.yaml", Bytes.ofString "spec:\n  applicationName: pantry\n"),
    ("aggregates/", []),
    ("schemas/menu.yaml", Bytes.ofString
      "spec:\n  schemas:\n  - name: soup\n    version: one\n    filename: notes.txt/soup.json\n")]

/-- What the list of this home says. -/
def menu : Definition.Schemas where
  compatibility := none
  schemas := [⟨"soup", "one", "notes.txt/soup.json"⟩]

theorem exists_read_pantry :
    ∃ home, Home.read pantry "." = .ok home ∧ home.path = "." ∧ home.schemas.map (·.2.spec) = [menu] := by
  have known : ((Home.read pantry ".").map fun home => (home.path, home.schemas.map (·.2.spec))) =
      .ok (".", [menu]) := by
    decide +kernel
  cases read : Home.read pantry "." with
  | error failure =>
      rw [read] at known
      cases known
  | ok home =>
      rw [read] at known
      obtain ⟨path, lists⟩ := Prod.mk.inj (Except.ok.inj known)
      exact ⟨home, rfl, path, lists⟩

/-- A file that has the name of the missing directory. -/
def notes : List (List String × Bytes) :=
  [(["schemas", "notes.txt"], [])]

/-- The home with this file, and in another order. -/
def littered : FileTree :=
  { pantry with entries := (["schemas", "notes.txt"], .file []) :: pantry.entries.reverse }

theorem adds_notes : pantry.Adds notes littered where
  current := rfl
  entries := ((List.reverse_perm _).cons _).trans (List.perm_append_singleton _ _).symm
  wellFormed :=
    { distinct := by decide +kernel
      placed := by decide +kernel
      plain := by decide +kernel }

theorem passesOver_notes :
    ∀ place content, (place, content) ∈ notes → Home.PassesOver pantry "." place := by
  intro place content member
  cases List.mem_singleton.mp member
  exact ⟨"schemas", false, ["schemas"], "notes.txt", by decide, by decide +kernel, by decide +kernel, rfl⟩

theorem unnamed_notes :
    ∀ home, Home.read pantry "." = .ok home →
      ∀ file ∈ home.schemaPaths, pantry.Unreached notes file := by
  intro home read file member
  obtain ⟨again, reread, path, lists⟩ := exists_read_pantry
  cases read.symm.trans reread
  obtain ⟨list, listed, schema, named, rfl⟩ := Home.mem_schemaPaths_iff.mp member
  rw [lists] at listed
  cases List.mem_singleton.mp listed
  cases List.mem_singleton.mp named
  intro place content _
  have missing : pantry.place (Path.join (Path.join "." "schemas") "notes.txt/soup.json") =
      .error .notFound := by
    decide +kernel
  rw [path]
  dsimp only
  rw [missing]
  nofun

theorem load_of_adds_notes :
    pantry.Adds notes littered ∧
      (load littered .empty "." .start = load pantry .empty "." .start ∨
        ∃ home file,
          Home.read pantry "." = .ok home ∧
            file ∈ home.schemaPaths ∧
              pantry.Crosses notes file ∧
                load pantry .empty "." .start = (.error (.unreadable file .notFound), .start) ∧
                  load littered .empty "." .start =
                    (.error (.unreadable file .notDirectory), .start)) :=
  ⟨adds_notes, load_of_adds .empty .start adds_notes passesOver_notes unnamed_notes⟩

/-- A file that no list names can change what is said of a path that a list names. -/
theorem notes_tell :
    pantry.Adds notes littered ∧
      (∀ place content, (place, content) ∈ notes → Home.PassesOver pantry "." place) ∧
        (∀ home, Home.read pantry "." = .ok home →
          ∀ file ∈ home.schemaPaths, pantry.Unreached notes file) ∧
          load pantry .empty "." .start =
              (.error (.unreadable "./schemas/notes.txt/soup.json" .notFound), .start) ∧
            load littered .empty "." .start =
                (.error (.unreadable "./schemas/notes.txt/soup.json" .notDirectory), .start) ∧
              load littered .empty "." .start ≠ load pantry .empty "." .start := by
  obtain ⟨home, read, path, lists⟩ := exists_read_pantry
  have reread := (Home.read_eq adds_notes passesOver_notes).trans read
  have before : load pantry .empty "." .start =
      (.error (.unreadable "./schemas/notes.txt/soup.json" .notFound), .start) := by
    refine load_eq_of_unread ((Home.catalog_of_read read).trans ?_)
    rw [Home.catalogFrom, path, lists]
    decide +kernel
  have after : load littered .empty "." .start =
      (.error (.unreadable "./schemas/notes.txt/soup.json" .notDirectory), .start) := by
    refine load_eq_of_unread ((Home.catalog_of_read reread).trans ?_)
    rw [Home.catalogFrom, path, lists]
    decide +kernel
  refine ⟨adds_notes, passesOver_notes, unnamed_notes, before, after, ?_⟩
  rw [before, after]
  nofun

end Hub

end RequestHub
