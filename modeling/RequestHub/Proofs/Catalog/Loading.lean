import RequestHub.Proofs.Catalog.Keeping

/-!
# The documents that a list brings into a catalog

A list of schemas is followed entry by entry.  What is read of an entry goes into the catalog before the
file of the next one is opened, and the first file that cannot be read ends the loading.

So a loading that fails leaves a catalog behind into which the documents of all entries before the failing
one have been put.  `LeftBy` says for every key what the catalog then has, and when exactly that is what
it had before.
-/

namespace RequestHub.Catalog

variable {tree : FileTree} {directory : String} {compatibility : Option String}
  {catalog after : Catalog} {list : Definition.Schemas} {failure : ConfigFailure}

/-- A document is what a schema of a list says, with the content of its file. -/
def Draws
    (tree : FileTree)
    (directory : String)
    (compatibility : Option String)
    (schema : Definition.Schema)
    (document : SchemaDocument) : Prop :=
  ∃ content,
    tree.read (Path.join directory schema.file) = .ok content ∧
      document = ⟨schema.name, schema.version, compatibility, content⟩

/-- How a list is followed: to its end, or up to a file that cannot be read. -/
inductive Follows
    (tree : FileTree)
    (directory : String)
    (compatibility : Option String)
    (catalog : Catalog) :
    List Definition.Schema → Except ConfigFailure Unit × Catalog → Prop where
  | whole
      {schemas : List Definition.Schema}
      {documents : List SchemaDocument}
      (drawn : List.Forall₂ (Draws tree directory compatibility) schemas documents) :
      Follows tree directory compatibility catalog schemas (.ok (), catalog.insertAll documents)
  | interrupted
      {front back : List Definition.Schema}
      {refused : Definition.Schema}
      {documents : List SchemaDocument}
      {fault : FileFault}
      (drawn : List.Forall₂ (Draws tree directory compatibility) front documents)
      (unread : tree.read (Path.join directory refused.file) = .error fault) :
      Follows tree directory compatibility catalog (front ++ refused :: back)
        (.error (.unreadable (Path.join directory refused.file) fault), catalog.insertAll documents)

/-- One more entry that can be read is followed ahead of the others. -/
theorem Follows.read
    {schema : Definition.Schema} {schemas : List Definition.Schema} {document : SchemaDocument}
    {outcome : Except ConfigFailure Unit × Catalog}
    (drawn : Draws tree directory compatibility schema document)
    (follows : Follows tree directory compatibility (catalog.insert document).2 schemas outcome) :
    Follows tree directory compatibility catalog (schema :: schemas) outcome := by
  cases follows with
  | whole others => exact Follows.whole (List.Forall₂.cons drawn others)
  | interrupted others unread => exact Follows.interrupted (List.Forall₂.cons drawn others) unread

theorem follows_loadFrom
    (tree : FileTree)
    (directory : String)
    (compatibility : Option String)
    (catalog : Catalog)
    (schemas : List Definition.Schema) :
    Follows tree directory compatibility catalog schemas
      (loadFrom tree directory compatibility catalog schemas) := by
  induction schemas generalizing catalog with
  | nil => exact Follows.whole List.Forall₂.nil
  | cons schema schemas ih =>
      rw [loadFrom]
      split
      · rename_i fault unread
        show Follows tree directory compatibility catalog ([] ++ schema :: schemas) _
        exact Follows.interrupted List.Forall₂.nil unread
      · rename_i content read
        exact Follows.read ⟨content, read, rfl⟩ (ih _)

theorem readable_of_drawn
    {schemas : List Definition.Schema} {documents : List SchemaDocument}
    (drawn : List.Forall₂ (Draws tree directory compatibility) schemas documents) :
    ∀ schema ∈ schemas, ∃ content, tree.read (Path.join directory schema.file) = .ok content := by
  induction drawn with
  | nil => exact fun schema member => absurd member List.not_mem_nil
  | cons first others ih =>
      obtain ⟨content, read, -⟩ := first
      exact List.forall_mem_cons.mpr ⟨⟨content, read⟩, ih⟩

theorem readable_of_loadFrom
    {schemas : List Definition.Schema}
    (loaded : loadFrom tree directory compatibility catalog schemas = (.ok (), after)) :
    ∀ schema ∈ schemas, ∃ content, tree.read (Path.join directory schema.file) = .ok content := by
  have follows := follows_loadFrom tree directory compatibility catalog schemas
  rw [loaded] at follows
  cases follows with
  | whole drawn => exact readable_of_drawn drawn

/-- The catalog has under each key what another one has. -/
def SameAs (catalog other : Catalog) : Prop :=
  ∀ key, catalog.documents.find? key = other.documents.find? key

/-- What a failed loading leaves behind: the documents read before the file that could not be read. -/
structure LeftBy
    (tree : FileTree)
    (directory : String)
    (list : Definition.Schemas)
    (catalog after : Catalog)
    (failure : ConfigFailure)
    (documents : List SchemaDocument) : Prop where
  /-- The documents are those of all entries before the first one whose file cannot be read. -/
  listed : ∃ front refused back fault,
    list.schemas = front ++ refused :: back ∧
      List.Forall₂ (Draws tree directory list.compatibility) front documents ∧
        tree.read (Path.join directory refused.file) = .error fault ∧
          failure = .unreadable (Path.join directory refused.file) fault
  /-- Each of them is in the catalog, unless a later one has its key. -/
  placed : ∀ key document,
    LastWith (·.key = key) documents (some document) → after.documents.find? key = some document
  /-- Under every other key the catalog has what it had. -/
  kept : ∀ key, LastWith (·.key = key) documents none →
    after.documents.find? key = catalog.documents.find? key
  /-- The catalog is as it was exactly if it had each of these documents in its place already. -/
  same_iff : after.SameAs catalog ↔
    ∀ key document, LastWith (·.key = key) documents (some document) →
      catalog.documents.find? key = some document
  /-- So it is where the first entry fails. -/
  same_of_first : documents = [] → after = catalog

/-- The last one with a property is the only one to be that. -/
theorem eq_lastUnder?
    {key : String} {documents : List SchemaDocument} {answer : Option SchemaDocument}
    (last : LastWith (·.key = key) documents answer) :
    lastUnder? key documents = answer :=
  (lastWith_lastUnder? key documents).unique last

theorem find?_of_placed
    {key : String} {documents : List SchemaDocument} {document : SchemaDocument}
    (catalog : Catalog)
    (last : LastWith (·.key = key) documents (some document)) :
    (catalog.insertAll documents).documents.find? key = some document := by
  rw [find?_insertAll, eq_lastUnder? last]
  rfl

theorem find?_of_kept
    {key : String} {documents : List SchemaDocument}
    (catalog : Catalog)
    (missing : LastWith (·.key = key) documents none) :
    (catalog.insertAll documents).documents.find? key = catalog.documents.find? key := by
  rw [find?_insertAll, eq_lastUnder? missing]
  rfl

/-- Documents change nothing exactly if each was in its place, or gave it to a later one. -/
theorem insertAll_sameAs_iff
    (catalog : Catalog)
    (documents : List SchemaDocument) :
    (catalog.insertAll documents).SameAs catalog ↔
      ∀ key document, LastWith (·.key = key) documents (some document) →
        catalog.documents.find? key = some document := by
  constructor
  · intro same key document last
    rw [← same key]
    exact find?_of_placed catalog last
  · intro present key
    have last := lastWith_lastUnder? key documents
    cases found : lastUnder? key documents with
    | none => exact find?_of_kept catalog (found ▸ last)
    | some document =>
        rw [found] at last
        rw [find?_of_placed catalog last, present key document last]

/-- A loading that fails leaves the documents in the catalog that were read before. -/
theorem leftBy_of_failed
    (failed : catalog.load tree directory list = (.error failure, after)) :
    ∃ documents, LeftBy tree directory list catalog after failure documents := by
  have follows := follows_loadFrom tree directory list.compatibility catalog list.schemas
  rw [load] at failed
  rw [failed] at follows
  generalize listed : list.schemas = schemas at follows
  cases follows with
  | @interrupted front back refused documents fault drawn unread =>
      refine ⟨documents, ?_⟩
      constructor
      · exact ⟨front, refused, back, fault, listed, drawn, unread, rfl⟩
      · intro key document last
        exact find?_of_placed catalog last
      · intro key missing
        exact find?_of_kept catalog missing
      · exact insertAll_sameAs_iff catalog documents
      · rintro rfl
        rfl

/-- A tree with one file in it. -/
def larder : FileTree :=
  .ofFiles [] [("soup.json", [123, 125])]

/-- A list whose second schema has no file. -/
def courses : Definition.Schemas where
  compatibility := none
  schemas := [⟨"soup", "1", "soup.json"⟩, ⟨"salad", "1", "salad.json"⟩]

theorem load_courses :
    (empty.load larder "" courses).1 = .error (.unreadable "salad.json" .notFound) := by
  decide +kernel

theorem leftBy_of_failed_courses :
    ∃ after failure documents,
      empty.load larder "" courses = (.error failure, after) ∧
        LeftBy larder "" courses empty after failure documents := by
  have failed : empty.load larder "" courses =
      (.error (.unreadable "salad.json" .notFound), (empty.load larder "" courses).2) :=
    Prod.ext load_courses rfl
  obtain ⟨documents, left⟩ := leftBy_of_failed failed
  exact ⟨_, _, documents, failed, left⟩

/-- The first course stays in a catalog that had nothing, though the second one is missing. -/
theorem soup_stays :
    (empty.load larder "" courses).1 = .error (.unreadable "salad.json" .notFound) ∧
      empty.documents.find? "soup:1" = none ∧
      (empty.load larder "" courses).2.documents.find? "soup:1" =
        some (plain "soup" "1" [123, 125]) := by
  refine ⟨load_courses, rfl, ?_⟩
  decide +kernel

end RequestHub.Catalog
