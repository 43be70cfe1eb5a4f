import RequestHub.Catalog
import RequestHub.Proofs.Names
import RequestHub.Proofs.Text.Joining

/-!
# The documents that a catalog keeps

A catalog that documents are put into one after another answers a name and a version with the last
document under their key.  The key is written with a colon between the two, and either of them may have
colons of its own.  So the last document that is met under a key either bears the name and the version, or
its own ones overlap with them across a colon.

`Keeps` says what a catalog answers after any sequence of documents, and when exactly that is the last
document that bears the name and the version.
-/

namespace RequestHub

/-! ## The last one with a property -/

/-- The last one of some values with a property, or nothing if none of them has it. -/
def LastWith
    {α : Type}
    (holds : α → Prop)
    (values : List α) : Option α → Prop
  | none => ∀ value ∈ values, ¬ holds value
  | some value =>
      ∃ before after, values = before ++ value :: after ∧ holds value ∧ ∀ later ∈ after, ¬ holds later

namespace LastWith

variable {α : Type} {holds : α → Prop} {values : List α} {answer : Option α}

/-- There is a last one exactly if there is one. -/
theorem isSome_iff
    (last : LastWith holds values answer) :
    answer.isSome = true ↔ ∃ value ∈ values, holds value := by
  cases answer with
  | none =>
      constructor
      · intro some
        cases some
      · intro one
        obtain ⟨value, member, held⟩ := one
        exact absurd held (last value member)
  | some value =>
      obtain ⟨before, after, rfl, held, -⟩ := last
      constructor
      · intro _
        exact ⟨value, List.mem_append_right _ List.mem_cons_self, held⟩
      · intro _
        rfl

/-- Nothing with the property stands behind the last one. -/
theorem eq_or_mem_of_split
    {before after : List α} {value last : α}
    (found : LastWith holds values (some last))
    (split : values = before ++ value :: after)
    (held : holds value) :
    value = last ∨ last ∈ after := by
  obtain ⟨front, behind, rfl, -, none⟩ := found
  rw [List.append_eq_append_iff] at split
  obtain ⟨rest, -, joined⟩ | ⟨rest, -, joined⟩ := split
  · cases rest with
    | nil => exact Or.inl (List.cons.inj joined).1.symm
    | cons first rest =>
        -- The value would stand among those behind the last one.
        have member : value ∈ behind := by
          rw [(List.cons.inj joined).2]
          exact List.mem_append_right _ List.mem_cons_self
        exact absurd held (none value member)
  · cases rest with
    | nil => exact Or.inl (List.cons.inj joined).1
    | cons first rest =>
        have member : last ∈ after := by
          rw [(List.cons.inj joined).2]
          exact List.mem_append_right _ List.mem_cons_self
        exact Or.inr member

/-- Only one answer is the last one. -/
theorem unique
    {other : Option α}
    (last : LastWith holds values answer)
    (another : LastWith holds values other) :
    answer = other := by
  cases answer with
  | none =>
      cases other with
      | none => rfl
      | some value =>
          obtain ⟨before, after, rfl, held, -⟩ := another
          exact absurd held (last value (List.mem_append_right _ List.mem_cons_self))
  | some value =>
      cases other with
      | none =>
          obtain ⟨before, after, rfl, held, -⟩ := last
          exact absurd held (another value (List.mem_append_right _ List.mem_cons_self))
      | some second =>
          obtain ⟨before, after, split, held, none⟩ := another
          cases last.eq_or_mem_of_split split held with
          | inl same => rw [same]
          | inr member =>
              obtain ⟨-, -, -, holding, -⟩ := last
              exact absurd holding (none value member)

end LastWith

/-! ## What a document is found for -/

namespace SchemaDocument

/-- The document bears a name and a version. -/
def Bears
    (document : SchemaDocument)
    (name version : String) : Prop :=
  document.name = name ∧ document.version = version

/-- The name and the version of a document overlap with others across a colon. -/
def Overlaps
    (document : SchemaDocument)
    (name version : String) : Prop :=
  Text.Overlap ":" document.name document.version name version

/-- The key under which a document is kept. -/
def key (document : SchemaDocument) : String :=
  Catalog.key document.name document.version

theorem toList_colon : ":".toList = [':'] := rfl

theorem key_eq_iff
    (document : SchemaDocument)
    (name version : String) :
    document.key = Catalog.key name version ↔
      document.Bears name version ∨ document.Overlaps name version :=
  Text.joined_eq_joined_iff toList_colon ..

theorem Bears.not_overlaps
    {document : SchemaDocument} {name version : String}
    (bears : document.Bears name version) :
    ¬ document.Overlaps name version := by
  obtain ⟨rfl, rfl⟩ := bears
  exact Text.not_overlap_self toList_colon document.name document.version

end SchemaDocument

namespace Catalog

/-- The catalog with documents put into it one after another. -/
def insertAll
    (catalog : Catalog)
    (documents : List SchemaDocument) : Catalog :=
  documents.foldl (fun catalog document => (catalog.insert document).2) catalog

theorem insertAll_documents
    (catalog : Catalog)
    (documents : List SchemaDocument) :
    (catalog.insertAll documents).documents =
      (documents.map fun document => (document.key, document)).foldl
        (fun table pair => Names.insert pair.1 pair.2 table) catalog.documents := by
  induction documents generalizing catalog with
  | nil => rfl
  | cons document documents ih => exact ih (catalog.insert document).2

/-- The last one of some documents to be put under a key. -/
def lastUnder?
    (key : String)
    (documents : List SchemaDocument) : Option SchemaDocument :=
  Names.lastUnder key (documents.map fun document => (document.key, document))

theorem find?_insertAll
    (catalog : Catalog)
    (documents : List SchemaDocument)
    (key : String) :
    (catalog.insertAll documents).documents.find? key =
      (lastUnder? key documents).or (catalog.documents.find? key) := by
  rw [insertAll_documents, Names.find?_foldl_insert]
  rfl

theorem lastWith_lastUnder?
    (key : String)
    (documents : List SchemaDocument) :
    LastWith (·.key = key) documents (lastUnder? key documents) := by
  cases found : lastUnder? key documents with
  | none =>
      intro document member same
      have missing := (Names.lastUnder_eq_none_iff ..).mp found
      rw [List.map_map] at missing
      exact missing (List.mem_map.mpr ⟨document, member, same⟩)
  | some document =>
      -- The split of the pairs is one of the documents.
      obtain ⟨before, after, split, missing⟩ := (Names.lastUnder_eq_some_iff ..).mp found
      obtain ⟨front, rest, rfl, rfl, pairs⟩ := List.map_eq_append_iff.mp split
      obtain ⟨middle, back, rfl, pair, rfl⟩ := List.map_eq_cons_iff.mp pairs
      obtain ⟨same, rfl⟩ := Prod.mk.inj pair
      refine ⟨front, back, rfl, same, ?_⟩
      intro later member equal
      rw [List.map_map] at missing
      exact missing (List.mem_map.mpr ⟨later, member, equal⟩)

/-! ## A catalog after a sequence of documents -/

/-- What a catalog answers that some documents were put into, one after another. -/
structure Keeps
    (catalog : Catalog)
    (documents : List SchemaDocument) : Prop where
  /-- The answer is the last document that bears the name and the version, or overlaps with them. -/
  get?_last : ∀ name version,
    LastWith (fun document => document.Bears name version ∨ document.Overlaps name version)
      documents (catalog.get? name version)
  contains_iff : ∀ name version,
    catalog.contains name version = true ↔
      ∃ document ∈ documents, document.Bears name version ∨ document.Overlaps name version
  /-- It is the last one that bears them exactly if one that does comes behind each that overlaps. -/
  apart_iff : ∀ name version,
    LastWith (·.Bears name version) documents (catalog.get? name version) ↔
      ∀ before document after, documents = before ++ document :: after →
        document.Overlaps name version → ∃ later ∈ after, later.Bears name version
  /-- So it is where no name has a colon, or no version. -/
  apart_of_unmarked : ∀ name version,
    ((∀ document ∈ documents, ':' ∉ document.name.toList) ∧ ':' ∉ name.toList ∨
      (∀ document ∈ documents, ':' ∉ document.version.toList) ∧ ':' ∉ version.toList) →
    LastWith (·.Bears name version) documents (catalog.get? name version)
  /-- One more document takes out the answer to its own name and version. -/
  insert_replaces : ∀ document : SchemaDocument,
    (catalog.insert document).1 = catalog.get? document.name document.version
  /-- Then it is the answer to what it bears or overlaps with, and to nothing else. -/
  insert_get? : ∀ document name version,
    (document.Bears name version ∨ document.Overlaps name version →
        (catalog.insert document).2.get? name version = some document) ∧
      (¬ (document.Bears name version ∨ document.Overlaps name version) →
        (catalog.insert document).2.get? name version = catalog.get? name version)

theorem get?_lastWith
    (documents : List SchemaDocument)
    (name version : String) :
    LastWith (fun document => document.Bears name version ∨ document.Overlaps name version)
      documents ((empty.insertAll documents).get? name version) := by
  have last := lastWith_lastUnder? (key name version) documents
  simp only [SchemaDocument.key_eq_iff] at last
  have answer : (empty.insertAll documents).get? name version =
      lastUnder? (key name version) documents :=
    (find?_insertAll ..).trans Option.or_none
  rw [answer]
  exact last

section Apart

variable {documents : List SchemaDocument} {name version : String} {answer : Option SchemaDocument}

/-- An answer that bears the name and the version comes behind every document that overlaps with them. -/
theorem bears_behind_of_apart
    (found : LastWith (fun document => document.Bears name version ∨ document.Overlaps name version)
      documents answer)
    (apart : LastWith (·.Bears name version) documents answer)
    {before after : List SchemaDocument} {document : SchemaDocument}
    (split : documents = before ++ document :: after)
    (overlaps : document.Overlaps name version) :
    ∃ later ∈ after, later.Bears name version := by
  cases answer with
  | none =>
      have member : document ∈ documents := split ▸ List.mem_append_right _ List.mem_cons_self
      exact absurd (Or.inr overlaps) (found document member)
  | some last =>
      obtain ⟨-, -, -, bears, -⟩ := apart
      cases found.eq_or_mem_of_split split (Or.inr overlaps) with
      | inl same => exact absurd (same ▸ overlaps) bears.not_overlaps
      | inr behind => exact ⟨last, behind, bears⟩

/-- The last document to be met bears the name and the version if it is not one that overlaps with them. -/
theorem apart_of_bears_behind
    (found : LastWith (fun document => document.Bears name version ∨ document.Overlaps name version)
      documents answer)
    (behind : ∀ before document after, documents = before ++ document :: after →
      document.Overlaps name version → ∃ later ∈ after, later.Bears name version) :
    LastWith (·.Bears name version) documents answer := by
  cases answer with
  | none =>
      intro document member bears
      exact found document member (Or.inl bears)
  | some last =>
      obtain ⟨before, after, split, met, none⟩ := found
      have unborne : ∀ later ∈ after, ¬ later.Bears name version :=
        fun later member bears => none later member (Or.inl bears)
      cases met with
      | inl bears => exact ⟨before, after, split, bears, unborne⟩
      | inr overlaps =>
          obtain ⟨later, member, bears⟩ := behind before last after split overlaps
          exact absurd bears (unborne later member)

end Apart

theorem not_overlaps_of_unmarked
    {documents : List SchemaDocument} {name version : String}
    (unmarked : (∀ document ∈ documents, ':' ∉ document.name.toList) ∧ ':' ∉ name.toList ∨
      (∀ document ∈ documents, ':' ∉ document.version.toList) ∧ ':' ∉ version.toList)
    {document : SchemaDocument}
    (member : document ∈ documents) :
    ¬ document.Overlaps name version := by
  apply Text.not_overlap_of_unmarked SchemaDocument.toList_colon
  cases unmarked with
  | inl names => exact Or.inl ⟨names.1 document member, names.2⟩
  | inr versions => exact Or.inr ⟨versions.1 document member, versions.2⟩

@[simp]
theorem get?_insert
    (catalog : Catalog)
    (document : SchemaDocument)
    (name version : String) :
    (catalog.insert document).2.get? name version =
      if key name version = document.key then some document else catalog.get? name version :=
  Names.find?_insert ..

/-- A catalog into which documents were put answers with the last that is met under a key. -/
theorem insertAll_keeps
    (documents : List SchemaDocument) :
    (empty.insertAll documents).Keeps documents where
  get?_last := get?_lastWith documents
  contains_iff := by
    intro name version
    exact (get?_lastWith documents name version).isSome_iff
  apart_iff := by
    intro name version
    have found := get?_lastWith documents name version
    constructor
    · intro apart before document after split overlaps
      exact bears_behind_of_apart found apart split overlaps
    · intro behind
      exact apart_of_bears_behind found behind
  apart_of_unmarked := by
    intro name version unmarked
    apply apart_of_bears_behind (get?_lastWith documents name version)
    intro before document after split overlaps
    have member : document ∈ documents := split ▸ List.mem_append_right _ List.mem_cons_self
    exact absurd overlaps (not_overlaps_of_unmarked unmarked member)
  insert_replaces _ := rfl
  insert_get? := by
    intro document name version
    rw [get?_insert, ← document.key_eq_iff]
    constructor
    · intro same
      rw [if_pos same.symm]
    · intro different
      rw [if_neg (Ne.symm different)]

/-- A document without anything but a name, a version and a content. -/
def plain
    (name version : String)
    (content : Bytes) : SchemaDocument :=
  ⟨name, version, none, content⟩

/-- A document with one name takes the place of a document with another one. -/
theorem broth_in_place_of_stew :
    (empty.insertAll [plain "stew:spicy" "1" [1]]).get? "stew" "spicy:1" =
        some (plain "stew:spicy" "1" [1]) ∧
      ¬ LastWith (·.Bears "stew" "spicy:1") [plain "stew:spicy" "1" [1]]
        ((empty.insertAll [plain "stew:spicy" "1" [1]]).get? "stew" "spicy:1") ∧
      ((empty.insertAll [plain "stew:spicy" "1" [1]]).insert (plain "stew" "spicy:1" [2])).2.get?
          "stew:spicy" "1" =
        some (plain "stew" "spicy:1" [2]) := by
  have served : (empty.insertAll [plain "stew:spicy" "1" [1]]).get? "stew" "spicy:1" =
      some (plain "stew:spicy" "1" [1]) := by decide
  refine ⟨served, ?_, by decide⟩
  rw [served]
  intro apart
  obtain ⟨-, -, -, bears, -⟩ := apart
  exact absurd bears.1 (by decide)

end Catalog

end RequestHub
