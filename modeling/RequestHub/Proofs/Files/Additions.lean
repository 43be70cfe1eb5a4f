import RequestHub.Proofs.Files.Paths

/-!
# Files that are added

A tree gets some files in places where nothing was, and its directories may list in another order.  What a
path leads to stays the same, with two exceptions.  A path that leads to the place of an added file finds the
file there.  A path that crosses such a place fails before and after, but not with the same fault: at first
something on the way is missing, and then it is there and is no directory.
-/

namespace RequestHub.FileTree

/-- A tree with some files added, in which directories may list in another order. -/
structure Adds
    (tree : FileTree)
    (added : List (List String × Bytes))
    (later : FileTree) : Prop where
  current : later.current = tree.current
  entries : later.entries.Perm
    (tree.entries ++ added.map fun file => (file.1, .file file.2))
  wellFormed : later.WellFormed

/-- A path goes on behind an added file, as if the file were a directory. -/
def Crosses (tree : FileTree) (added : List (List String × Bytes)) (path : String) : Prop :=
  ∃ front name back place content,
    steps path = front ++ name :: back ∧
      tree.follow (tree.origin path) front = .ok place ∧ (place, content) ∈ added

/-- No file is added where a path leads. -/
def Unreached (tree : FileTree) (added : List (List String × Bytes)) (path : String) : Prop :=
  ∀ place content, (place, content) ∈ added → tree.place path ≠ .ok place

/-- What is at the end of a path, before and after files are added. -/
inductive Change
    (tree : FileTree)
    (added : List (List String × Bytes))
    (path : String) :
    Except FileFault FileEntry → Except FileFault FileEntry → Prop where
  | kept (result : Except FileFault FileEntry) : Change tree added path result result
  | crossed (crosses : tree.Crosses added path) :
      Change tree added path (.error .notFound) (.error .notDirectory)
  | reached {place : List String} {content : Bytes}
      (member : (place, content) ∈ added)
      (leads : tree.place path = .ok place) :
      Change tree added path (.error .notFound) (.ok (.file content))

variable {tree later : FileTree} {added : List (List String × Bytes)} {path : String}
  {place : List String} {entry : FileEntry} {content : Bytes}

namespace Adds

/-! ## Entries -/

theorem mem_entries_iff (adds : tree.Adds added later) {named : List String × FileEntry} :
    named ∈ later.entries ↔
      named ∈ tree.entries ∨ ∃ place content, (place, content) ∈ added ∧ named = (place, .file content) := by
  rw [adds.entries.mem_iff, List.mem_append, List.mem_map]
  refine or_congr_right ⟨?_, ?_⟩
  · rintro ⟨⟨place, content⟩, member, rfl⟩
    exact ⟨place, content, member, rfl⟩
  · rintro ⟨place, content, member, rfl⟩
    exact ⟨(place, content), member, rfl⟩

/-- The places of the tree and those of the added files are distinct from one another. -/
theorem distinct (adds : tree.Adds added later) :
    (tree.entries.map (·.1) ++ added.map (·.1)).Nodup := by
  have distinct := ((adds.entries.map (·.1)).nodup_iff).mp adds.wellFormed.distinct
  rwa [List.map_append, List.map_map] at distinct

theorem before (adds : tree.Adds added later) : tree.WellFormed where
  distinct := adds.distinct.of_append_left
  placed entry member := adds.wellFormed.placed entry (adds.mem_entries_iff.mpr (.inl member))
  plain entry member := adds.wellFormed.plain entry (adds.mem_entries_iff.mpr (.inl member))

theorem entryAt?_added (adds : tree.Adds added later) (member : (place, content) ∈ added) :
    later.entryAt? place = some (.file content) := by
  have present := adds.mem_entries_iff.mpr (.inr ⟨place, content, member, rfl⟩)
  exact (adds.wellFormed.entryAt?_eq_some_iff (adds.wellFormed.placed _ present)).mpr present

theorem entryAt?_before (adds : tree.Adds added later) (member : (place, content) ∈ added) :
    tree.entryAt? place = none := by
  have present := adds.mem_entries_iff.mpr (.inr ⟨place, content, member, rfl⟩)
  have filled := adds.wellFormed.placed _ present
  refine Option.eq_none_iff_forall_ne_some.mpr fun entry found => ?_
  have listed := (adds.before.entryAt?_eq_some_iff filled).mp found
  exact (List.disjoint_of_nodup_append adds.distinct)
    (List.mem_map.mpr ⟨_, listed, rfl⟩) (List.mem_map.mpr ⟨_, member, rfl⟩)

theorem entryAt?_kept (adds : tree.Adds added later) (other : place ∉ added.map (·.1)) :
    later.entryAt? place = tree.entryAt? place := by
  by_cases filled : place = []
  · rw [filled]
    rfl
  · refine Option.ext fun entry => ?_
    rw [adds.wellFormed.entryAt?_eq_some_iff filled, adds.before.entryAt?_eq_some_iff filled,
      adds.mem_entries_iff, or_iff_left]
    rintro ⟨place, content, member, same⟩
    cases same
    exact other (List.mem_map.mpr ⟨_, member, rfl⟩)

/-! ## Paths -/

/-- Names lead where they led, unless they cross an added file. -/
theorem follow_eq_or_crosses (adds : tree.Adds added later) (place names : List String) :
    later.follow place names = tree.follow place names ∨
      tree.follow place names = .error .notFound ∧
        later.follow place names = .error .notDirectory ∧
          ∃ front name back file content,
            names = front ++ name :: back ∧
              tree.follow place front = .ok file ∧ (file, content) ∈ added := by
  induction names generalizing place with
  | nil => exact .inl rfl
  | cons name names ih =>
      -- A name has still to be looked up in this place, so a file that is added here is in its way.
      by_cases new : place ∈ added.map (·.1)
      · obtain ⟨⟨place, content⟩, member, rfl⟩ := List.mem_map.mp new
        rw [follow_cons, follow_cons, adds.entryAt?_before member, adds.entryAt?_added member]
        exact .inr ⟨rfl, rfl, [], name, names, place, content, rfl, rfl, member⟩
      · rw [follow_cons, follow_cons, adds.entryAt?_kept new]
        cases found : tree.entryAt? place with
        | none => exact .inl rfl
        | some entry =>
            cases entry with
            | file content => exact .inl rfl
            | directory =>
                refine (ih (turn place name)).imp_right ?_
                rintro ⟨missing, blocked, front, next, back, file, content, split, leads, member⟩
                refine ⟨missing, blocked, name :: front, next, back, file, content, ?_, ?_, member⟩
                · rw [split, List.cons_append]
                · rw [follow_cons, found]
                  exact leads

theorem place_eq_or_crosses (adds : tree.Adds added later) (path : String) :
    later.place path = tree.place path ∨
      tree.place path = .error .notFound ∧
        later.place path = .error .notDirectory ∧ tree.Crosses added path := by
  by_cases filled : path = ""
  · left
    rw [filled]
    rfl
  · have start : later.origin path = tree.origin path := by rw [origin, origin, adds.current]
    rw [place_eq tree filled, place_eq later filled, start]
    refine (adds.follow_eq_or_crosses (tree.origin path) (steps path)).imp_right ?_
    rintro ⟨missing, blocked, front, name, back, place, content, crosses⟩
    exact ⟨missing, blocked, front, name, back, place, content, crosses⟩

/-- What adding files does to what is at the end of a path. -/
theorem change (adds : tree.Adds added later) (path : String) :
    Change tree added path (tree.entry path) (later.entry path) := by
  rcases adds.place_eq_or_crosses path with same | ⟨missing, blocked, crosses⟩
  · cases leads : tree.place path with
    | error fault =>
        rw [entry_of_fault leads, entry_of_fault (same.trans leads)]
        exact .kept _
    | ok place =>
        rw [entry_of_place leads, entry_of_place (same.trans leads)]
        by_cases new : place ∈ added.map (·.1)
        · obtain ⟨⟨place, content⟩, member, rfl⟩ := List.mem_map.mp new
          rw [adds.entryAt?_before member, adds.entryAt?_added member]
          exact .reached member leads
        · rw [adds.entryAt?_kept new]
          exact .kept _
  · rw [entry_of_fault missing, entry_of_fault blocked]
    exact .crossed crosses

/-- Whatever a path led to is where it was. -/
theorem entry_eq_of_ok (adds : tree.Adds added later) (found : tree.entry path = .ok entry) :
    later.entry path = .ok entry := by
  have change := adds.change path
  rw [found] at change
  generalize later.entry path = result at change ⊢
  cases change
  rfl

theorem place_eq_of_ok (adds : tree.Adds added later) (leads : tree.place path = .ok place) :
    later.place path = .ok place := by
  rcases adds.place_eq_or_crosses path with same | ⟨missing, -⟩
  · rw [same, leads]
  · rw [missing] at leads
    cases leads

theorem entry_eq_of_isFile (adds : tree.Adds added later) (isFile : tree.isFile path = true) :
    later.entry path = tree.entry path := by
  cases found : tree.entry path with
  | error fault =>
      rw [FileTree.isFile, found] at isFile
      cases isFile
  | ok entry => exact adds.entry_eq_of_ok found

theorem isFile_eq (adds : tree.Adds added later) (unreached : tree.Unreached added path) :
    later.isFile path = tree.isFile path := by
  have change := adds.change path
  rw [isFile, isFile]
  generalize tree.entry path = result, later.entry path = after at change ⊢
  cases change with
  | kept => rfl
  | crossed => rfl
  | reached member leads => exact absurd leads (unreached _ _ member)

theorem read_eq_or_crosses (adds : tree.Adds added later) (unreached : tree.Unreached added path) :
    later.read path = tree.read path ∨
      tree.read path = .error .notFound ∧
        later.read path = .error .notDirectory ∧ tree.Crosses added path := by
  have change := adds.change path
  rw [read, read]
  generalize tree.entry path = result, later.entry path = after at change ⊢
  cases change with
  | kept => exact .inl rfl
  | crossed crosses => exact .inr ⟨rfl, rfl, crosses⟩
  | reached member leads => exact absurd leads (unreached _ _ member)

/-- No directory is added. -/
theorem isDirectory_eq (adds : tree.Adds added later) (path : String) :
    later.isDirectory path = tree.isDirectory path := by
  have change := adds.change path
  rw [isDirectory, isDirectory]
  generalize tree.entry path = result, later.entry path = after at change ⊢
  cases change with
  | kept => rfl
  | crossed => rfl
  | reached => rfl

/-- A directory lists what it listed and the added files that are in it. -/
theorem names_perm (adds : tree.Adds added later) (leads : tree.place path = .ok place) :
    (later.names path).Perm
      (tree.names path ++ added.filterMap fun file => nameIn? place file.1) := by
  rw [names, names, adds.place_eq_of_ok leads, leads]
  have listed := adds.entries.filterMap fun entry => nameIn? place entry.1
  rwa [List.filterMap_append, List.filterMap_map] at listed

end Adds

end RequestHub.FileTree
