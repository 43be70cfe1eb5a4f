import Mathlib.Data.List.Nodup
import RequestHub.Files
import RequestHub.Proofs.Except

/-!
# Paths that are followed

A path is followed name by name, and each of the names but the last has to lead to a directory.  What a front
part of the names leads to is where the others start, so a name that is joined to a path is looked up in the
directory to which the path leads, whether or not the path ends in a slash.
-/

namespace RequestHub.FileTree

variable {tree : FileTree} {path name : String} {names place : List String} {entry : FileEntry}

/-! ## Steps -/

/-- Where a name leads from a directory. -/
def turn (place : List String) (name : String) : List String :=
  if name = "" || name = "." then place
  else if name = ".." then place.dropLast
  else place ++ [name]

theorem follow_cons
    (tree : FileTree) (place : List String) (name : String) (names : List String) :
    tree.follow place (name :: names) =
      match tree.entryAt? place with
      | none => .error .notFound
      | some (.file _) => .error .notDirectory
      | some .directory => tree.follow (turn place name) names := by
  rw [follow]
  cases tree.entryAt? place with
  | none => rfl
  | some entry =>
      cases entry with
      | file content => rfl
      | directory =>
          dsimp only
          rw [turn]
          split
          · rfl
          · split <;> rfl

theorem follow_append
    (tree : FileTree) (place front back : List String) :
    tree.follow place (front ++ back) =
      (do let middle ← tree.follow place front; tree.follow middle back) := by
  induction front generalizing place with
  | nil => rfl
  | cons name front ih =>
      rw [List.cons_append, follow_cons, follow_cons]
      cases tree.entryAt? place with
      | none => rfl
      | some entry =>
          cases entry with
          | file content => rfl
          | directory => exact ih _

/-- The names of a path, as they are followed. -/
def steps (path : String) : List String :=
  (Text.cut '/' path.toList).map String.ofList

/-- Where a path starts. -/
def origin (tree : FileTree) (path : String) : List String :=
  if path.startsWith "/" then [] else tree.current

theorem place_eq (tree : FileTree) (filled : path ≠ "") :
    tree.place path = tree.follow (tree.origin path) (steps path) := by
  rw [place, if_neg (mt String.isEmpty_iff.mp filled)]
  rfl

/-! ## Names in directories -/

/-- A name as directories have them. -/
def Plain (name : String) : Prop :=
  name ∉ ["", ".", ".."] ∧ '/' ∉ name.toList

instance (name : String) : Decidable (Plain name) :=
  inferInstanceAs (Decidable (_ ∧ _))

theorem Plain.ne_empty (plain : Plain name) : name ≠ "" :=
  fun same => plain.1 (same ▸ List.mem_cons_self)

theorem Plain.turn_eq (plain : Plain name) (place : List String) :
    turn place name = place ++ [name] := by
  obtain ⟨special, -⟩ := plain
  simp only [List.mem_cons, List.not_mem_nil, or_false, not_or] at special
  obtain ⟨filled, here, up⟩ := special
  rw [turn, if_neg (by simp [filled, here]), if_neg up]

theorem Plain.steps_eq (plain : Plain name) : steps name = [name] := by
  rw [steps, Text.cut_of_not_mem plain.2, List.map_singleton, String.ofList_toList]

theorem Plain.relative (plain : Plain name) : name.startsWith "/" = false := by
  rw [← Bool.not_eq_true, String.startsWith_string_iff]
  exact fun front => plain.2 (front.subset List.mem_cons_self)

theorem follow_plain_eq_ok_iff (plain : Plain name) {directory : List String} :
    tree.follow directory [name] = .ok place ↔
      tree.entryAt? directory = some .directory ∧ place = directory ++ [name] := by
  rw [follow_cons, plain.turn_eq]
  cases tree.entryAt? directory with
  | none => exact ⟨nofun, nofun⟩
  | some entry =>
      cases entry with
      | file content => exact ⟨nofun, nofun⟩
      | directory =>
          constructor
          · intro done
            cases done
            exact ⟨rfl, rfl⟩
          · rintro ⟨-, rfl⟩
            rfl

/-! ## Joined paths -/

theorem steps_eq_append
    {whole front back : String} (written : whole.toList = front.toList ++ '/' :: back.toList) :
    steps whole = steps front ++ steps back := by
  rw [steps, steps, steps, written, Text.cut_append_separator, List.map_append]

theorem exists_of_ending (filled : path ≠ "") (ending : (path.isEmpty || path.endsWith "/") = true) :
    ∃ front : String, path.toList = front.toList ++ ['/'] := by
  rcases Bool.or_eq_true _ _ ▸ ending with empty | slash
  · exact absurd (String.isEmpty_iff.mp empty) filled
  · rw [← String.endsWith_toSlice, String.Slice.endsWith_string_iff, String.copy_toSlice] at slash
    obtain ⟨front, written⟩ := slash
    exact ⟨String.ofList front, by rw [String.toList_ofList]; exact written.symm⟩

/-- The directory in which a name is looked up that is joined to a path. -/
def base (tree : FileTree) (path : String) : Except FileFault (List String) :=
  if path = "" then .ok tree.current else tree.place path

/-- A slash at the end makes no difference to what follows. -/
theorem follow_blank (tree : FileTree) (place : List String) (name : String) :
    (do let middle ← tree.follow place [""]; tree.follow middle [name]) = tree.follow place [name] := by
  rw [follow_cons, follow_cons]
  cases found : tree.entryAt? place with
  | none => rfl
  | some entry =>
      cases entry with
      | file content => rfl
      | directory =>
          show tree.follow place [name] = _
          rw [follow_cons, found]

theorem origin_append (filled : path ≠ "") (tail : String) :
    tree.origin (path ++ tail) = tree.origin path := by
  have same : (path ++ tail).startsWith "/" = path.startsWith "/" := by
    rw [Bool.eq_iff_iff, String.startsWith_string_iff, String.startsWith_string_iff, String.toList_append]
    cases chars : path.toList with
    | nil => exact absurd (String.toList_eq_nil_iff.mp chars) filled
    | cons char chars => simp
  rw [origin, origin, same]

/-- A name that is joined to a path is looked up in the directory to which the path leads. -/
theorem place_join (plain : Plain name) (path : String) :
    tree.place (Path.join path name) =
      (do let directory ← tree.base path; tree.follow directory [name]) := by
  rw [Path.join, plain.relative, if_neg Bool.false_ne_true, base]
  by_cases filled : path = ""
  · rw [if_pos filled, if_pos (by rw [filled]; rfl), filled, String.empty_append,
      place_eq tree plain.ne_empty, plain.steps_eq, origin, plain.relative]
    rfl
  · rw [if_neg filled, place_eq tree filled]
    split
    · -- The last name of such a path is empty, and the joined name takes its place.
      rename_i ending
      obtain ⟨front, written⟩ := exists_of_ending filled ending
      have ended : steps path = steps front ++ steps "" := steps_eq_append written
      have joined : steps (path ++ name) = steps front ++ steps name :=
        steps_eq_append (by rw [String.toList_append, written, List.append_assoc]; rfl)
      rw [place_eq tree (by simp [filled]), origin_append filled, joined, plain.steps_eq, ended,
        follow_append, follow_append]
      cases tree.follow (tree.origin path) (steps front) with
      | error fault => rfl
      | ok middle => exact (follow_blank tree middle name).symm
    · have joined : steps (path ++ ("/" ++ name)) = steps path ++ steps name :=
        steps_eq_append (by rw [String.toList_append, String.toList_append]; rfl)
      rw [String.append_assoc, place_eq tree (by simp [filled]), origin_append filled, joined,
        plain.steps_eq, follow_append]

theorem place_join_eq_ok_iff (plain : Plain name) :
    tree.place (Path.join path name) = .ok place ↔
      ∃ directory,
        tree.base path = .ok directory ∧
          tree.entryAt? directory = some .directory ∧ place = directory ++ [name] := by
  rw [place_join plain, except_bind_eq_ok_iff]
  simp only [follow_plain_eq_ok_iff plain]

/-- Names that are joined to one path are looked up in one directory. -/
theorem exists_directory_of_joined
    {other : String} {otherPlace : List String}
    (plain : Plain name)
    (otherPlain : Plain other)
    (leads : tree.place (Path.join path name) = .ok place)
    (otherLeads : tree.place (Path.join path other) = .ok otherPlace) :
    ∃ directory, place = directory ++ [name] ∧ otherPlace = directory ++ [other] := by
  obtain ⟨directory, start, -, rfl⟩ := (place_join_eq_ok_iff plain).mp leads
  obtain ⟨again, restart, -, rfl⟩ := (place_join_eq_ok_iff otherPlain).mp otherLeads
  rw [start] at restart
  cases restart
  exact ⟨directory, rfl, rfl⟩

/-- A path behind a name is never empty, so that the path itself says where it starts. -/
theorem join_ne_empty (plain : Plain name) (path : String) : Path.join path name ≠ "" := by
  rw [Path.join, plain.relative, if_neg Bool.false_ne_true]
  split <;> simp [plain.ne_empty]

/-! ## What is at the end of a path -/

theorem entry_of_fault {fault : FileFault} (unplaced : tree.place path = .error fault) :
    tree.entry path = .error fault := by
  rw [FileTree.entry, unplaced]
  rfl

theorem entry_of_place (leads : tree.place path = .ok place) :
    tree.entry path =
      match tree.entryAt? place with
      | some entry => .ok entry
      | none => .error .notFound := by
  rw [FileTree.entry, leads]
  rfl

theorem exists_place_of_isDirectory (isDirectory : tree.isDirectory path = true) :
    ∃ place, tree.place path = .ok place ∧ tree.entryAt? place = some .directory := by
  rw [FileTree.isDirectory] at isDirectory
  cases leads : tree.place path with
  | error fault =>
      rw [entry_of_fault leads] at isDirectory
      cases isDirectory
  | ok place =>
      refine ⟨place, rfl, ?_⟩
      rw [entry_of_place leads] at isDirectory
      cases found : tree.entryAt? place with
      | none =>
          rw [found] at isDirectory
          cases isDirectory
      | some entry =>
          rw [found] at isDirectory
          cases entry with
          | file content => cases isDirectory
          | directory => rfl

/-! ## What is in a directory -/

/-- A tree as file systems have it: there is one entry in a place, and names are plain. -/
structure WellFormed (tree : FileTree) : Prop where
  distinct : (tree.entries.map (·.1)).Nodup
  placed : ∀ entry ∈ tree.entries, entry.1 ≠ []
  plain : ∀ entry ∈ tree.entries, ∀ name ∈ entry.1, Plain name

theorem entryAt?_of_ne_nil (filled : place ≠ []) : tree.entryAt? place = tree.entries.lookup place := by
  cases place with
  | nil => exact absurd rfl filled
  | cons name names => rfl

theorem WellFormed.entryAt?_eq_some_iff (wellFormed : tree.WellFormed) (filled : place ≠ []) :
    tree.entryAt? place = some entry ↔ (place, entry) ∈ tree.entries := by
  rw [entryAt?_of_ne_nil filled, List.lookup_eq_some_iff]
  constructor
  · rintro ⟨front, back, split, -⟩
    rw [split]
    exact List.mem_append_right _ List.mem_cons_self
  · intro member
    obtain ⟨front, back, split⟩ := List.append_of_mem member
    refine ⟨front, back, split, fun other earlier => ?_⟩
    have distinct := wellFormed.distinct
    rw [split, List.map_append, List.map_cons, List.nodup_middle, List.nodup_cons] at distinct
    refine bne_iff_ne.mpr fun same => distinct.1 ?_
    exact List.mem_append_left _ (List.mem_map.mpr ⟨other, earlier, same.symm⟩)

@[simp]
theorem nameIn?_eq_some_iff :
    nameIn? place names = some name ↔ names = place ++ [name] := by
  rw [nameIn?, ← Text.dropLead?_eq_some_iff]
  split
  · rename_i other found
    rw [found]
    simp
  · rename_i other
    exact ⟨nofun, fun found => absurd found (other name)⟩

theorem mem_names_iff (leads : tree.place path = .ok place) :
    name ∈ tree.names path ↔ ∃ entry, (place ++ [name], entry) ∈ tree.entries := by
  rw [FileTree.names, leads]
  simp only [List.mem_filterMap, nameIn?_eq_some_iff]
  constructor
  · rintro ⟨⟨names, entry⟩, member, rfl⟩
    exact ⟨entry, member⟩
  · rintro ⟨entry, member⟩
    exact ⟨_, member, rfl⟩

/-- Whatever a directory lists is found there. -/
theorem WellFormed.exists_entry_of_mem_names
    (wellFormed : tree.WellFormed)
    (filled : path ≠ "")
    (leads : tree.place path = .ok place)
    (isDirectory : tree.entryAt? place = some .directory)
    (member : name ∈ tree.names path) :
    ∃ entry, tree.entry (Path.join path name) = .ok entry := by
  obtain ⟨entry, listed⟩ := (mem_names_iff leads).mp member
  have plain : Plain name :=
    wellFormed.plain _ listed name (List.mem_append_right _ List.mem_cons_self)
  have start : tree.base path = .ok place := by rw [base, if_neg filled, leads]
  have joined : tree.place (Path.join path name) = .ok (place ++ [name]) :=
    (place_join_eq_ok_iff plain).mpr ⟨place, start, isDirectory, rfl⟩
  have found := (wellFormed.entryAt?_eq_some_iff (wellFormed.placed _ listed)).mpr listed
  exact ⟨entry, by rw [entry_of_place joined, found]⟩

end RequestHub.FileTree
