/-!
# Tables ordered by name

The members of an object, the services of a hub, the factories of a registry and the documents of a
store are all found by a name and listed in the order of names.  Such a table is a list of pairs;
`insert` puts a pair where the order of names wants it and replaces the one that had the name.

The main statements say what a table answers after an insertion or a removal, and that a table built
by insertions alone is ordered.
-/

namespace RequestHub

/-- A table of values found by name, in the order of names. -/
abbrev Names (α : Type) := List (String × α)

namespace Names

variable {α β : Type}

/-- The value under a name. -/
def find? (name : String) (table : Names α) : Option α :=
  List.lookup name table

/-- The table with a name bound to a value, at the place that the order of names gives it. -/
def insert (name : String) (value : α) : Names α → Names α
  | [] => [(name, value)]
  | (other, held) :: table =>
      if name < other then (name, value) :: (other, held) :: table
      else if name = other then (name, value) :: table
      else (other, held) :: insert name value table

/-- The table without a name. -/
def erase (name : String) (table : Names α) : Names α :=
  table.filter fun pair => pair.1 ≠ name

/-- The names of a table. -/
def keys (table : Names α) : List String :=
  table.map (·.1)

/-- The values of a table, in the order of their names. -/
def values (table : Names α) : List α :=
  table.map (·.2)

/-- Whether a table has a name. -/
def contains (name : String) (table : Names α) : Bool :=
  (table.find? name).isSome

/-- The table of some pairs; of two with one name the later one counts. -/
def ofList (pairs : List (String × α)) : Names α :=
  pairs.foldl (fun table pair => insert pair.1 pair.2 table) []

/-- Whether the names of a table increase. -/
def Ordered (table : Names α) : Prop :=
  table.Pairwise fun left right => left.1 < right.1

@[simp]
theorem find?_nil (name : String) : find? name ([] : Names α) = none := rfl

@[simp]
theorem find?_cons (name other : String) (held : α) (table : Names α) :
    find? name ((other, held) :: table) = if name = other then some held else find? name table := by
  by_cases equal : name = other
  · simp [find?, equal]
  · simp [find?, List.lookup_cons, equal, beq_eq_false_iff_ne.mpr equal]

/-- A table answers an insertion with the value inserted, and other names as before. -/
@[simp]
theorem find?_insert (name wanted : String) (value : α) (table : Names α) :
    find? wanted (insert name value table) =
      if wanted = name then some value else find? wanted table := by
  induction table with
  | nil => simp [insert]
  | cons pair table ih =>
      obtain ⟨other, held⟩ := pair
      simp only [insert]
      split
      · simp
      · split
        · rename_i equal
          subst equal
          simp only [find?_cons]
          split <;> simp_all
        · rename_i different
          simp only [find?_cons, ih]
          by_cases first : wanted = other
          · simp [first, Ne.symm different]
          · simp [first]

theorem find?_insert_self (name : String) (value : α) (table : Names α) :
    find? name (insert name value table) = some value := by
  simp

theorem find?_insert_of_ne
    {name wanted : String} (different : wanted ≠ name) (value : α) (table : Names α) :
    find? wanted (insert name value table) = find? wanted table := by
  simp [different]

theorem mem_keys_iff (name : String) (table : Names α) :
    name ∈ table.keys ↔ table.contains name = true := by
  induction table with
  | nil => simp [keys, contains]
  | cons pair table ih =>
      obtain ⟨other, held⟩ := pair
      change name ∈ other :: keys table ↔ _
      rw [List.mem_cons, ih, contains, contains, find?_cons]
      by_cases first : name = other
      · simp [first]
      · simp [first]

@[simp]
theorem contains_insert (name wanted : String) (value : α) (table : Names α) :
    contains wanted (insert name value table) = true ↔
      wanted = name ∨ contains wanted table = true := by
  by_cases same : wanted = name
  · simp [contains, same]
  · simp [contains, same]

/-- A table has no name that was removed, and answers other names as before. -/
@[simp]
theorem find?_erase (name wanted : String) (table : Names α) :
    find? wanted (erase name table) = if wanted = name then none else find? wanted table := by
  induction table with
  | nil => simp [erase]
  | cons pair table ih =>
      obtain ⟨other, held⟩ := pair
      simp only [erase, List.filter_cons, find?_cons] at ih ⊢
      by_cases removed : other = name
      · subst removed
        simp only [ne_eq, not_true_eq_false, decide_false, Bool.false_eq_true, if_false]
        rw [ih]
        split <;> simp_all
      · simp only [ne_eq, removed, not_false_eq_true, decide_true, if_true, find?_cons]
        rw [ih]
        by_cases first : wanted = other
        · simp [first, removed]
        · simp [first]

/-- A name whose value stays is found among the values that stay. -/
theorem find?_filter
    {name : String} {table : Names α} {keeps : α → Bool}
    (kept : ∀ value, table.find? name = some value → keeps value = true) :
    find? name (table.filter fun pair => keeps pair.2) = table.find? name := by
  induction table with
  | nil => rfl
  | cons pair table ih =>
      obtain ⟨other, held⟩ := pair
      by_cases first : name = other
      · have stays : keeps held = true := kept held (by simp [first])
        simp [stays, first]
      · have rest := ih fun value found => kept value (by simpa [first] using found)
        by_cases stays : keeps held = true
        · simp [stays, first, rest]
        · simp [stays, first, rest]

/-- What an insertion leaves in a table is the new pair or was there before. -/
theorem mem_insert
    {name : String} {value : α} {table : Names α} {pair : String × α}
    (member : pair ∈ insert name value table) : pair = (name, value) ∨ pair ∈ table := by
  induction table with
  | nil => exact Or.inl (List.mem_singleton.mp member)
  | cons head table ih =>
      obtain ⟨other, held⟩ := head
      simp only [insert] at member
      split at member
      · exact List.mem_cons.mp member
      · split at member
        · exact (List.mem_cons.mp member).imp_right (List.mem_cons_of_mem _)
        · rcases List.mem_cons.mp member with rfl | later
          · exact Or.inr List.mem_cons_self
          · exact (ih later).imp_right (List.mem_cons_of_mem _)

/-- Insertions keep the names of a table increasing. -/
theorem ordered_insert
    {name : String} {value : α} {table : Names α} (ordered : table.Ordered) :
    Ordered (insert name value table) := by
  induction table with
  | nil => exact List.pairwise_singleton _ _
  | cons head table ih =>
      obtain ⟨other, held⟩ := head
      obtain ⟨above, rest⟩ := List.pairwise_cons.mp ordered
      simp only [insert]
      split
      · rename_i before
        refine List.pairwise_cons.mpr ⟨?_, ordered⟩
        intro pair member
        rcases List.mem_cons.mp member with rfl | later
        · exact before
        · exact String.lt_trans before (above pair later)
      · split
        · rename_i same
          subst same
          exact List.pairwise_cons.mpr ⟨above, rest⟩
        · rename_i notBefore different
          -- A name that is neither below the first name nor equal to it is above it.
          have behind : other < name := by
            refine Decidable.byContradiction fun notBehind => different ?_
            exact String.le_antisymm (String.not_lt.mp notBehind) (String.not_lt.mp notBefore)
          refine List.pairwise_cons.mpr ⟨?_, ih rest⟩
          intro pair member
          rcases mem_insert member with rfl | later
          · exact behind
          · exact above pair later

theorem ordered_erase
    {name : String} {table : Names α} (ordered : table.Ordered) : Ordered (erase name table) :=
  List.Pairwise.filter _ ordered

/-- In an ordered table every pair is found by its name. -/
theorem find?_eq_some_iff
    {table : Names α} (ordered : table.Ordered) (name : String) (value : α) :
    table.find? name = some value ↔ (name, value) ∈ table := by
  induction table with
  | nil => simp
  | cons head table ih =>
      obtain ⟨other, held⟩ := head
      obtain ⟨above, rest⟩ := List.pairwise_cons.mp ordered
      rw [find?_cons, List.mem_cons]
      by_cases first : name = other
      · subst first
        have alone : (name, value) ∉ table := fun member =>
          String.lt_irrefl name (above _ member)
        simp [alone, eq_comm]
      · simp [first, ih rest]

end Names

end RequestHub
