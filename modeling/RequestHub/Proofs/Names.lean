import Mathlib.Data.List.Induction
import Mathlib.Data.List.Sort
import RequestHub.Names

/-!
# Tables of pairs

A table that is made of pairs with different names holds just those pairs, in the order of their names.
So pairs that are in that order already are the table, and tables in that order that answer every name alike
are the same.
-/

namespace RequestHub.Names

variable {α β : Type}

@[simp]
theorem find?_map (change : α → β) (table : Names α) (name : String) :
    find? name (table.map fun pair => (pair.1, change pair.2)) = (find? name table).map change := by
  induction table with
  | nil => rfl
  | cons pair table ih =>
      rw [List.map_cons, find?_cons, find?_cons, ih]
      split <;> rfl

theorem map_insert (change : α → β) (name : String) (value : α) (table : Names α) :
    (insert name value table).map (fun pair => (pair.1, change pair.2)) =
      insert name (change value) (table.map fun pair => (pair.1, change pair.2)) := by
  induction table with
  | nil => rfl
  | cons pair table ih =>
      simp only [insert, List.map_cons]
      split
      · rfl
      · split
        · rfl
        · rw [List.map_cons, ih]

/-- A name behind all others goes to the end. -/
theorem insert_behind
    {name : String} (value : α) {table : Names α} (behind : ∀ pair ∈ table, pair.1 < name) :
    insert name value table = table ++ [(name, value)] := by
  induction table with
  | nil => rfl
  | cons pair table ih =>
      obtain ⟨first, others⟩ := List.forall_mem_cons.mp behind
      have notBefore : ¬ name < pair.1 := String.lt_asymm first
      have different : name ≠ pair.1 := fun same => String.lt_irrefl name (same ▸ first)
      change (if name < pair.1 then _ else if name = pair.1 then _ else _) = _
      rw [if_neg notBefore, if_neg different, ih others]
      rfl

theorem foldl_insert_of_ordered
    (front : List (String × α)) {back : List (String × α)} (ordered : Ordered (front ++ back)) :
    back.foldl (fun table pair => insert pair.1 pair.2 table) front = front ++ back := by
  induction back generalizing front with
  | nil => rw [List.foldl_nil, List.append_nil]
  | cons pair back ih =>
      have last : insert pair.1 pair.2 front = front ++ [pair] :=
        insert_behind pair.2 fun other member =>
          (List.pairwise_append.mp ordered).2.2 other member pair List.mem_cons_self
      have moved : front ++ [pair] ++ back = front ++ pair :: back := by
        rw [List.append_assoc, List.singleton_append]
      rw [List.foldl_cons, last, ih _ (moved ▸ ordered), moved]

/-- The table of pairs that are in order is the list of the pairs. -/
theorem ofList_of_ordered {table : Names α} (ordered : table.Ordered) : ofList table = table :=
  foldl_insert_of_ordered [] ordered

/-- A new name is put somewhere among the others. -/
theorem perm_insert
    {name : String} (value : α) {table : Names α} (new : ∀ pair ∈ table, pair.1 ≠ name) :
    (insert name value table).Perm ((name, value) :: table) := by
  induction table with
  | nil => exact .refl _
  | cons pair table ih =>
      obtain ⟨first, others⟩ := List.forall_mem_cons.mp new
      change List.Perm (if name < pair.1 then _ else if name = pair.1 then _ else _) _
      rw [if_neg (Ne.symm first)]
      split
      · exact .refl _
      · exact ((ih others).cons pair).trans (.swap _ _ _)

theorem perm_foldl_insert
    (front : List (String × α)) {back : List (String × α)}
    (apart : ((front ++ back).map (·.1)).Nodup) :
    (back.foldl (fun table pair => insert pair.1 pair.2 table) front).Perm (front ++ back) := by
  induction back generalizing front with
  | nil =>
      rw [List.foldl_nil, List.append_nil]
  | cons pair back ih =>
      have new : ∀ other ∈ front, other.1 ≠ pair.1 := by
        rw [List.map_append, List.map_cons] at apart
        intro other member same
        exact (List.nodup_append.mp apart).2.2 other.1 (List.mem_map_of_mem member) pair.1
          List.mem_cons_self same
      have inserted : (insert pair.1 pair.2 front ++ back).Perm (front ++ pair :: back) :=
        ((perm_insert pair.2 new).append_right back).trans List.perm_middle.symm
      exact (ih _ ((inserted.map (·.1)).nodup_iff.mpr apart)).trans inserted

/-- The table of pairs with different names holds the pairs, in another order. -/
theorem perm_ofList {pairs : List (String × α)} (apart : (pairs.map (·.1)).Nodup) :
    (ofList pairs).Perm pairs :=
  perm_foldl_insert [] apart

/-- A name before all others is not among them. -/
theorem find?_of_before
    {name : String} {table : Names α} (before : ∀ pair ∈ table, name < pair.1) :
    find? name table = none := by
  induction table with
  | nil => rfl
  | cons pair table ih =>
      obtain ⟨first, others⟩ := List.forall_mem_cons.mp before
      have different : name ≠ pair.1 := fun same => String.lt_irrefl pair.1 (same ▸ first)
      rw [find?_cons, if_neg different, ih others]

/-- Tables whose names increase are the same if they answer every name alike. -/
theorem eq_of_find?
    {left right : Names α} (ordered : left.Ordered) (other : right.Ordered)
    (same : ∀ name, left.find? name = right.find? name) : left = right := by
  have irrefl : Std.Irrefl fun first second : String × α => first.1 < second.1 :=
    ⟨fun pair => String.lt_irrefl pair.1⟩
  have antisymm : Std.Antisymm fun first second : String × α => first.1 < second.1 :=
    ⟨fun _ _ less more => absurd more (String.lt_asymm less)⟩
  refine List.Pairwise.eq_of_mem_iff ordered other fun pair => ?_
  rw [← find?_eq_some_iff ordered, ← find?_eq_some_iff other, same]

/-- To insert what is there already changes nothing. -/
theorem insert_of_find?
    {name : String} {value : α} {table : Names α} (ordered : table.Ordered)
    (found : table.find? name = some value) : insert name value table = table := by
  refine eq_of_find? (ordered_insert ordered) ordered fun wanted => ?_
  rw [find?_insert]
  split
  · rename_i same
    rw [same, found]
  · rfl

/-! ## The last pair with a name -/

/-- The value of the last one of some pairs to have a name. -/
def lastUnder (name : String) (pairs : List (String × α)) : Option α :=
  ((pairs.filter (·.1 = name)).getLast?).map (·.2)

theorem lastUnder_eq_none_iff
    (name : String)
    (pairs : List (String × α)) :
    lastUnder name pairs = none ↔ name ∉ pairs.map (·.1) := by
  rw [lastUnder, Option.map_eq_none_iff, List.getLast?_eq_none_iff, List.filter_eq_nil_iff]
  constructor
  · intro none member
    obtain ⟨pair, inside, same⟩ := List.mem_map.mp member
    exact none pair inside (decide_eq_true same)
  · intro missing pair inside same
    exact missing (List.mem_map.mpr ⟨pair, inside, of_decide_eq_true same⟩)

/-- One more pair is the last one under its name. -/
@[simp]
theorem lastUnder_concat
    (name : String)
    (pairs : List (String × α))
    (pair : String × α) :
    lastUnder name (pairs ++ [pair]) = if name = pair.1 then some pair.2 else lastUnder name pairs := by
  rw [lastUnder, lastUnder, List.filter_append]
  by_cases same : name = pair.1
  · simp [same]
  · simp [same, Ne.symm same]

/-- A value is the last one under a name if no pair behind it has the name. -/
theorem lastUnder_eq_some_iff
    (name : String)
    (value : α)
    (pairs : List (String × α)) :
    lastUnder name pairs = some value ↔
      ∃ before after, pairs = before ++ (name, value) :: after ∧ name ∉ after.map (·.1) := by
  constructor
  · intro last
    induction pairs using List.reverseRecOn with
    | nil => cases last
    | append_singleton pairs pair ih =>
        rw [lastUnder_concat] at last
        split at last
        · rename_i same
          obtain rfl := Option.some.inj last
          exact ⟨pairs, [], by rw [same], List.not_mem_nil⟩
        · rename_i different
          obtain ⟨before, after, rfl, missing⟩ := ih last
          refine ⟨before, after ++ [pair], by simp, ?_⟩
          rw [List.map_append, List.mem_append, not_or]
          exact ⟨missing, fun here => different (List.mem_singleton.mp here)⟩
  · rintro ⟨before, after, rfl, missing⟩
    have behind : after.filter (·.1 = name) = [] := by
      rw [List.filter_eq_nil_iff]
      exact fun pair member same =>
        missing (List.mem_map.mpr ⟨pair, member, of_decide_eq_true same⟩)
    simp [lastUnder, List.filter_append, behind]

/-- A table to which pairs are added answers with the last pair of a name, or as it did before. -/
theorem find?_foldl_insert
    (name : String)
    (pairs : List (String × α))
    (table : Names α) :
    (pairs.foldl (fun table pair => insert pair.1 pair.2 table) table).find? name =
      (lastUnder name pairs).or (table.find? name) := by
  induction pairs using List.reverseRecOn with
  | nil => rfl
  | append_singleton pairs pair ih =>
      rw [List.foldl_concat, find?_insert, ih, lastUnder_concat]
      split
      · rfl
      · rfl

@[simp]
theorem find?_ofList
    (name : String)
    (pairs : List (String × α)) :
    (ofList pairs).find? name = lastUnder name pairs :=
  (find?_foldl_insert name pairs []).trans Option.or_none

/-- A table of pairs with different names answers as the list of the pairs. -/
theorem find?_ofList_of_nodup
    {pairs : List (String × α)}
    (apart : (pairs.map (·.1)).Nodup)
    (name : String) :
    (ofList pairs).find? name = find? name pairs := by
  rw [find?_ofList]
  induction pairs with
  | nil => rfl
  | cons pair pairs ih =>
      obtain ⟨once, apart⟩ := List.nodup_cons.mp apart
      rw [find?_cons, ← ih apart]
      by_cases same : name = pair.1
      · have missing : pairs.filter (fun other => other.1 = name) = [] := by
          apply List.filter_eq_nil_iff.mpr
          intro other member equal
          have named : other.1 = pair.1 := (of_decide_eq_true equal).trans same
          exact once (List.mem_map.mpr ⟨other, member, named⟩)
        rw [if_pos same, lastUnder, List.filter_cons, if_pos (decide_eq_true same.symm), missing]
        rfl
      · have passed : ¬ decide (pair.1 = name) = true := fun equal => same (of_decide_eq_true equal).symm
        rw [if_neg same, lastUnder, List.filter_cons, if_neg passed, lastUnder]

theorem ordered_ofList (pairs : List (String × α)) : Ordered (ofList pairs) := by
  induction pairs using List.reverseRecOn with
  | nil => exact List.Pairwise.nil
  | append_singleton pairs pair ih =>
      have grown : ofList (pairs ++ [pair]) = insert pair.1 pair.2 (ofList pairs) := List.foldl_concat ..
      rw [grown]
      exact ordered_insert ih

/-- A table of pairs holds only pairs that it is made of. -/
theorem mem_of_mem_ofList
    {pair : String × α}
    {pairs : List (String × α)}
    (member : pair ∈ ofList pairs) :
    pair ∈ pairs := by
  rw [← find?_eq_some_iff (ordered_ofList pairs), find?_ofList, lastUnder_eq_some_iff] at member
  obtain ⟨before, after, rfl, -⟩ := member
  exact List.mem_append_right _ List.mem_cons_self

end RequestHub.Names
