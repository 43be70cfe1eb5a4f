import RequestHub.Proofs.Json.Progress

/-!
# Readers that follow another one

A reader for a known shape goes through a text as the reader of any value does, only that it refuses more.
`Mirrors` says so of two readers: where the first one gives something, the second one gives what belongs to
it, and both leave the same part of the text.  What is put together in the same way of readers that mirror
each other mirrors each other.

What stands at the cursor decides what is read there, and blanks in front of it do not count: a value is
known by its first byte, and in front of the end of an array or object nothing more is read.
-/

namespace RequestHub.Json

namespace Reader

variable {α β γ δ : Type} {reader : Reader α} {other : Reader β} {step : α → Reader γ}
  {following : β → Reader δ} {related : α → β → Prop} {result : γ → δ → Prop}

/-- Whatever a reader gives, another one gives what is related to it, and leaves the same. -/
def Mirrors
    (related : α → β → Prop)
    (reader : Reader α)
    (other : Reader β) : Prop :=
  ∀ cursor value reached, reader cursor = (.ok value, reached) →
    ∃ image, other cursor = (.ok image, reached) ∧ related value image

/-- Two readers in sequence give something exactly if both do, one after the other. -/
theorem bind_eq_ok_iff
    {cursor reached : Cursor}
    {value : γ} :
    (reader >>= step) cursor = (.ok value, reached) ↔
      ∃ part between, reader cursor = (.ok part, between) ∧
        step part between = (.ok value, reached) := by
  rcases here : reader cursor with ⟨fault | part, between⟩
  · rw [bind_of_error here]
    constructor
    · intro read
      cases read
    · intro both
      obtain ⟨_, _, same, -⟩ := both
      cases same
  · rw [bind_of_ok here]
    constructor
    · intro read
      exact ⟨part, between, rfl, read⟩
    · intro both
      obtain ⟨_, _, same, read⟩ := both
      cases same
      exact read

theorem Mirrors.of_fails (fails : Fails reader) : Mirrors related reader other := by
  intro cursor value reached read
  obtain ⟨fault, ended, failed⟩ := fails cursor
  rw [failed] at read
  cases read

theorem Mirrors.pure
    {value : α}
    {image : β}
    (holds : related value image) :
    Mirrors related (Pure.pure value) (Pure.pure image) := by
  intro cursor given reached read
  cases read
  exact ⟨image, rfl, holds⟩

theorem Mirrors.bind
    (first : Mirrors related reader other)
    (second : ∀ value image, related value image → Mirrors result (step value) (following image)) :
    Mirrors result (reader >>= step) (other >>= following) := by
  intro cursor value reached read
  obtain ⟨part, between, here, behind⟩ := bind_eq_ok_iff.mp read
  obtain ⟨image, there, holds⟩ := first cursor part between here
  obtain ⟨whole, finished, held⟩ := second part image holds between value reached behind
  exact ⟨whole, (bind_of_ok there).trans finished, held⟩

/-- Both begin with the same reader. -/
theorem Mirrors.same
    {following : α → Reader δ}
    (second : ∀ value, Mirrors result (step value) (following value)) :
    Mirrors result (reader >>= step) (reader >>= following) := by
  intro cursor value reached read
  obtain ⟨part, between, here, behind⟩ := bind_eq_ok_iff.mp read
  obtain ⟨whole, finished, held⟩ := second part between value reached behind
  exact ⟨whole, (bind_of_ok here).trans finished, held⟩

/-- What the second one gives may be changed. -/
theorem Mirrors.changed
    {change : β → δ}
    {result : α → δ → Prop}
    (mirrors : Mirrors related reader other)
    (holds : ∀ value seen, related value seen → result value (change seen)) :
    Mirrors result reader (do return change (← other)) := by
  intro cursor value reached read
  obtain ⟨image, there, given⟩ := mirrors cursor value reached read
  exact ⟨change image, bind_of_ok there, holds value image given⟩

/-- What the first one gives, the second one gives changed. -/
theorem Mirrors.image
    {image : α → β}
    (holds : ∀ value, related value (image value)) :
    Mirrors related reader (do return image (← reader)) := by
  intro cursor value reached read
  exact ⟨image value, bind_of_ok read, holds value⟩

/-- To place the faults of a reader changes nothing in what it gives. -/
@[simp]
theorem placed_eq_ok_iff
    {cursor reached : Cursor}
    {value : α} :
    placed reader cursor = (.ok value, reached) ↔ reader cursor = (.ok value, reached) := by
  rw [placed]
  rcases here : reader cursor with ⟨fault | part, between⟩
  · exact iff_of_false (fun read => by cases read) (fun read => by cases read)
  · exact Iff.rfl

theorem Mirrors.thenEnd
    (mirrors : Mirrors related reader other)
    (ending : Reader Unit) :
    Mirrors related (thenEnd reader ending) (thenEnd other ending) := by
  intro cursor value reached read
  obtain ⟨between, here, ended⟩ := thenEnd_eq_ok_iff.mp read
  obtain ⟨image, there, holds⟩ := mirrors cursor value between here
  exact ⟨image, thenEnd_eq_ok_iff.mpr ⟨between, there, ended⟩, holds⟩

end Reader

open Reader

/-! ## Blanks -/

theorem pastBlanks_again
    (position : Position)
    (text : Bytes) :
    pastBlanks (pastBlanks position text).position (pastBlanks position text).rest =
      pastBlanks position text := by
  induction text generalizing position with
  | nil => rfl
  | cons byte text ih =>
      rw [pastBlanks]
      split
      · exact ih _
      · rename_i solid
        rw [pastBlanks, if_neg solid]

/-- Behind blanks there are no more blanks. -/
theorem skipBlanks_again
    {cursor reached : Cursor}
    {mark : Option UInt8}
    (skipped : skipBlanks cursor = (.ok mark, reached)) :
    skipBlanks reached = (.ok mark, reached) := by
  cases skipped
  exact congrArg (fun behind : Cursor => (Except.ok behind.rest.head?, behind))
    (pastBlanks_again cursor.position cursor.rest)

/-! ## Ends of arrays and objects -/

/-- A byte that was seen behind blanks is gone when it is passed. -/
theorem length_of_advance
    {cursor between passed : Cursor}
    {byte : UInt8}
    (skipped : skipBlanks cursor = (.ok (some byte), between))
    (advanced : advance between = (.ok (), passed)) :
    passed.rest.length + 1 = between.rest.length := by
  have place : pastBlanks cursor.position cursor.rest = between := congrArg Prod.snd skipped
  have seen : (pastBlanks cursor.position cursor.rest).rest.head? = some byte :=
    Except.ok.inj (congrArg Prod.fst skipped)
  rw [place] at seen
  obtain ⟨rest, position⟩ := between
  cases rest with
  | nil => cases seen
  | cons first rest =>
      cases advanced
      rfl

/-- Either the array ends, or another item follows, behind a comma unless it is the first one. -/
theorem hasItem_eq_ok
    {first more : Bool}
    {cursor reached : Cursor}
    (asked : hasItem first cursor = (.ok more, reached)) :
    more = false ∧ skipBlanks cursor = (.ok (some 0x5D), reached) ∨
      more = true ∧ reached.rest.length + 1 ≤ cursor.rest.length + first.toNat := by
  rw [hasItem] at asked
  obtain ⟨mark, between, skipped, behind⟩ := bind_eq_ok_iff.mp asked
  have fewer := (onward_skipBlanks cursor mark between skipped).length_le
  split at behind
  · cases behind
  · cases behind
    exact Or.inl ⟨rfl, skipped⟩
  · split at behind
    · rename_i isFirst
      cases behind
      rw [isFirst]
      exact Or.inr ⟨rfl, Nat.succ_le_succ fewer⟩
    · split at behind
      · obtain ⟨_, passed, advanced, behind⟩ := bind_eq_ok_iff.mp behind
        obtain ⟨next, last, skippedAgain, behind⟩ := bind_eq_ok_iff.mp behind
        have less := (onward_skipBlanks passed next last skippedAgain).length_le
        have gone := length_of_advance skipped advanced
        split at behind
        · cases behind
        · cases behind
          refine Or.inr ⟨rfl, ?_⟩
          omega
        · cases behind
      · cases behind

/-- In front of the end of an array there are no items. -/
theorem readItems_of_closes
    {α : Type}
    {item : Reader α}
    {cursor closing : Cursor}
    (closes : skipBlanks cursor = (.ok (some 0x5D), closing))
    (first : Bool)
    (fuel : Nat) :
    ∃ last, readItems item first fuel cursor = (.ok [], last) ∧
      skipBlanks last = (.ok (some 0x5D), closing) := by
  cases fuel with
  | zero => exact ⟨cursor, rfl, closes⟩
  | succ fuel =>
      have none_follows : hasItem first cursor = (.ok false, closing) := by
        rw [hasItem, bind_of_ok closes]
        rfl
      refine ⟨closing, ?_, skipBlanks_again closes⟩
      rw [readItems, bind_of_ok none_follows]
      rfl

/-- Where an array ends does not depend on the blanks in front of its end. -/
theorem endItems_of_closes
    {left right closing : Cursor}
    (first : skipBlanks left = (.ok (some 0x5D), closing))
    (second : skipBlanks right = (.ok (some 0x5D), closing)) :
    endItems left = endItems right := by
  rw [endItems, bind_of_ok first, bind_of_ok second]

theorem skipBlanks_of_endItems
    {cursor reached : Cursor}
    (ended : endItems cursor = (.ok (), reached)) :
    ∃ closing, skipBlanks cursor = (.ok (some 0x5D), closing) := by
  rw [endItems] at ended
  obtain ⟨mark, closing, skipped, behind⟩ := bind_eq_ok_iff.mp ended
  split at behind
  · exact ⟨closing, skipped⟩
  · obtain ⟨_, passed, advanced, behind⟩ := bind_eq_ok_iff.mp behind
    obtain ⟨next, last, skippedAgain, behind⟩ := bind_eq_ok_iff.mp behind
    split at behind
    · cases behind
    · cases behind
  · cases behind
  · cases behind

/-- In front of the end of an object there are no members. -/
theorem readMembers_of_closes
    {α : Type}
    {value : Reader α}
    {cursor closing : Cursor}
    (closes : skipBlanks cursor = (.ok (some 0x7D), closing))
    (first : Bool)
    (fuel : Nat) :
    ∃ last, readMembers value first fuel cursor = (.ok [], last) ∧
      skipBlanks last = (.ok (some 0x7D), closing) := by
  cases fuel with
  | zero => exact ⟨cursor, rfl, closes⟩
  | succ fuel =>
      have none_follows : hasMember first cursor = (.ok false, closing) := by
        rw [hasMember, bind_of_ok closes]
        rfl
      refine ⟨closing, ?_, skipBlanks_again closes⟩
      rw [readMembers, bind_of_ok none_follows]
      rfl

/-! ## Values by their first byte -/

/-- What is read of a value whose first byte is at the cursor. -/
def valueAt (depth : Nat) (byte : UInt8) : Reader Json :=
  if byte = 0x6E then do advance; readWord wordNull; return .null
  else if byte = 0x74 then do advance; readWord wordTrue; return .bool true
  else if byte = 0x66 then do advance; readWord wordFalse; return .bool false
  else if byte = 0x2D then do advance; return .number (← readNumber true)
  else if (digit? (some byte)).isSome then return .number (← readNumber false)
  else if byte = 0x22 then do advance; return .string (← readString)
  else if byte = 0x5B then
    if depth = 0 then failAhead .nestingTooDeep
    else do
      advance
      let items ← thenEnd (do readItems (readValue depth) true (← itemBound)) endItems
      return .array items
  else if byte = 0x7B then
    if depth = 0 then failAhead .nestingTooDeep
    else do
      advance
      let members ← thenEnd (do readMembers (readValue depth) true (← itemBound)) endMembers
      return .ofMembers members
  else failAhead .valueMissing

theorem readValue_eq (depth : Nat) :
    readValue (depth + 1) = placed (do
      match ← skipBlanks with
      | none => failAhead .valueEnds
      | some byte => valueAt depth byte) := rfl

/-- Blanks in front of a value do not count. -/
theorem readValue_of_skipBlanks
    {depth : Nat}
    {cursor between reached : Cursor}
    {mark : Option UInt8}
    {value : Json}
    (skipped : skipBlanks cursor = (.ok mark, between))
    (read : readValue (depth + 1) between = (.ok value, reached)) :
    readValue (depth + 1) cursor = (.ok value, reached) := by
  rw [readValue_eq] at read ⊢
  rw [placed_eq_ok_iff] at read ⊢
  rw [bind_of_ok (skipBlanks_again skipped)] at read
  rw [bind_of_ok skipped]
  exact read

/-- A value whose first byte is known is read as its first byte says. -/
theorem readValue_of_valueAt
    {depth : Nat}
    {cursor between reached : Cursor}
    {byte : UInt8}
    {value : Json}
    (skipped : skipBlanks cursor = (.ok (some byte), between))
    (read : valueAt depth byte between = (.ok value, reached)) :
    readValue (depth + 1) cursor = (.ok value, reached) := by
  rw [readValue_eq, placed_eq_ok_iff, bind_of_ok skipped]
  exact read

theorem valueAt_null (depth : Nat) :
    valueAt depth 0x6E = (do advance; readWord wordNull; return .null) := rfl

theorem valueAt_true (depth : Nat) :
    valueAt depth 0x74 = (do advance; readWord wordTrue; return .bool true) := rfl

theorem valueAt_false (depth : Nat) :
    valueAt depth 0x66 = (do advance; readWord wordFalse; return .bool false) := rfl

theorem valueAt_string (depth : Nat) :
    valueAt depth 0x22 = (do advance; return .string (← readString)) := rfl

theorem valueAt_array (depth : Nat) :
    valueAt (depth + 1) 0x5B = (do
      advance
      let items ← thenEnd (do readItems (readValue (depth + 1)) true (← itemBound)) endItems
      return .array items) := rfl

theorem valueAt_object (depth : Nat) :
    valueAt (depth + 1) 0x7B = (do
      advance
      let members ← thenEnd (do readMembers (readValue (depth + 1)) true (← itemBound)) endMembers
      return .ofMembers members) := rfl

/-! ## Whole texts -/

/-- Where a reader gives something for a whole text, the reader that it mirrors gives what belongs to it. -/
theorem readWhole_of_mirrors
    {α β : Type}
    {related : α → β → Prop}
    {reader : Reader α}
    {other : Reader β}
    {text : Bytes}
    {value : α}
    (mirrors : Mirrors related reader other)
    (read : readWhole reader text = .ok value) :
    ∃ image, readWhole other text = .ok image ∧ related value image := by
  have wholes : Mirrors related
      (do
        let value ← reader
        match ← skipBlanks with
        | none => return value
        | some _ => failAhead .charactersTrailing)
      (do
        let value ← other
        match ← skipBlanks with
        | none => return value
        | some _ => failAhead .charactersTrailing) := by
    apply mirrors.bind
    intro value image holds
    apply Mirrors.same
    intro mark
    split
    · exact .pure holds
    · exact .of_fails (fails_failAhead _)
  obtain ⟨image, there, holds⟩ := wholes ⟨text, ⟨1, 0⟩⟩ value _ (Prod.ext read rfl)
  exact ⟨image, congrArg Prod.fst there, holds⟩

end RequestHub.Json
