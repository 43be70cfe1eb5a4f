import RequestHub.Json.Reader

/-!
# Readers that take bytes

A reader `Takes` some bytes if it reads them from the front of any text and leaves what stands behind
them, as far as that is of a kind.  Readers in sequence take one part after another, so what a reader
takes is put together in the way in which the reader is.
-/

namespace RequestHub.Json

namespace Reader

variable {α β : Type} {behind middle : Bytes → Prop}

/-- A reader takes some bytes, whatever of a kind stands behind them, and gives a value for them. -/
def Takes (behind : Bytes → Prop) (reader : Reader α) (taken : Bytes) (value : α) : Prop :=
  ∀ rest position, behind rest →
    ∃ reached, reader ⟨taken ++ rest, position⟩ = (.ok value, ⟨rest, reached⟩)

/-- What may stand behind a string: anything. -/
def Anything : Bytes → Prop :=
  fun _ => True

/-- A byte stands at the front. -/
def At (byte : UInt8) : Bytes → Prop :=
  fun rest => rest.head? = some byte

theorem bind_of_ok
    {reader : Reader α} {next : α → Reader β} {cursor reached : Cursor} {part : α}
    (read : reader cursor = (.ok part, reached)) : (reader >>= next) cursor = next part reached := by
  change ExceptT.bind reader next cursor = _
  simp only [ExceptT.bind, ExceptT.mk, bind, StateT.bind]
  rw [read]
  rfl

/-- One part after another; behind the first part stands the second. -/
theorem Takes.bind
    {reader : Reader α} {next : α → Reader β} {front back : Bytes} {part : α} {value : β}
    (first : Takes middle reader front part) (second : Takes behind (next part) back value)
    (meets : ∀ rest, behind rest → middle (back ++ rest)) :
    Takes behind (reader >>= next) (front ++ back) value := by
  intro rest position follows
  obtain ⟨between, read⟩ := first (back ++ rest) position (meets rest follows)
  obtain ⟨reached, finished⟩ := second rest between follows
  exact ⟨reached, by rw [List.append_assoc, bind_of_ok read, finished]⟩

/-- Nothing is taken by the first part, which only looks at what the second one takes. -/
theorem Takes.bind_nil_left
    {reader : Reader α} {next : α → Reader β} {back : Bytes} {part : α} {value : β}
    (first : Takes middle reader [] part) (second : Takes behind (next part) back value)
    (meets : ∀ rest, behind rest → middle (back ++ rest)) :
    Takes behind (reader >>= next) back value :=
  first.bind second meets

/-- Nothing is taken by the second part, so the same stands behind both. -/
theorem Takes.bind_nil_right
    {reader : Reader α} {next : α → Reader β} {front : Bytes} {part : α} {value : β}
    (first : Takes middle reader front part) (second : Takes behind (next part) [] value)
    (meets : ∀ rest, behind rest → middle rest) :
    Takes behind (reader >>= next) front value := by
  have whole := first.bind second meets
  rwa [List.append_nil] at whole

theorem Takes.pure (value : α) : Takes behind (pure value) [] value :=
  fun _ position _ => ⟨position, rfl⟩

/-- What is done with the value that was read takes nothing more. -/
theorem Takes.map
    {reader : Reader α} {taken : Bytes} {part : α} (takes : Takes behind reader taken part)
    (change : α → β) :
    Takes behind (do return change (← reader)) taken (change part) :=
  takes.bind_nil_right (Takes.pure (change part)) fun _ follows => follows

theorem Takes.of_behind
    {reader : Reader α} {taken : Bytes} {value : α} (takes : Takes middle reader taken value)
    (weaker : ∀ rest, behind rest → middle rest) : Takes behind reader taken value :=
  fun rest position follows => takes rest position (weaker rest follows)

theorem Takes.placed
    {reader : Reader α} {taken : Bytes} {value : α} (takes : Takes behind reader taken value) :
    Takes behind (Reader.placed reader) taken value := by
  intro rest position follows
  obtain ⟨reached, read⟩ := takes rest position follows
  refine ⟨reached, ?_⟩
  rw [Reader.placed, read]

theorem Takes.thenEnd
    {reader : Reader α} {ending : Reader Unit} {front back : Bytes} {value : α}
    (takes : Takes middle reader front value) (ends : Takes behind ending back ())
    (meets : ∀ rest, behind rest → middle (back ++ rest)) :
    Takes behind (Reader.thenEnd reader ending) (front ++ back) value := by
  intro rest position follows
  obtain ⟨between, read⟩ := takes (back ++ rest) position (meets rest follows)
  obtain ⟨reached, ended⟩ := ends rest between follows
  refine ⟨reached, ?_⟩
  have first : outcome reader ⟨front ++ back ++ rest, position⟩ =
      (.ok (.ok value), ⟨back ++ rest, between⟩) := by
    rw [List.append_assoc, outcome, read]
  have second : outcome ending ⟨back ++ rest, between⟩ = (.ok (.ok ()), ⟨rest, reached⟩) := by
    rw [outcome, ended]
  rw [Reader.thenEnd, bind_of_ok first, bind_of_ok second]
  rfl

/-- The byte at the front is taken, or only looked at. -/
theorem Takes.advance
    {reader : Reader α} {taken : Bytes} {value : α} (takes : Takes behind reader taken value)
    (byte : UInt8) : Takes behind (do Reader.advance; reader) (byte :: taken) value := by
  intro rest position follows
  exact takes rest (position.after byte) follows

theorem Takes.peek
    {next : Option UInt8 → Reader α} {byte : UInt8} {taken : Bytes} {value : α}
    (takes : Takes behind (next (some byte)) (byte :: taken) value) :
    Takes behind (Reader.peek >>= next) (byte :: taken) value :=
  fun rest position follows => takes rest position follows

theorem Takes.next
    {next : Option UInt8 → Reader α} {byte : UInt8} {taken : Bytes} {value : α}
    (takes : Takes behind (next (some byte)) taken value) :
    Takes behind (Reader.next >>= next) (byte :: taken) value :=
  fun rest position follows => takes rest (position.after byte) follows

/-- A reader may look at all that is not read yet, of which what it takes is the front. -/
theorem Takes.within
    {next : Cursor → Reader α} {taken : Bytes} {value : α}
    (takes : ∀ cursor, taken.length ≤ cursor.rest.length → Takes behind (next cursor) taken value) :
    Takes behind (get >>= next) taken value := by
  intro rest position follows
  have covers : taken.length ≤ (taken ++ rest).length := by
    rw [List.length_append]
    exact Nat.le_add_right _ _
  exact takes ⟨taken ++ rest, position⟩ covers rest position follows

/-- A byte that is no blank is looked at where it stands. -/
theorem skipBlanks_of_solid
    {byte : UInt8} (solid : isSpace byte = false) (rest : Bytes) (position : Position) :
    Json.skipBlanks ⟨byte :: rest, position⟩ = (.ok (some byte), ⟨byte :: rest, position⟩) := by
  change ((Except.ok (pastBlanks position (byte :: rest)).rest.head?,
    pastBlanks position (byte :: rest)) : Except Fault _ × Cursor) = _
  rw [pastBlanks, solid]
  rfl

theorem Takes.skipBlanks
    {next : Option UInt8 → Reader α} {byte : UInt8} {taken : Bytes} {value : α}
    (solid : isSpace byte = false) (takes : Takes behind (next (some byte)) (byte :: taken) value) :
    Takes behind (Json.skipBlanks >>= next) (byte :: taken) value := by
  intro rest position follows
  obtain ⟨reached, read⟩ := takes rest position follows
  exact ⟨reached, by rw [List.cons_append, bind_of_ok (skipBlanks_of_solid solid _ _)]; exact read⟩

/-- What stands behind is looked at behind the blanks in front of it, of which there are none. -/
theorem Takes.skipBlanks_behind
    {next : Option UInt8 → Reader α} {allowed : UInt8 → Prop} {value : α}
    (stands : ∀ rest, behind rest →
      ∃ byte, rest.head? = some byte ∧ isSpace byte = false ∧ allowed byte)
    (takes : ∀ byte, allowed byte → Takes behind (next (some byte)) [] value) :
    Takes behind (Json.skipBlanks >>= next) [] value := by
  intro rest position follows
  obtain ⟨byte, front, solid, fits⟩ := stands rest follows
  obtain ⟨more, rfl⟩ : ∃ more, rest = byte :: more := List.head?_eq_some_iff.mp front
  obtain ⟨reached, read⟩ := takes byte fits (byte :: more) position follows
  exact ⟨reached, by rw [List.nil_append, bind_of_ok (skipBlanks_of_solid solid _ _)]; exact read⟩

theorem Takes.skipBlanks_at
    {next : Option UInt8 → Reader α} {byte : UInt8} {value : α} (solid : isSpace byte = false)
    (takes : Takes (At byte) (next (some byte)) [] value) :
    Takes (At byte) (Json.skipBlanks >>= next) [] value := by
  refine Takes.skipBlanks_behind (fun _ follows => ⟨byte, follows, solid, Eq.refl byte⟩) ?_
  rintro _ rfl
  exact takes

/-- A byte that stands behind what is taken is seen there. -/
theorem Takes.peek_behind
    {next : Option UInt8 → Reader α} {byte : UInt8} {value : α}
    (stands : ∀ rest, behind rest → rest.head? = some byte)
    (takes : Takes behind (next (some byte)) [] value) :
    Takes behind (Reader.peek >>= next) [] value := by
  intro rest position follows
  obtain ⟨reached, read⟩ := takes rest position follows
  refine ⟨reached, ?_⟩
  have looked : Reader.peek ⟨[] ++ rest, position⟩ = (.ok (some byte), ⟨[] ++ rest, position⟩) := by
    change ((Except.ok rest.head?, _) : Except Fault _ × Cursor) = _
    rw [stands rest follows]
  rw [bind_of_ok looked, read]

end Reader

end RequestHub.Json
