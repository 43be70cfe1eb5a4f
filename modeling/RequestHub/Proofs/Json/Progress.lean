import RequestHub.Proofs.Json.Locality
import RequestHub.Proofs.Json.Strings

/-!
# Reading goes forward

Whatever a reader gives, what it leaves of the text is an end of what it was given: no byte comes back, and
none is changed.  Readers that are put together go forward if their parts do, so that every value is
followed from the words and digits up to the objects that it is in.
-/

namespace RequestHub.Json

namespace Reader

variable {α β : Type} {reader : Reader α} {step : α → Reader β}

/-- A reader leaves an end of the text whenever it gives something. -/
def Onward (reader : Reader α) : Prop :=
  ∀ cursor value reached, reader cursor = (.ok value, reached) → reached.rest <:+ cursor.rest

theorem Onward.bind
    (first : Onward reader)
    (second : ∀ value, Onward (step value)) :
    Onward (reader >>= step) := by
  intro cursor value reached read
  generalize here : reader cursor = outcome at read
  obtain ⟨fault | part, between⟩ := outcome
  · rw [bind_of_error here] at read
    cases read
  · rw [bind_of_ok here] at read
    exact (second part between value reached read).trans (first cursor part between here)

theorem Onward.pure (value : α) : Onward (Pure.pure value) := by
  intro cursor other reached read
  cases read
  exact List.suffix_rfl

theorem Onward.of_fails (fails : Fails reader) : Onward reader := by
  intro cursor value reached read
  obtain ⟨fault, ended, failed⟩ := fails cursor
  rw [failed] at read
  cases read

theorem Onward.placed (onward : Onward reader) : Onward (Reader.placed reader) := by
  intro cursor value reached read
  rw [Reader.placed] at read
  generalize here : reader cursor = outcome at read
  obtain ⟨fault | part, between⟩ := outcome
  · cases read
  · exact onward cursor value reached (here.trans read)

/-- A reader gives something with what ends it exactly if both give something, one after the other. -/
theorem thenEnd_eq_ok_iff
    {ending : Reader Unit}
    {cursor reached : Cursor}
    {value : α} :
    thenEnd reader ending cursor = (.ok value, reached) ↔
      ∃ between, reader cursor = (.ok value, between) ∧ ending between = (.ok (), reached) := by
  rcases here : reader cursor with ⟨fault | part, between⟩
  · have kept : outcome reader cursor = (.ok (.error fault), between) := by rw [outcome, here]
    rw [thenEnd, bind_of_ok kept]
    have ended : outcome ending between = (.ok (ending between).1, (ending between).2) := rfl
    rw [bind_of_ok ended]
    constructor
    · intro read
      cases read
    · intro both
      obtain ⟨_, same, -⟩ := both
      cases same
  · have kept : outcome reader cursor = (.ok (.ok part), between) := by rw [outcome, here]
    rw [thenEnd, bind_of_ok kept]
    rcases there : ending between with ⟨fault | ⟨⟩, last⟩
    · have ended : outcome ending between = (.ok (.error fault), last) := by rw [outcome, there]
      rw [bind_of_ok ended]
      constructor
      · intro read
        cases read
      · intro both
        obtain ⟨_, same, finished⟩ := both
        cases same
        rw [there] at finished
        cases finished
    · have ended : outcome ending between = (.ok (.ok ()), last) := by rw [outcome, there]
      rw [bind_of_ok ended]
      constructor
      · intro read
        cases read
        exact ⟨between, rfl, there⟩
      · intro both
        obtain ⟨_, same, finished⟩ := both
        cases same
        rw [there] at finished
        cases finished
        rfl

theorem Onward.thenEnd
    {ending : Reader Unit}
    (first : Onward reader)
    (second : Onward ending) :
    Onward (Reader.thenEnd reader ending) := by
  intro cursor value reached read
  obtain ⟨between, here, there⟩ := thenEnd_eq_ok_iff.mp read
  exact (second between () reached there).trans (first cursor value between here)

/-- What a reader is followed by always fails. -/
theorem Fails.behind (fails : ∀ value, Fails (step value)) : Fails (reader >>= step) := by
  intro cursor
  rcases here : reader cursor with ⟨fault | part, between⟩
  · exact ⟨fault, between, bind_of_error here⟩
  · obtain ⟨fault, reached, failed⟩ := fails part between
    exact ⟨fault, reached, (bind_of_ok here).trans failed⟩

theorem Fails.placed (fails : Fails reader) : Fails (Reader.placed reader) := by
  intro cursor
  obtain ⟨fault, reached, failed⟩ := fails cursor
  refine ⟨fault.placedAt reached.position, reached, ?_⟩
  rw [Reader.placed, failed]

/-! ## Single bytes and blanks -/

theorem onward_peek : Onward peek := by
  intro cursor value reached read
  cases read
  exact List.suffix_rfl

theorem onward_advance : Onward advance := by
  intro cursor value reached read
  obtain ⟨rest, position⟩ := cursor
  cases rest with
  | nil =>
      cases read
      exact List.suffix_rfl
  | cons byte rest =>
      cases read
      exact List.suffix_cons byte rest

theorem onward_next : Onward next :=
  onward_peek.bind fun byte => onward_advance.bind fun _ => .pure byte

end Reader

open Reader

theorem pastBlanks_suffix
    (position : Position)
    (text : Bytes) :
    (pastBlanks position text).rest <:+ text := by
  induction text generalizing position with
  | nil => exact List.suffix_rfl
  | cons byte text ih =>
      rw [pastBlanks]
      split
      · exact (ih _).trans (List.suffix_cons byte text)
      · exact List.suffix_rfl

theorem onward_skipBlanks : Onward skipBlanks := by
  intro cursor value reached read
  cases read
  exact pastBlanks_suffix cursor.position cursor.rest

theorem onward_readWord (word : Bytes) : Onward (readWord word) := by
  induction word with
  | nil => exact .pure ()
  | cons expected word ih =>
      rw [readWord]
      apply onward_next.bind
      intro byte
      split
      · exact .of_fails (fails_failHere _)
      · split
        · exact ih
        · exact .of_fails (fails_failHere _)

/-! ## Numbers -/

theorem onward_skipDigits : Onward skipDigits := by
  intro cursor value reached read
  cases read
  exact List.drop_suffix _ _

theorem onward_readDigits (limit number : Nat) : Onward (readDigits limit number) := by
  intro cursor value reached read
  cases read
  exact List.drop_suffix _ _

theorem onward_readScaled (negative : Bool) (digits : Nat) (power : Int) :
    Onward (readScaled negative digits power) := by
  rw [readScaled]
  split
  · exact .of_fails (fails_failHere _)
  · exact .pure _

theorem onward_readExponentDigits (negative : Bool) (digits : Nat) (power : Int) (downward : Bool) :
    Onward (readExponentDigits negative digits power downward) := by
  rw [readExponentDigits]
  apply onward_next.bind
  intro first
  split
  · exact .of_fails (fails_failHere _)
  · exact .of_fails (fails_failHere _)
  · apply (onward_readDigits _ _).bind
    intro added
    apply onward_peek.bind
    intro mark
    split
    · apply onward_advance.bind
      intro _
      split
      · exact .of_fails (fails_failHere _)
      · exact onward_skipDigits.bind fun _ => .pure _
    · exact onward_readScaled _ _ _

theorem onward_readExponent (negative : Bool) (digits : Nat) (power : Int) :
    Onward (readExponent negative digits power) := by
  have digital := onward_readExponentDigits negative digits power
  rw [readExponent_eq]
  apply onward_advance.bind
  intro _
  apply onward_peek.bind
  intro mark
  split
  · exact onward_advance.bind fun _ => digital false
  · exact onward_advance.bind fun _ => digital true
  · exact digital false

/-- Behind the digits stands an exponent, or the number is complete. -/
theorem onward_scaled (negative : Bool) (digits : Nat) (power : Int) :
    Onward
      (do if isExponentMark (← peek) then readExponent negative digits power
          else readScaled negative digits power) := by
  apply onward_peek.bind
  intro mark
  split
  · exact onward_readExponent _ _ _
  · exact onward_readScaled _ _ _

theorem onward_readFraction (negative : Bool) (digits : Nat) (power : Int) :
    Onward (readFraction negative digits power) := by
  rw [readFraction]
  apply onward_advance.bind
  intro _
  apply (onward_readDigits _ _).bind
  intro added
  apply onward_peek.bind
  intro mark
  split
  · exact onward_skipDigits.bind fun _ => onward_scaled _ _ _
  · split
    · exact .of_fails fails_pointless
    · exact onward_scaled _ _ _

theorem onward_readAfterInteger (negative : Bool) (digits : Nat) :
    Onward (readAfterInteger negative digits) := by
  rw [readAfterInteger]
  apply onward_peek.bind
  intro mark
  split
  · exact onward_readFraction _ _ _
  · split
    · exact onward_readExponent _ _ _
    · split
      · exact .pure _
      · split
        · exact .pure _
        · exact .pure _

theorem onward_readNumber (negative : Bool) : Onward (readNumber negative) := by
  rw [readNumber]
  apply onward_next.bind
  intro first
  split
  · exact .of_fails (fails_failHere _)
  · exact .of_fails (fails_failHere _)
  · apply onward_peek.bind
    intro mark
    split
    · exact .of_fails (fails_failAhead _)
    · exact onward_readAfterInteger _ _
  · apply (onward_readDigits _ _).bind
    intro added
    apply onward_peek.bind
    intro mark
    split
    · exact onward_readAfterInteger _ _
    · apply onward_skipDigits.bind
      intro dropped
      apply onward_peek.bind
      intro mark
      split
      · exact onward_readFraction _ _ _
      · split
        · exact onward_readExponent _ _ _
        · exact onward_readScaled _ _ _

/-! ## Strings -/

/-- Four bytes are passed, and then their digits are looked at. -/
theorem onward_four (first second third fourth : UInt8) :
    Onward (do
      advance; advance; advance; advance
      match hexDigit? first, hexDigit? second, hexDigit? third, hexDigit? fourth with
      | some a, some b, some c, some d => return a * 4096 + b * 256 + c * 16 + d
      | _, _, _, _ => failHere .escapeInvalid) := by
  apply onward_advance.bind
  intro _
  apply onward_advance.bind
  intro _
  apply onward_advance.bind
  intro _
  apply onward_advance.bind
  intro _
  split
  · exact .pure _
  · exact .of_fails (fails_failHere _)

theorem onward_readHexDigits : Onward readHexDigits := by
  intro cursor value reached read
  obtain ⟨rest, position⟩ := cursor
  match rest with
  | [] => cases read
  | [_] => cases read
  | [_, _] => cases read
  | [_, _, _] => cases read
  | first :: second :: third :: fourth :: rest =>
      exact onward_four first second third fourth _ value reached read

theorem onward_nextOfString : Onward nextOfString := by
  rw [nextOfString]
  apply onward_next.bind
  intro byte
  split
  · exact .pure _
  · exact .of_fails (fails_failHere _)

theorem onward_peekOfString : Onward peekOfString := by
  rw [peekOfString]
  apply onward_peek.bind
  intro byte
  split
  · exact .pure _
  · exact .of_fails (fails_failHere _)

/-- A byte that must be a certain one is passed, or the string is refused. -/
theorem onward_expected
    {α : Type}
    {step : Reader α}
    (onward : Onward step)
    (byte : UInt8) :
    Onward (do
      if (← peekOfString) = byte then advance
      else do
        advance
        failHere .hexEscapeEnds
      step) := by
  apply onward_peekOfString.bind
  intro seen
  split
  · exact onward_advance.bind fun _ => onward
  · exact onward_advance.bind fun _ => .of_fails fun cursor => ⟨_, _, rfl⟩

theorem onward_readHexEscape : Onward readHexEscape := by
  rw [readHexEscape]
  apply onward_readHexDigits.bind
  intro unit
  split
  · exact .of_fails (fails_failHere _)
  · split
    · exact .pure _
    · apply onward_expected
      apply onward_expected
      apply onward_readHexDigits.bind
      intro second
      split
      · exact .of_fails (fails_failHere _)
      · exact .pure _

theorem onward_readEscape : Onward readEscape := by
  rw [readEscape]
  apply onward_nextOfString.bind
  intro letter
  split
  · exact onward_readHexEscape
  · split
    · exact .pure _
    · exact .of_fails (fails_failHere _)

theorem onward_readPlain : Onward readPlain := by
  intro cursor value reached read
  cases read
  exact List.drop_suffix _ _

/-- Without fuel no string is read to its end. -/
theorem fails_readStringBytes : Fails (readStringBytes 0) := by
  delta readStringBytes
  apply Fails.behind
  intro plain
  apply Fails.behind
  intro mark
  cases mark with
  | none => exact fails_failHere _
  | some byte => exact fails_failHere _

theorem onward_readStringBytes (fuel : Nat) : Onward (readStringBytes fuel) := by
  induction fuel with
  | zero => exact .of_fails fails_readStringBytes
  | succ fuel ih =>
      rw [readStringBytes_succ]
      apply onward_readPlain.bind
      intro plain
      apply onward_peek.bind
      intro mark
      split
      · exact .of_fails (fails_failHere _)
      · split
        · exact .pure _
        · split
          · apply onward_advance.bind
            intro _
            apply onward_readEscape.bind
            intro escape
            exact ih.bind fun others => .pure _
          · exact onward_advance.bind fun _ => .of_fails (fails_failHere _)

theorem onward_readString : Onward readString := by
  intro cursor value reached read
  rw [readString] at read
  change (readStringBytes (cursor.rest.length + 1) >>= _) cursor = _ at read
  refine Onward.bind (onward_readStringBytes _) ?_ cursor value reached read
  intro bytes
  split
  · exact onward_advance.bind fun _ => .pure _
  · exact .of_fails (fails_failHere _)

/-! ## Arrays and objects -/

theorem onward_hasItem (first : Bool) : Onward (hasItem first) := by
  rw [hasItem]
  apply onward_skipBlanks.bind
  intro mark
  split
  · exact .of_fails (fails_failAhead _)
  · exact .pure false
  · split
    · exact .pure true
    · split
      · apply onward_advance.bind
        intro _
        apply onward_skipBlanks.bind
        intro next
        split
        · exact .of_fails (fails_failAhead _)
        · exact .pure true
        · exact .of_fails (fails_failAhead _)
      · exact .of_fails (fails_failAhead _)

theorem onward_hasMember (first : Bool) : Onward (hasMember first) := by
  rw [hasMember]
  apply onward_skipBlanks.bind
  intro mark
  split
  · exact .of_fails (fails_failAhead _)
  · exact .pure false
  · split
    · split
      · exact .pure true
      · exact .of_fails (fails_failAhead _)
    · split
      · apply onward_advance.bind
        intro _
        apply onward_skipBlanks.bind
        intro next
        split
        · exact .pure true
        · exact .of_fails (fails_failAhead _)
        · exact .of_fails (fails_failAhead _)
        · exact .of_fails (fails_failAhead _)
      · exact .of_fails (fails_failAhead _)

theorem onward_readColon : Onward readColon := by
  rw [readColon]
  apply onward_skipBlanks.bind
  intro mark
  split
  · exact onward_advance
  · exact .of_fails (fails_failAhead _)
  · exact .of_fails (fails_failAhead _)

theorem onward_endItems : Onward endItems := by
  rw [endItems]
  apply onward_skipBlanks.bind
  intro mark
  split
  · exact onward_advance
  · apply onward_advance.bind
    intro _
    apply onward_skipBlanks.bind
    intro next
    split
    · exact .of_fails (fails_failAhead _)
    · exact .of_fails (fails_failAhead _)
  · exact .of_fails (fails_failAhead _)
  · exact .of_fails (fails_failAhead _)

theorem onward_endMembers : Onward endMembers := by
  rw [endMembers]
  apply onward_skipBlanks.bind
  intro mark
  split
  · exact onward_advance
  · exact .of_fails (fails_failAhead _)
  · exact .of_fails (fails_failAhead _)
  · exact .of_fails (fails_failAhead _)

theorem onward_itemBound : Onward itemBound := by
  intro cursor value reached read
  cases read
  exact List.suffix_rfl

variable {α : Type}

theorem onward_readItems
    {item : Reader α}
    (onward : Onward item)
    (first : Bool)
    (fuel : Nat) :
    Onward (readItems item first fuel) := by
  induction fuel generalizing first with
  | zero => exact .pure []
  | succ fuel ih =>
      rw [readItems]
      apply (onward_hasItem first).bind
      intro more
      split
      · apply onward.bind
        intro value
        exact (ih false).bind fun others => .pure _
      · exact .pure []

theorem onward_readMembers
    {value : Reader α}
    (onward : Onward value)
    (first : Bool)
    (fuel : Nat) :
    Onward (readMembers value first fuel) := by
  induction fuel generalizing first with
  | zero => exact .pure []
  | succ fuel ih =>
      rw [readMembers]
      apply (onward_hasMember first).bind
      intro more
      split
      · apply onward_advance.bind
        intro _
        apply onward_readString.bind
        intro name
        apply onward_readColon.bind
        intro _
        apply onward.bind
        intro held
        exact (ih false).bind fun others => .pure _
      · exact .pure []

/-- A value is read forward, however deep it is. -/
theorem onward_readValue (depth : Nat) : Onward (readValue depth) := by
  induction depth with
  | zero => exact .of_fails (fails_failAhead _)
  | succ depth ih =>
      rw [readValue]
      apply Onward.placed
      apply onward_skipBlanks.bind
      intro first
      split
      · exact .of_fails (fails_failAhead _)
      split
      · exact onward_advance.bind fun _ => (onward_readWord _).bind fun _ => .pure _
      split
      · exact onward_advance.bind fun _ => (onward_readWord _).bind fun _ => .pure _
      split
      · exact onward_advance.bind fun _ => (onward_readWord _).bind fun _ => .pure _
      split
      · exact onward_advance.bind fun _ => (onward_readNumber true).bind fun _ => .pure _
      split
      · exact (onward_readNumber false).bind fun _ => .pure _
      split
      · exact onward_advance.bind fun _ => onward_readString.bind fun _ => .pure _
      split
      · split
        · exact .of_fails (fails_failAhead _)
        · have inside : Onward (do readItems (readValue depth) true (← itemBound)) :=
            onward_itemBound.bind fun fuel => onward_readItems ih true fuel
          exact onward_advance.bind fun _ => (inside.thenEnd onward_endItems).bind fun _ => .pure _
      split
      · split
        · exact .of_fails (fails_failAhead _)
        · have inside : Onward (do readMembers (readValue depth) true (← itemBound)) :=
            onward_itemBound.bind fun fuel => onward_readMembers ih true fuel
          exact onward_advance.bind fun _ => (inside.thenEnd onward_endMembers).bind fun _ => .pure _
      · exact .of_fails (fails_failAhead _)

end RequestHub.Json
