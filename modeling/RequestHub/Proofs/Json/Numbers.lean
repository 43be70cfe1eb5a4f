import RequestHub.Proofs.Json.Taking

/-!
# Natural numbers are read as they were written

The decimal digits of a natural number have no zero in front, and taken one by one they give the number
back, as long as it stays below the limit of the digits that are kept.
-/

namespace RequestHub.Json

open Reader

/-- What may stand behind a value: the end of the text, a comma, or a closing mark. -/
def Delimited (rest : Bytes) : Prop :=
  rest.head? ∈ [none, some 0x2C, some 0x5D, some 0x7D]

/-- The bytes of the decimal digits of a natural number. -/
def digitBytes (number : Nat) : Bytes :=
  (Nat.toDigits 10 number).flatMap String.utf8EncodeChar

theorem not_digit_of_delimited {rest : Bytes} (follows : Delimited rest) :
    digit? rest.head? = none := by
  revert follows
  rw [Delimited]
  generalize rest.head? = mark
  revert mark
  decide +kernel

/-! ## Digits one by one -/

/-- A digit is one byte, which has the digit's value. -/
theorem digit_spec : ∀ value < 10,
    String.utf8EncodeChar (Char.ofNat (value + 48)) = [.ofNat (value + 48)] ∧
      digit? (some (.ofNat (value + 48))) = some value := by
  decide

theorem toNat_digit : ∀ value < 10,
    10 * 0 + ((Char.ofNat (value + 48)).toNat - '0'.toNat) = value := by
  decide

theorem digit?_of_isDigit {char : Char} (digit : char.isDigit = true) :
    ∃ byte, String.utf8EncodeChar char = [byte] ∧
      digit? (some byte) = some (char.toNat - '0'.toNat) := by
  have bounds : 48 ≤ char.toNat ∧ char.toNat ≤ 57 := by
    simpa [Char.isDigit, UInt32.le_iff_toNat_le] using digit
  have spec := digit_spec (char.toNat - 48) (by omega)
  rw [Nat.sub_add_cancel bounds.1, Char.ofNat_toNat] at spec
  exact ⟨_, spec⟩

theorem le_ofDigitChars (chars : List Char) (number : Nat) :
    number ≤ Nat.ofDigitChars 10 chars number := by
  induction chars generalizing number with
  | nil => exact Nat.le_refl _
  | cons char chars ih =>
      rw [Nat.ofDigitChars_cons]
      exact Nat.le_trans (by omega) (ih _)

/-- Digits are added to a number while the number they make stays within the limit. -/
theorem addDigits_chars
    {chars : List Char} (digits : ∀ char ∈ chars, char.isDigit = true)
    {limit number : Nat} (within : Nat.ofDigitChars 10 chars number ≤ limit)
    {rest : Bytes} (ends : digit? rest.head? = none) (count : Nat) :
    addDigits limit number count (chars.flatMap String.utf8EncodeChar ++ rest) =
      (Nat.ofDigitChars 10 chars number, count + (chars.flatMap String.utf8EncodeChar).length) := by
  induction chars generalizing number count with
  | nil =>
      cases rest with
      | nil => rfl
      | cons byte rest =>
          rw [List.head?_cons] at ends
          change addDigits limit number count (byte :: rest) = _
          rw [addDigits, ends]
          rfl
  | cons char chars ih =>
      obtain ⟨first, others⟩ := List.forall_mem_cons.mp digits
      obtain ⟨byte, form, value⟩ := digit?_of_isDigit first
      rw [Nat.ofDigitChars_cons] at within ⊢
      have kept : ¬ limit < 10 * number + (char.toNat - '0'.toNat) :=
        Nat.not_lt.mpr (Nat.le_trans (le_ofDigitChars chars _) within)
      rw [List.flatMap_cons, form, List.singleton_append, List.cons_append, addDigits, value]
      simp only [Nat.mul_comm number 10, if_neg kept, ih others within, List.length_cons]
      congr 1
      omega

theorem readDigits_takes
    {chars : List Char} (digits : ∀ char ∈ chars, char.isDigit = true)
    {limit number : Nat} (within : Nat.ofDigitChars 10 chars number ≤ limit) :
    Takes Delimited (readDigits limit number) (chars.flatMap String.utf8EncodeChar)
      (Nat.ofDigitChars 10 chars number, (chars.flatMap String.utf8EncodeChar).length) := by
  intro rest position follows
  refine ⟨⟨position.line,
    position.column + (chars.flatMap String.utf8EncodeChar).length⟩, ?_⟩
  have added := addDigits_chars digits within (not_digit_of_delimited follows) 0
  rw [Nat.zero_add] at added
  change ((Except.ok (addDigits limit number 0 (chars.flatMap String.utf8EncodeChar ++ rest)),
    ⟨(chars.flatMap String.utf8EncodeChar ++ rest).drop
        (addDigits limit number 0 (chars.flatMap String.utf8EncodeChar ++ rest)).2,
      ⟨position.line, position.column +
        (addDigits limit number 0 (chars.flatMap String.utf8EncodeChar ++ rest)).2⟩⟩) :
    Except Fault _ × Cursor) = _
  rw [added, List.drop_left]

/-! ## Whole numbers -/

/-- The digits of a number that is not zero begin with one that is not. -/
theorem toDigits_leading {number : Nat} (positive : 0 < number) :
    ∃ leading < 9, ∃ chars, Nat.toDigits 10 number = Char.ofNat (leading + 1 + 48) :: chars := by
  induction number using Nat.strongRecOn with
  | ind number ih =>
      by_cases single : number < 10
      · refine ⟨number - 1, by omega, [], ?_⟩
        have form : ∀ digit < 10, Nat.digitChar digit = Char.ofNat (digit + 48) := by decide
        rw [Nat.toDigits_of_lt_base single, form number single, Nat.sub_add_cancel positive]
      · obtain ⟨leading, small, chars, form⟩ := ih (number / 10) (by omega) (by omega)
        refine ⟨leading, small, chars ++ [(number % 10).digitChar], ?_⟩
        rw [Nat.toDigits_of_base_le (by decide) (Nat.not_lt.mp single), form, List.cons_append]

theorem digitBytes_cons (number : Nat) :
    ∃ leading < 10, ∃ more, digitBytes number = .ofNat (leading + 48) :: more := by
  rcases Nat.eq_zero_or_pos number with rfl | positive
  · exact ⟨0, by decide, [], by decide⟩
  · obtain ⟨leading, small, chars, form⟩ := toDigits_leading positive
    refine ⟨leading + 1, by omega, chars.flatMap String.utf8EncodeChar, ?_⟩
    rw [digitBytes, form, List.flatMap_cons, (digit_spec (leading + 1) (by omega)).1]
    rfl

/-- Behind the digits of a number nothing belongs to it. -/
theorem readAfterInteger_takes (number : Nat) :
    Takes Delimited (readAfterInteger false number) [] (.integer number) := by
  intro rest position follows
  have looked : peek ⟨[] ++ rest, position⟩ = (.ok rest.head?, ⟨rest, position⟩) := rfl
  refine ⟨position, ?_⟩
  rw [readAfterInteger, bind_of_ok looked]
  rw [Delimited] at follows
  generalize rest.head? = mark at follows
  simp only [List.mem_cons, List.not_mem_nil, or_false] at follows
  rcases follows with rfl | rfl | rfl | rfl <;> rfl

/-- With a sign in front it is the opposite number, as long as that is one of 64 bits. -/
theorem readAfterInteger_takes_opposite
    {number : Nat} (positive : 0 < number) (kept : number ≤ twoTo 63) :
    Takes Delimited (readAfterInteger true number) [] (.integer (-number)) := by
  intro rest position follows
  have looked : peek ⟨[] ++ rest, position⟩ = (.ok rest.head?, ⟨rest, position⟩) := rfl
  have whole : (number = 0 || twoTo 63 < number) = false := by
    simp only [Bool.or_eq_false_iff, decide_eq_false_iff_not]
    omega
  refine ⟨position, ?_⟩
  rw [readAfterInteger, bind_of_ok looked]
  rw [Delimited] at follows
  generalize rest.head? = mark at follows
  simp only [List.mem_cons, List.not_mem_nil, or_false] at follows
  rcases follows with rfl | rfl | rfl | rfl <;>
    (simp only [whole, Bool.not_true, Bool.false_eq_true, if_false]; rfl)

theorem peek_delimited {β : Type} {next : Option UInt8 → Reader β} {value : β}
    (takes : ∀ mark, digit? mark = none → Takes Delimited (next mark) [] value) :
    Takes Delimited (peek >>= next) [] value :=
  fun rest position follows => takes rest.head? (not_digit_of_delimited follows) rest position follows

/-- The digits of a number are read, unless there are more than are kept, and then what follows them. -/
theorem readNumber_takes_of
    {negative : Bool} {number : Nat} {value : Number} (kept : number ≤ greatestDigits)
    (complete : Takes Delimited (readAfterInteger negative number) [] value) :
    Takes Delimited (readNumber negative) (digitBytes number) value := by
  rcases Nat.eq_zero_or_pos number with rfl | positive
  · have zero : digitBytes 0 = [0x30] := by decide
    rw [zero]
    refine Takes.next (peek_delimited fun mark other => ?_)
    rw [other]
    exact complete
  · obtain ⟨leading, small, chars, form⟩ := toDigits_leading positive
    have spec := digit_spec (leading + 1) (by omega)
    have digits : ∀ char ∈ chars, char.isDigit = true := fun char member =>
      Nat.isDigit_of_mem_toDigits (by decide) (by decide) (form ▸ List.mem_cons_of_mem _ member)
    have given : Nat.ofDigitChars 10 chars (leading + 1) = number := by
      have whole := Nat.ofDigitChars_ten_toDigits (n := number)
      rwa [form, Nat.ofDigitChars_cons, toNat_digit (leading + 1) (by omega)] at whole
    rw [digitBytes, form, List.flatMap_cons, spec.1]
    refine Takes.next ?_
    rw [spec.2]
    have others := readDigits_takes digits (given.symm ▸ kept)
    rw [given] at others
    refine others.bind_nil_right (peek_delimited fun mark other => ?_) fun _ follows => follows
    rw [other]
    exact complete

/-- A natural number is read from its digits, unless it has more than are kept. -/
theorem readNumber_takes {number : Nat} (kept : number ≤ greatestDigits) :
    Takes Delimited (readNumber false) (digitBytes number) (.integer number) :=
  readNumber_takes_of kept (readAfterInteger_takes number)

end RequestHub.Json
