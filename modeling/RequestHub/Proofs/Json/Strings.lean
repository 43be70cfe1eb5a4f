import RequestHub.Json.Printer
import RequestHub.Proofs.Json.Taking
import RequestHub.Proofs.Text.Utf8

/-!
# Strings are read as they were written

The printer writes a character either as itself or as an escape, and the reader takes runs of bytes that
stand for themselves and escapes in turn.  Whatever the text is, it is read back.
-/

namespace RequestHub.Json

open Reader

/-! ## Characters that stand for themselves -/

/-- A character that stands for itself between quotes. -/
def IsPlainChar (char : Char) : Prop :=
  0x20 ≤ char.toNat ∧ char ≠ '"' ∧ char ≠ '\\'

instance (char : Char) : Decidable (IsPlainChar char) :=
  inferInstanceAs (Decidable (_ ∧ _))

theorem escape_of_plain {char : Char} (plain : IsPlainChar char) : escape char = [char] := by
  obtain ⟨visible, quote, backslash⟩ := plain
  have above (other : Char) (low : other.toNat < 0x20) : char ≠ other :=
    fun same => absurd visible (Nat.not_le.mpr (same ▸ low))
  have not_control : ¬ char.toNat < 0x20 := Nat.not_lt.mpr visible
  simp [escape, quote, backslash, not_control, above '\n' (by decide), above '\r' (by decide),
    above '\t' (by decide), above '\x08' (by decide), above '\x0c' (by decide)]

theorem isPlain_ofNat_of_high : ∀ number < 0x80, isPlain (.ofNat (number + 0x80)) = true := by
  decide

theorem isPlain_ofNat_of_visible : ∀ number < 0x60, number ≠ 0x02 ∧ number ≠ 0x3C →
    isPlain (.ofNat (number + 0x20)) = true := by
  decide

theorem isPlain_of_plain {char : Char} (plain : IsPlainChar char) :
    (String.utf8EncodeChar char).all isPlain = true := by
  obtain ⟨visible, quote, backslash⟩ := plain
  have valid : char.val.toNat < 0x110000 := by
    have scalar : char.val.toNat < 0xD800 ∨ _ := char.valid
    omega
  have other (named : Char) (different : char ≠ named) : char.val.toNat ≠ named.val.toNat :=
    fun same => different (Char.ext (UInt32.toNat_inj.mp same))
  have not_quote : char.val.toNat ≠ 0x22 := other _ quote
  have not_backslash : char.val.toNat ≠ 0x5C := other _ backslash
  have above : 0x20 ≤ char.val.toNat := visible
  rw [String.utf8EncodeChar]
  generalize char.val.toNat = value at *
  have high (number : Nat) (low : 0x80 ≤ number) (bound : number < 0x100) :
      isPlain (.ofNat number) = true := by
    have shifted := isPlain_ofNat_of_high (number - 0x80) (by omega)
    rwa [Nat.sub_add_cancel low] at shifted
  split
  · have itself := isPlain_ofNat_of_visible (value - 0x20) (by omega) (by omega)
    rw [Nat.sub_add_cancel above] at itself
    simp [itself]
  split
  · simp (disch := omega) only [List.all_cons, List.all_nil, high, Bool.and_self]
  split
  · simp (disch := omega) only [List.all_cons, List.all_nil, high, Bool.and_self]
  · simp (disch := omega) only [List.all_cons, List.all_nil, high, Bool.and_self]

/-- Bytes that stand for themselves are taken up to the first one that does not. -/
theorem readPlain_takes {plain : Bytes} (all : plain.all isPlain = true) :
    Takes (fun rest => ∃ byte, rest.head? = some byte ∧ isPlain byte = false) readPlain plain plain := by
  rintro rest position ⟨byte, stands, ends⟩
  obtain ⟨more, rfl⟩ : ∃ more, rest = byte :: more := List.head?_eq_some_iff.mp stands
  have taken : (plain ++ byte :: more).takeWhile isPlain = plain := by
    rw [List.takeWhile_append_of_pos (List.all_eq_true.mp all),
      List.takeWhile_cons_of_neg (by simp [ends]), List.append_nil]
  refine ⟨⟨position.line, position.column + plain.length⟩, ?_⟩
  change ((Except.ok ((plain ++ byte :: more).takeWhile isPlain),
    ⟨(plain ++ byte :: more).drop ((plain ++ byte :: more).takeWhile isPlain).length,
      ⟨position.line, position.column + ((plain ++ byte :: more).takeWhile isPlain).length⟩⟩) :
    Except Fault _ × Cursor) = _
  rw [taken, List.drop_left]

/-! ## Escapes -/

/-- The byte of a hexadecimal digit. -/
def hexByte (value : Nat) : UInt8 :=
  .ofNat (Nat.digitChar value).toNat

theorem hexByte_spec : ∀ value < 16,
    String.utf8EncodeChar (Nat.digitChar value) = [hexByte value] ∧
      hexDigit? (hexByte value) = some value := by
  decide

theorem readHexDigits_cons
    (first second third fourth : UInt8) (rest : Bytes) (position : Position) :
    readHexDigits ⟨first :: second :: third :: fourth :: rest, position⟩ =
      (match hexDigit? first, hexDigit? second, hexDigit? third, hexDigit? fourth with
        | some a, some b, some c, some d => (pure (a * 4096 + b * 256 + c * 16 + d) : Reader Nat)
        | _, _, _, _ => failHere .escapeInvalid)
        ⟨rest, (((position.after first).after second).after third).after fourth⟩ :=
  rfl

theorem readHexDigits_takes
    {first second third fourth : UInt8} {a b c d : Nat}
    (one : hexDigit? first = some a) (two : hexDigit? second = some b)
    (three : hexDigit? third = some c) (four : hexDigit? fourth = some d) :
    Takes Anything readHexDigits [first, second, third, fourth] (a * 4096 + b * 256 + c * 16 + d) := by
  intro rest position _
  refine ⟨(((position.after first).after second).after third).after fourth, ?_⟩
  rw [List.cons_append, List.cons_append, List.cons_append, List.cons_append, List.nil_append,
    readHexDigits_cons, one, two, three, four]
  rfl

theorem nextOfString_takes (byte : UInt8) : Takes Anything nextOfString [byte] byte :=
  fun _ position _ => ⟨position.after byte, rfl⟩

/-- An escape by letter is read as the byte that it stands for. -/
theorem readEscape_letter
    {letter byte : UInt8} (other : letter ≠ 0x75) (known : escaped? letter = some byte) :
    Takes Anything readEscape [letter] [byte] := by
  refine (nextOfString_takes letter).bind ?_ fun _ follows => follows
  rw [if_neg other, known]
  exact Takes.pure [byte]

/-- An escape by number is read as the control character with the number. -/
theorem readEscape_number {number : Nat} (control : number < 0x20) :
    Takes Anything readEscape [0x75, 0x30, 0x30, hexByte (number / 16), hexByte (number % 16)]
      (String.utf8EncodeChar (Char.ofNat number)) := by
  have high := (hexByte_spec (number / 16) (by omega)).2
  have low := (hexByte_spec (number % 16) (by omega)).2
  have whole : 0 * 4096 + 0 * 256 + number / 16 * 16 + number % 16 = number := by omega
  have digits : Takes Anything readHexDigits
      [0x30, 0x30, hexByte (number / 16), hexByte (number % 16)] number := by
    have zero : hexDigit? 0x30 = some 0 := rfl
    have read := readHexDigits_takes zero zero high low
    rwa [whole] at read
  refine (nextOfString_takes 0x75).bind ?_ fun _ follows => follows
  rw [if_pos rfl, readHexEscape]
  refine digits.bind_nil_right ?_ fun _ follows => follows
  have bounded : ¬ (0xDC00 ≤ number ∧ number ≤ 0xDFFF) := by omega
  have single : number < 0xD800 := by omega
  simp only [Bool.and_eq_true, decide_eq_true_eq, bounded, if_false, Bool.or_eq_true, single,
    true_or, if_true]
  exact Takes.pure _

/-- What is written for a character that does not stand for itself is read as the character. -/
theorem readEscape_takes {char : Char} (special : ¬ IsPlainChar char) :
    ∃ more, (escape char).flatMap String.utf8EncodeChar = 0x5C :: more ∧
      Takes Anything readEscape more (String.utf8EncodeChar char) := by
  by_cases quote : char = '"'
  · subst quote
    exact ⟨[0x22], by decide, readEscape_letter (by decide) rfl⟩
  by_cases backslash : char = '\\'
  · subst backslash
    exact ⟨[0x5C], by decide, readEscape_letter (by decide) rfl⟩
  have control : char.toNat < 0x20 := by
    refine Nat.lt_of_not_le fun visible => special ⟨visible, quote, backslash⟩
  by_cases newline : char = '\n'
  · subst newline
    exact ⟨[0x6E], by decide, readEscape_letter (by decide) rfl⟩
  by_cases back : char = '\r'
  · subst back
    exact ⟨[0x72], by decide, readEscape_letter (by decide) rfl⟩
  by_cases tab : char = '\t'
  · subst tab
    exact ⟨[0x74], by decide, readEscape_letter (by decide) rfl⟩
  by_cases erase : char = '\x08'
  · subst erase
    exact ⟨[0x62], by decide, readEscape_letter (by decide) rfl⟩
  by_cases feed : char = '\x0c'
  · subst feed
    exact ⟨[0x66], by decide, readEscape_letter (by decide) rfl⟩
  have high := (hexByte_spec (char.toNat / 16) (by omega)).1
  have low := (hexByte_spec (char.toNat % 16) (by omega)).1
  have number := readEscape_number control
  rw [Char.ofNat_toNat] at number
  refine ⟨_, ?_, number⟩
  have start : ['\\', 'u', '0', '0'].flatMap String.utf8EncodeChar = [0x5C, 0x75, 0x30, 0x30] := by
    decide
  simp only [escape, quote, backslash, newline, back, tab, erase, feed, control, if_false, if_true,
    List.flatMap_append, start]
  simp [controlDigits, high, low]

/-! ## Whole strings -/

/-- The bytes that are written for characters between quotes. -/
def written (chars : List Char) : Bytes :=
  (chars.flatMap escape).flatMap String.utf8EncodeChar

@[simp]
theorem written_append (front back : List Char) :
    written (front ++ back) = written front ++ written back := by
  simp [written]

theorem written_of_plain {plain : List Char} (all : ∀ char ∈ plain, IsPlainChar char) :
    written plain = plain.flatMap String.utf8EncodeChar := by
  have themselves : plain.flatMap escape = plain := by
    induction plain with
    | nil => rfl
    | cons first plain ih =>
        obtain ⟨visible, others⟩ := List.forall_mem_cons.mp all
        rw [List.flatMap_cons, escape_of_plain visible, ih others]
        rfl
  rw [written, themselves]

theorem all_isPlain_of_plain {plain : List Char} (all : ∀ char ∈ plain, IsPlainChar char) :
    (plain.flatMap String.utf8EncodeChar).all isPlain = true := by
  rw [List.all_flatMap]
  exact List.all_eq_true.mpr fun char member => isPlain_of_plain (all char member)

/-- Characters are plain up to the first one that is not. -/
theorem plain_or_special (chars : List Char) :
    (∀ char ∈ chars, IsPlainChar char) ∨
      ∃ plain special others, chars = plain ++ special :: others ∧
        (∀ char ∈ plain, IsPlainChar char) ∧ ¬ IsPlainChar special := by
  induction chars with
  | nil => exact .inl fun char member => absurd member List.not_mem_nil
  | cons first chars ih =>
      by_cases plain : IsPlainChar first
      · rcases ih with all | ⟨before, special, others, rfl, all, odd⟩
        · exact .inl (List.forall_mem_cons.mpr ⟨plain, all⟩)
        · exact .inr ⟨first :: before, special, others, rfl, List.forall_mem_cons.mpr ⟨plain, all⟩,
            odd⟩
      · exact .inr ⟨[], first, chars, rfl, fun char member => absurd member List.not_mem_nil, plain⟩

/-- One run of plain bytes, and what is done with the byte that ends it. -/
theorem readStringBytes_succ (fuel : Nat) :
    readStringBytes (fuel + 1) = (do
      let plain ← readPlain
      match ← peek with
      | none => failHere .stringEnds
      | some byte =>
          if byte = 0x22 then return plain
          else if byte = 0x5C then do
            advance
            let escape ← readEscape
            let others ← readStringBytes fuel
            return plain ++ escape ++ others
          else do
            advance
            failHere .controlCharacter) := by
  delta readStringBytes
  refine congrArg (readPlain >>= ·) (funext fun plain => congrArg (peek >>= ·) (funext fun mark => ?_))
  cases mark with
  | none => rfl
  | some byte => rfl

/-- The inside of a string is read as the form of its text; every escape needs one step. -/
theorem readStringBytes_takes (chars : List Char) {fuel : Nat} (enough : chars.length < fuel) :
    Takes (At 0x22) (readStringBytes fuel) (written chars)
      (chars.flatMap String.utf8EncodeChar) := by
  induction fuel generalizing chars with
  | zero => exact absurd enough (Nat.not_lt_zero _)
  | succ fuel ih =>
      rw [readStringBytes_succ]
      rcases plain_or_special chars with all | ⟨plain, special, others, rfl, all, odd⟩
      · rw [written_of_plain all]
        refine (readPlain_takes (all_isPlain_of_plain all)).bind_nil_right
          (Takes.peek_behind (fun _ follows => follows) ?_) fun _ follows => ⟨0x22, follows, rfl⟩
        exact Takes.pure _
      · obtain ⟨more, form, escaped⟩ := readEscape_takes odd
        have shorter : others.length < fuel := by
          simp only [List.length_append, List.length_cons] at enough
          omega
        have split : written (plain ++ special :: others) =
            plain.flatMap String.utf8EncodeChar ++ (0x5C :: (more ++ written others)) := by
          rw [written_append, written_of_plain all, ← List.cons_append, ← form]
          simp [written]
        rw [split]
        refine (readPlain_takes (all_isPlain_of_plain all)).bind (Takes.peek ?_)
          fun _ _ => ⟨0x5C, rfl, rfl⟩
        refine Takes.advance ?_ 0x5C
        refine escaped.bind ?_ fun _ _ => trivial
        have whole := (ih others shorter).map fun others =>
          plain.flatMap String.utf8EncodeChar ++ String.utf8EncodeChar special ++ others
        simpa [List.append_assoc] using whole

theorem length_le_written (chars : List Char) : chars.length ≤ (written chars).length := by
  induction chars with
  | nil => exact Nat.le_refl _
  | cons char chars ih =>
      have visible : 0 < (written [char]).length := by
        by_cases plain : IsPlainChar char
        · rw [written_of_plain (List.forall_mem_singleton.mpr plain)]
          simp [String.length_utf8EncodeChar, Char.utf8Size_pos]
        · obtain ⟨more, form, _⟩ := readEscape_takes plain
          simp [written, form]
      have split : written (char :: chars) = written [char] ++ written chars :=
        written_append [char] chars
      rw [split, List.length_append, List.length_cons]
      omega

/-- A string is read as the text that was written. -/
theorem readString_takes (text : String) :
    Takes Anything readString (written text.toList ++ [0x22]) text := by
  refine Takes.within fun cursor covers => ?_
  have enough : text.toList.length < cursor.rest.length + 1 := by
    have length := length_le_written text.toList
    rw [List.length_append] at covers
    omega
  refine (readStringBytes_takes text.toList enough).bind ?_ fun _ _ => rfl
  have spelled : Bytes.decode? (text.toList.flatMap String.utf8EncodeChar) = some text :=
    Bytes.decode?_ofString text
  rw [spelled]
  exact Takes.advance (Takes.pure text) 0x22

end RequestHub.Json
