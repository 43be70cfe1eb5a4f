import RequestHub.Proofs.Envelope.Fields
import RequestHub.Text.Percent

/-!
# Percent-encoding

In the percent-encoding of a text letters, digits and four signs stand for themselves; every other character
is written as a percent sign and two digits for each byte of its UTF-8 form.  The encoding has none of the
characters that take a query or a path apart, and it is the text itself only where nothing had to be encoded.

A component of a query may have other forms than this one: a blank may be a plus sign, digits may be small
letters, and more may be encoded than has to be.  Whatever the form, it is decoded to the text.
-/

namespace RequestHub.Text.Percent

/-- Whether a character stands for itself in every component. -/
def isUnreserved (char : Char) : Bool :=
  char.isAlphanum || ['-', '.', '_', '~'].contains char

/-- The capital hexadecimal digit of a value. -/
def digit (value : Nat) : Char :=
  Char.ofNat (if value < 10 then 0x30 + value else 0x37 + value)

/-- A byte as a percent sign and two digits. -/
def encodeByte (byte : UInt8) : List Char :=
  ['%', digit (byte.toNat / 16), digit (byte.toNat % 16)]

/-- A character that stands for itself, or the bytes of its form. -/
def encodeChar (char : Char) : List Char :=
  if isUnreserved char then [char] else (String.utf8EncodeChar char).flatMap encodeByte

/-- The percent-encoding of a text. -/
def encode (text : String) : String :=
  String.ofList (text.toList.flatMap encodeChar)

/-- Nothing in a text has to be encoded. -/
def Plain (text : String) : Prop :=
  ∀ char ∈ text.toList, isUnreserved char = true

instance (text : String) : Decidable (Plain text) :=
  List.decidableBAll (fun char => isUnreserved char = true) text.toList

/-! ## Characters of an encoding -/

theorem toNat_lt_of_isUnreserved {char : Char} (unreserved : isUnreserved char = true) :
    char.toNat < 128 := by
  -- Letters, digits and the four signs may all stand in tokens.
  have signs : ['-', '.', '_', '~'].all Method.isTokenChar = true := by decide
  apply toNat_lt_of_isTokenChar
  rw [isUnreserved, Bool.or_eq_true] at unreserved
  rcases unreserved with letter | sign
  · rw [Method.isTokenChar, letter, Bool.true_or]
  · exact List.all_eq_true.mp signs char (List.contains_iff_mem.mp sign)

/-- What is true of the unreserved characters of the ASCII range is true of all unreserved characters. -/
theorem forall_unreserved
    (holds : Char → Prop)
    (each : ∀ number < 128, isUnreserved (Char.ofNat number) = true → holds (Char.ofNat number))
    {char : Char} (unreserved : isUnreserved char = true) : holds char := by
  have image := each char.toNat (toNat_lt_of_isUnreserved unreserved)
  rw [Char.ofNat_toNat] at image
  exact image unreserved

/-- A character that stands for itself is one byte, which is no percent sign. -/
theorem utf8EncodeChar_of_isUnreserved {char : Char} (unreserved : isUnreserved char = true) :
    ∃ byte, String.utf8EncodeChar char = [byte] ∧ byte ≠ 0x25 := by
  refine forall_unreserved
    (fun char => ∃ byte, String.utf8EncodeChar char = [byte] ∧ byte ≠ 0x25) ?_ unreserved
  intro number small unreserved
  have bytes : ∀ number < 128, isUnreserved (Char.ofNat number) = true →
      String.utf8EncodeChar (Char.ofNat number) = [.ofNat number] ∧ UInt8.ofNat number ≠ 0x25 := by
    decide +kernel
  exact ⟨_, bytes number small unreserved⟩

/-- The hexadecimal digit of a value, as a capital or a small letter if it is one. -/
def IsDigit (value : Nat) (char : Char) : Prop :=
  char = digit value ∨ char = (digit value).toLower

/-- Digits are plain, and they are read as their values. -/
theorem isDigit_spec {value : Nat} (small : value < 16) {char : Char} (spelled : IsDigit value char) :
    isUnreserved char = true ∧
      ∃ byte, String.utf8EncodeChar char = [byte] ∧ hexValue? byte = some value := by
  -- A list of two characters is gone through, and not all characters that there are.
  have each : ∀ value < 16, [digit value, (digit value).toLower].all fun char =>
      isUnreserved char && String.utf8EncodeChar char == [.ofNat char.toNat] &&
        hexValue? (.ofNat char.toNat) == some value := by
    decide +kernel
  have known := List.all_eq_true.mp (each value small) char (by simpa [IsDigit] using spelled)
  simp only [Bool.and_eq_true, beq_iff_eq] at known
  obtain ⟨⟨unreserved, form⟩, read⟩ := known
  exact ⟨unreserved, _, form, read⟩

/-- An encoding consists of unreserved characters and percent signs. -/
theorem mem_encode {text : String} {char : Char} (member : char ∈ (encode text).toList) :
    isUnreserved char = true ∨ char = '%' := by
  rw [encode, String.toList_ofList, List.mem_flatMap] at member
  obtain ⟨source, -, member⟩ := member
  unfold encodeChar at member
  split at member
  · rename_i unreserved
    rw [List.mem_singleton.mp member]
    exact Or.inl unreserved
  · obtain ⟨byte, -, member⟩ := List.mem_flatMap.mp member
    have small : byte.toNat < 256 := byte.toNat_lt
    have high := (isDigit_spec (show byte.toNat / 16 < 16 by omega) (.inl rfl)).1
    have low := (isDigit_spec (show byte.toNat % 16 < 16 by omega) (.inl rfl)).1
    simp only [encodeByte, List.mem_cons, List.not_mem_nil, or_false] at member
    rcases member with rfl | rfl | rfl
    · exact Or.inr rfl
    · exact Or.inl high
    · exact Or.inl low

/-- An encoding has no character that is neither unreserved nor a percent sign. -/
theorem not_mem_encode
    {char : Char} (reserved : isUnreserved char = false) (other : char ≠ '%') (text : String) :
    char ∉ (encode text).toList := by
  intro member
  rcases mem_encode member with unreserved | same
  · rw [reserved] at unreserved
    cases unreserved
  · exact other same

/-! ## Where nothing is encoded -/

theorem length_encodeChar_pos (char : Char) :
    0 < (encodeChar char).length ∧
      (isUnreserved char = false → 1 < (encodeChar char).length) := by
  unfold encodeChar
  split
  · rename_i unreserved
    exact ⟨Nat.one_pos, fun reserved => by rw [unreserved] at reserved; cases reserved⟩
  · have some_byte : 0 < (String.utf8EncodeChar char).length := by
      rw [String.length_utf8EncodeChar]
      exact char.utf8Size_pos
    have three : ((String.utf8EncodeChar char).flatMap encodeByte).length =
        3 * (String.utf8EncodeChar char).length := by
      induction String.utf8EncodeChar char with
      | nil => rfl
      | cons byte bytes ih =>
          rw [List.flatMap_cons, List.length_append, ih, List.length_cons, encodeByte]
          simp only [List.length_cons, List.length_nil]
          omega
    rw [three]
    exact ⟨by omega, fun _ => by omega⟩

/-- A text is its own encoding exactly if nothing in it has to be encoded. -/
theorem encode_eq_iff (text : String) : encode text = text ↔ Plain text := by
  rw [← String.toList_inj, encode, String.toList_ofList, Plain]
  constructor
  · intro same
    have lengths := congrArg List.length same
    clear same
    -- Every character is encoded by at least one, and a reserved one by more.
    have longer (chars : List Char) : chars.length ≤ (chars.flatMap encodeChar).length := by
      induction chars with
      | nil => exact Nat.le_refl _
      | cons char chars ih =>
          have first := (length_encodeChar_pos char).1
          rw [List.flatMap_cons, List.length_append, List.length_cons]
          omega
    generalize text.toList = chars at lengths
    induction chars with
    | nil => exact fun _ member => absurd member List.not_mem_nil
    | cons char chars ih =>
        have others := longer chars
        rw [List.flatMap_cons, List.length_append, List.length_cons] at lengths
        obtain ⟨first, more⟩ := length_encodeChar_pos char
        refine List.forall_mem_cons.mpr ⟨?_, ih (by omega)⟩
        refine Decidable.byContradiction fun reserved => ?_
        have longest := more (Bool.eq_false_iff.mpr reserved)
        omega
  · intro plain
    generalize text.toList = chars at plain
    induction chars with
    | nil => rfl
    | cons char chars ih =>
        obtain ⟨first, others⟩ := List.forall_mem_cons.mp plain
        rw [List.flatMap_cons, encodeChar, if_pos first, ih others, List.singleton_append]

theorem encode_ne_empty {text : String} (filled : text ≠ "") : encode text ≠ "" := by
  rw [ne_eq, encode, String.ofList_eq_empty_iff, List.flatMap_eq_nil_iff]
  intro none
  cases spelled : text.toList with
  | nil => exact filled (String.toList_eq_nil_iff.mp spelled)
  | cons char chars =>
      have first := (length_encodeChar_pos char).1
      rw [none char (by simp [spelled])] at first
      exact absurd first (Nat.lt_irrefl 0)

/-! ## Forms -/

/-- A byte in the form of a percent sign and two digits. -/
inductive ByteForm (byte : UInt8) : List Char → Prop where
  | digits {high low : Char}
      (first : IsDigit (byte.toNat / 16) high)
      (second : IsDigit (byte.toNat % 16) low) :
      ByteForm byte ['%', high, low]

/-- Bytes in the forms of each of them. -/
inductive BytesForm : Bytes → List Char → Prop where
  | nil : BytesForm [] []
  | cons {byte : UInt8} {bytes : Bytes} {form others : List Char}
      (first : ByteForm byte form)
      (rest : BytesForm bytes others) :
      BytesForm (byte :: bytes) (form ++ others)

/-- A character in a form that it may have in a component of a query. -/
inductive CharForm (char : Char) : List Char → Prop where
  | itself (unreserved : isUnreserved char = true) : CharForm char [char]
  | blank (blank : char = ' ') : CharForm char ['+']
  | encoded {form : List Char} (bytes : BytesForm (String.utf8EncodeChar char) form) :
      CharForm char form

/-- A text in the forms of its characters. -/
inductive Form : List Char → List Char → Prop where
  | nil : Form [] []
  | cons {char : Char} {chars form others : List Char}
      (first : CharForm char form)
      (rest : Form chars others) :
      Form (char :: chars) (form ++ others)

theorem bytesForm_encodeByte (bytes : Bytes) : BytesForm bytes (bytes.flatMap encodeByte) := by
  induction bytes with
  | nil => exact .nil
  | cons byte bytes ih => exact .cons (.digits (.inl rfl) (.inl rfl)) ih

/-- The percent-encoding of a text is one of its forms. -/
theorem form_encode (text : String) : Form text.toList (encode text).toList := by
  rw [encode, String.toList_ofList]
  induction text.toList with
  | nil => exact .nil
  | cons char chars ih =>
      refine .cons ?_ ih
      unfold encodeChar
      split
      · rename_i unreserved
        exact .itself unreserved
      · exact .encoded (bytesForm_encodeByte _)

/-! ## Characters of forms -/

theorem BytesForm.mem
    {bytes : Bytes} {form : List Char} (spelled : BytesForm bytes form) {char : Char}
    (member : char ∈ form) : isUnreserved char = true ∨ char = '%' := by
  induction spelled with
  | nil => exact absurd member List.not_mem_nil
  | @cons byte bytes form others first _ ih =>
      rcases List.mem_append.mp member with here | later
      · obtain ⟨high, low⟩ := first
        have small : byte.toNat < 256 := byte.toNat_lt
        have high := (isDigit_spec (by omega) high).1
        have low := (isDigit_spec (by omega) low).1
        simp only [List.mem_cons, List.not_mem_nil, or_false] at here
        rcases here with rfl | rfl | rfl
        · exact .inr rfl
        · exact .inl high
        · exact .inl low
      · exact ih later

/-- A form consists of unreserved characters, percent signs and plus signs. -/
theorem Form.mem
    {chars form : List Char} (spelled : Form chars form) {char : Char} (member : char ∈ form) :
    isUnreserved char = true ∨ char = '%' ∨ char = '+' := by
  induction spelled with
  | nil => exact absurd member List.not_mem_nil
  | cons first _ ih =>
      rcases List.mem_append.mp member with here | later
      · cases first with
        | itself unreserved =>
            rw [List.mem_singleton.mp here]
            exact .inl unreserved
        | blank => exact .inr (.inr (List.mem_singleton.mp here))
        | encoded bytes => exact (bytes.mem here).imp_right .inl
      · exact ih later

/-- A form has no reserved character besides these two signs. -/
theorem Form.not_mem
    {chars form : List Char} (spelled : Form chars form) {char : Char}
    (reserved : isUnreserved char = false) (percent : char ≠ '%') (plus : char ≠ '+') :
    char ∉ form := by
  intro member
  rcases spelled.mem member with unreserved | same | same
  · rw [reserved] at unreserved
    cases unreserved
  · exact percent same
  · exact plus same

/-! ## Decoding -/

theorem decodeBytes_cons {byte : UInt8} (other : byte ≠ 0x25) (rest : Bytes) :
    decodeBytes (byte :: rest) = byte :: decodeBytes rest := by
  match rest with
  | [] => rfl
  | [_] => rfl
  | _ :: _ :: _ => rw [decodeBytes, if_neg other]

/-- Plus signs apart, nothing in a form is changed before it is decoded. -/
theorem spaced_of_not_mem {form : List Char} (no_plus : '+' ∉ form) : spaced form = form := by
  have kept : ∀ char ∈ form, (if char = '+' then ' ' else char) = id char := by
    intro char member
    have other : char ≠ '+' := fun plus => no_plus (plus ▸ member)
    rw [if_neg other, id]
  rw [spaced, List.map_congr_left kept, List.map_id]

theorem ByteForm.decodeBytes
    {byte : UInt8} {form : List Char} (spelled : ByteForm byte form) (rest : Bytes) :
    decodeBytes (form.flatMap String.utf8EncodeChar ++ rest) = byte :: Percent.decodeBytes rest := by
  obtain ⟨high, low⟩ := spelled
  have small : byte.toNat < 256 := byte.toNat_lt
  obtain ⟨-, first, firstForm, firstValue⟩ := isDigit_spec (by omega) high
  obtain ⟨-, second, secondForm, secondValue⟩ := isDigit_spec (by omega) low
  have percent : String.utf8EncodeChar '%' = [0x25] := by decide
  have whole : UInt8.ofNat (byte.toNat / 16 * 16 + byte.toNat % 16) = byte := by
    rw [Nat.mul_comm, Nat.div_add_mod]
    exact UInt8.ofNat_toNat
  simp only [List.flatMap_cons, List.flatMap_nil, percent, firstForm, secondForm,
    List.cons_append, List.nil_append]
  rw [Percent.decodeBytes, if_pos rfl, firstValue, secondValue]
  simp only [whole]

theorem BytesForm.decodeBytes
    {bytes : Bytes} {form : List Char} (spelled : BytesForm bytes form) (rest : Bytes) :
    decodeBytes (form.flatMap String.utf8EncodeChar ++ rest) = bytes ++ Percent.decodeBytes rest := by
  induction spelled with
  | nil => rfl
  | cons first _ ih =>
      rw [List.flatMap_append, List.append_assoc, first.decodeBytes, ih]
      rfl

theorem CharForm.decodeBytes
    {char : Char} {form : List Char} (spelled : CharForm char form) (rest : Bytes) :
    decodeBytes ((spaced form).flatMap String.utf8EncodeChar ++ rest) =
      String.utf8EncodeChar char ++ Percent.decodeBytes rest := by
  cases spelled with
  | itself unreserved =>
      obtain ⟨byte, form, other⟩ := utf8EncodeChar_of_isUnreserved unreserved
      have no_plus : '+' ∉ [char] := by
        intro plus
        rw [← List.mem_singleton.mp plus] at unreserved
        cases unreserved
      rw [spaced_of_not_mem no_plus, List.flatMap_singleton, form]
      exact decodeBytes_cons other rest
  | blank same =>
      have blank : String.utf8EncodeChar ' ' = [0x20] := by decide
      rw [same, show spaced ['+'] = [' '] from rfl, List.flatMap_singleton, blank]
      exact decodeBytes_cons (by decide) rest
  | encoded bytes =>
      have no_plus : '+' ∉ form := by
        intro plus
        rcases bytes.mem plus with unreserved | percent
        · cases unreserved
        · cases percent
      rw [spaced_of_not_mem no_plus, bytes.decodeBytes]

theorem Form.decodeBytes {chars form : List Char} (spelled : Form chars form) :
    decodeBytes ((spaced form).flatMap String.utf8EncodeChar) = chars.flatMap String.utf8EncodeChar := by
  induction spelled with
  | nil => rfl
  | cons first _ ih =>
      rw [spaced, List.map_append, List.flatMap_append]
      exact (first.decodeBytes _).trans (by rw [← spaced, ih, List.flatMap_cons])

/-- A form of a text is decoded to the text. -/
theorem decodeForm_of_form {text : String} {form : List Char} (spelled : Form text.toList form) :
    decodeForm form = text := by
  have decoded : Percent.decodeBytes (Bytes.ofString (String.ofList (spaced form))) =
      Bytes.ofString text := by
    rw [Bytes.ofString_ofList, spelled.decodeBytes]
    rfl
  rw [decodeForm, decoded, Bytes.decode?_ofString]
  rfl

end RequestHub.Text.Percent
