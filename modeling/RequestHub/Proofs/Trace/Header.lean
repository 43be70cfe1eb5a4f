import RequestHub.Proofs.Envelope.Fields
import RequestHub.Proofs.Text.Digits
import RequestHub.Session

/-!
# Spans in header fields

A span whose numbers have room in the header field is read back from the header fields that it was written
to, whatever other fields there are and whatever was there before.  A span that is started under a parent
belongs to the trace of the parent, and is sampled if the parent is; so header fields that tell of the one
tell of the trace of the other.
-/

namespace RequestHub

/-! ## Texts of the visible range -/

/-- Characters of the visible ASCII range, and no tab. -/
def IsVisibleChar (char : Char) : Prop :=
  0x20 ≤ char.toNat ∧ char.toNat < 0x7F

/-- A text of the visible range is a value of a header field, and read back from it. -/
theorem Bytes.visibleText?_ofString
    {text : String}
    (visible : ∀ char ∈ text.toList, IsVisibleChar char) :
    (Bytes.ofString text).all Bytes.isVisible = true ∧
      Bytes.visibleText? (Bytes.ofString text) = some text := by
  have bytes : Bytes.ofString text = text.toList.map fun char => UInt8.ofNat char.toNat := by
    rw [Bytes.ofString, List.map_eq_flatMap]
    refine List.flatMap_congr fun char member => ?_
    have small := utf8EncodeChar_small char.toNat (Nat.lt_trans (visible char member).2 (by decide))
    rwa [Char.ofNat_toNat] at small
  have back (char : Char) (member : char ∈ text.toList) :
      (UInt8.ofNat char.toNat).toNat = char.toNat :=
    UInt8.toNat_ofNat_of_lt' (Nat.lt_trans (visible char member).2 (by decide))
  have all : (Bytes.ofString text).all Bytes.isVisible = true := by
    rw [bytes, List.all_map, List.all_eq_true]
    intro char member
    obtain ⟨low, high⟩ := visible char member
    simp only [Function.comp_apply, Bytes.isVisible, UInt8.le_iff_toNat_le, UInt8.lt_iff_toNat_lt,
      back char member]
    simp [low, high]
  refine ⟨all, ?_⟩
  rw [Bytes.visibleText?, if_pos all, bytes, List.map_map]
  have same : text.toList.map ((fun byte => Char.ofNat byte.toNat) ∘ fun char =>
      UInt8.ofNat char.toNat) = text.toList := by
    refine (List.map_congr_left fun char member => ?_).trans (List.map_id _)
    rw [Function.comp_apply, back char member, Char.ofNat_toNat]
    rfl
  rw [same, String.ofList_toList]

namespace Span

/-! ## Numbers in small digits -/

/-- A digit in which numbers are written. -/
def IsSmallDigit (char : Char) : Prop :=
  ∃ digit < 16, Nat.digitChar digit = char

theorem isSmallDigit_digitChar : ∀ digit < 16, IsSmallDigit (Nat.digitChar digit) :=
  fun digit below => ⟨digit, below, rfl⟩

theorem digitValue?_digitChar :
    ∀ digit < 16, Decimal.digitValue? 16 (Nat.digitChar digit) = some digit := by
  decide

theorem digitChar_spec :
    ∀ digit < 16, IsVisibleChar (Nat.digitChar digit) ∧
      Text.isBlank (Nat.digitChar digit) = false ∧ (Nat.digitChar digit).isUpper = false ∧
      Nat.digitChar digit ≠ '-' ∧ Nat.digitChar digit ≠ '+' := by
  unfold IsVisibleChar
  decide

/-- A small digit is visible, and neither blank nor a capital letter nor a sign. -/
theorem IsSmallDigit.spec {char : Char} (small : IsSmallDigit char) :
    IsVisibleChar char ∧ Text.isBlank char = false ∧ char.isUpper = false ∧ char ≠ '-' ∧
      char ≠ '+' := by
  obtain ⟨digit, below, rfl⟩ := small
  exact digitChar_spec digit below

theorem toList_hexText (width value : Nat) :
    (hexText width value).toList =
      List.replicate (width - (Nat.toDigits 16 value).length) '0' ++ Nat.toDigits 16 value :=
  String.toList_ofList

theorem isSmallDigit_of_mem_hexText
    {width value : Nat} {char : Char} (member : char ∈ (hexText width value).toList) :
    IsSmallDigit char := by
  rw [toList_hexText] at member
  rcases List.mem_append.mp member with zero | digit
  · obtain rfl := List.eq_of_mem_replicate zero
    exact isSmallDigit_digitChar 0 (by decide)
  · exact Digits.forall_mem_toDigits (by decide) isSmallDigit_digitChar value char digit

theorem hyphen_not_mem_hexText (width value : Nat) : '-' ∉ (hexText width value).toList :=
  fun member => (isSmallDigit_of_mem_hexText member).spec.2.2.2.1 rfl

/-- A number below the bound is read as it was written. -/
theorem smallHex?_hexText
    {bound value : Nat} (small : value < bound) (width : Nat) :
    smallHex? bound (hexText width value).toList = some value := by
  have noCapital : (hexText width value).toList.any Char.isUpper = false := by
    rw [List.any_eq_false]
    intro char member
    simp [(isSmallDigit_of_mem_hexText member).spec.2.2.1]
  have noSign : (hexText width value).toList.head? ≠ some '+' := by
    intro sign
    have member := List.mem_of_mem_head? (Option.mem_def.mpr sign)
    exact (isSmallDigit_of_mem_hexText member).spec.2.2.2.2 rfl
  have present : (hexText width value).toList.isEmpty = false := by
    rw [toList_hexText]
    simp
  have spelled : Decimal.natural? 16 (hexText width value).toList = some value := by
    rw [Decimal.natural?, present, toList_hexText]
    exact (Digits.spelled_zeros (by decide) _ _).trans
      (Digits.spelled_toDigits (by decide) digitValue?_digitChar value)
  rw [smallHex?, noCapital, if_neg Bool.false_ne_true, hex?, if_neg noSign, spelled]
  simp [small]

/-! ## The identifiers of a span -/

/-- A span is valid, and its numbers have room in the header field. -/
structure Fits (span : Span) : Prop where
  valid : span.isValid = true
  trace_lt : span.trace < twoTo 128
  id_lt : span.id < twoTo 64

/-- The written form of the decision on sampling. -/
def flagText (sampled : Bool) : List Char :=
  if sampled then ['0', '1'] else ['0', '0']

theorem toList_parentText (span : Span) :
    span.parentText.toList =
      ['0', '0'] ++ '-' :: ((hexText 32 span.trace).toList ++ '-' ::
        ((hexText 16 span.id).toList ++ '-' :: flagText span.sampled)) := by
  have flags : (if span.sampled then "-01" else "-00").toList = '-' :: flagText span.sampled := by
    cases span.sampled <;> rfl
  simp [parentText, traceText, String.toList_append, flags]

theorem isSmallDigit_of_mem_flagText
    {sampled : Bool} {char : Char} (member : char ∈ flagText sampled) : IsSmallDigit char := by
  have digits : char = '0' ∨ char = '1' := by cases sampled <;> simp_all [flagText]
  rcases digits with rfl | rfl
  · exact isSmallDigit_digitChar 0 (by decide)
  · exact isSmallDigit_digitChar 1 (by decide)

/-- The identifiers are digits between hyphens. -/
theorem mem_parentText
    {span : Span} {char : Char} (member : char ∈ span.parentText.toList) :
    IsSmallDigit char ∨ char = '-' := by
  have zero : IsSmallDigit '0' := isSmallDigit_digitChar 0 (by decide)
  simp only [toList_parentText, List.mem_append, List.mem_cons] at member
  rcases member with (rfl | rfl | nothing) | rfl | trace | rfl | id | rfl | flag
  · exact Or.inl zero
  · exact Or.inl zero
  · exact absurd nothing List.not_mem_nil
  · exact Or.inr rfl
  · exact Or.inl (isSmallDigit_of_mem_hexText trace)
  · exact Or.inr rfl
  · exact Or.inl (isSmallDigit_of_mem_hexText id)
  · exact Or.inr rfl
  · exact Or.inl (isSmallDigit_of_mem_flagText flag)

theorem parentText_spec
    {span : Span} {char : Char} (member : char ∈ span.parentText.toList) :
    IsVisibleChar char ∧ Text.isBlank char = false := by
  rcases mem_parentText member with digit | rfl
  · exact ⟨digit.spec.1, digit.spec.2.1⟩
  · exact ⟨⟨by decide, by decide⟩, by decide⟩

theorem pieces_parentText (span : Span) :
    pieces '-' (Text.trimBy Text.isBlank span.parentText.toList) =
      [['0', '0'], (hexText 32 span.trace).toList, (hexText 16 span.id).toList,
        flagText span.sampled] := by
  have whole : Text.trimBy Text.isBlank span.parentText.toList = span.parentText.toList :=
    Text.trimBy_of_stays fun char member => (parentText_spec member).2
  have flags : '-' ∉ flagText span.sampled := by cases span.sampled <;> decide
  -- Digits are no hyphens, so the text is cut at the hyphens between the parts and nowhere else.
  have parts : Text.cut '-' span.parentText.toList =
      [['0', '0'], (hexText 32 span.trace).toList, (hexText 16 span.id).toList,
        flagText span.sampled] := by
    rw [toList_parentText, Text.cut_append_cons (by decide),
      Text.cut_append_cons (hyphen_not_mem_hexText _ _),
      Text.cut_append_cons (hyphen_not_mem_hexText _ _), Text.cut_of_not_mem flags]
  have last : flagText span.sampled ≠ [] := by cases span.sampled <;> decide
  rw [whole, pieces, parts]
  exact if_neg fun empty => last (Option.some.inj empty)

@[simp]
theorem hex?_flagText : ∀ sampled, hex? 256 (flagText sampled) = some sampled.toNat := by decide

/-- What is written of a span is read back, but for its state. -/
theorem ofParent?_parentText {span : Span} (fits : span.Fits) :
    ofParent? span.parentText = some { span with state := [] } := by
  have version : hex? 256 ['0', '0'] = some 0 := by decide
  have few : ¬ 2 < span.sampled.toNat := by cases span.sampled <;> decide
  have sampled : decide (span.sampled.toNat % 2 = 1) = span.sampled := by
    cases span.sampled <;> rfl
  have valid : isValid ⟨span.trace, span.id, span.sampled, []⟩ = true := fits.valid
  rw [ofParent?, pieces_parentText]
  simp [version, smallHex?_hexText fits.trace_lt, smallHex?_hexText fits.id_lt, few,
    sampled, valid]

/-! ## Reading what was written -/

/-- A field is set to a text of the visible range. -/
theorem text?_setField
    {name text : String}
    (named : Headers.name? name = some name)
    (visible : ∀ char ∈ text.toList, IsVisibleChar char)
    (headers : Headers) :
    (setField headers name text).text? name = some text := by
  obtain ⟨all, read⟩ := Bytes.visibleText?_ofString visible
  have value : Headers.isValue (Bytes.ofString text) = true := by
    rw [Headers.isValue, List.all_eq_true]
    exact fun byte member => isValueByte_of_visible (List.all_eq_true.mp all byte member)
  rw [setField, named]
  simp [value, Headers.text?, Headers.first?, read]

theorem text?_setField_of_ne
    {name other text : String}
    (named : Headers.name? name = some name)
    (different : other ≠ name)
    (headers : Headers) :
    (setField headers name text).text? other = headers.text? other := by
  rw [setField, named]
  dsimp only
  split
  · simp [Headers.text?, Headers.first?, Ne.symm different]
  · rfl

@[simp]
theorem name?_parentField : Headers.name? parentField = some parentField := by decide

@[simp]
theorem name?_stateField : Headers.name? stateField = some stateField := by decide

/-- What is written of a span is found by whoever looks for one. -/
theorem extract?_inject {span : Span} (fits : span.Fits) (headers : Headers) :
    ∃ state, extract? (span.inject headers) = some { span with state } := by
  have written : (span.inject headers).text? parentField = some span.parentText := by
    rw [inject, if_pos fits.valid, text?_setField_of_ne name?_stateField (by decide)]
    exact text?_setField name?_parentField (fun char member => (parentText_spec member).1) headers
  rw [extract?, written, Option.getD_some, ofParent?_parentText fits]
  exact ⟨_, rfl⟩

/-- Header fields tell of the trace of a span, and whether it is sampled. -/
def Told (span : Span) (headers : Headers) : Prop :=
  ∃ other, extract? headers = some other ∧ other.trace = span.trace ∧ other.sampled = span.sampled

/-- A span is told in the header fields that it is written to, whatever they were before. -/
theorem told_inject {span : Span} (fits : span.Fits) (headers : Headers) :
    span.Told (span.inject headers) := by
  obtain ⟨state, found⟩ := extract?_inject fits headers
  exact ⟨_, found, rfl, rfl⟩

/-! ## Spans that are found, and spans that are started -/

theorem lt_of_hex? {bound value : Nat} {text : List Char} (read : hex? bound text = some value) :
    value < bound := by
  rw [hex?, Option.filter_eq_some_iff] at read
  exact of_decide_eq_true read.2

theorem lt_of_smallHex?
    {bound value : Nat} {text : List Char} (read : smallHex? bound text = some value) :
    value < bound := by
  rw [smallHex?] at read
  split at read
  · cases read
  · exact lt_of_hex? read

theorem fits_of_ofParent? {text : String} {span : Span} (found : ofParent? text = some span) :
    span.Fits := by
  -- A span comes out only where every check on the way is passed.
  unfold ofParent? at found
  split at found
  · simp only [Option.bind_eq_bind, Option.bind_eq_some_iff] at found
    obtain ⟨version, -, found⟩ := found
    split at found
    · cases found
    · simp only [Option.bind_eq_some_iff] at found
      obtain ⟨trace, traced, id, identified, flags, -, found⟩ := found
      split at found
      · cases found
      · split at found
        · rename_i valid
          cases found
          exact ⟨valid, lt_of_smallHex? traced, lt_of_smallHex? identified⟩
        · cases found
  · cases found

/-- A span that header fields tell of can be told again. -/
theorem fits_of_extract? {headers : Headers} {span : Span} (found : extract? headers = some span) :
    span.Fits := by
  simp only [extract?, Option.bind_eq_bind, Option.bind_eq_some_iff] at found
  obtain ⟨other, read, made⟩ := found
  cases made
  have fits := fits_of_ofParent? read
  exact ⟨fits.valid, fits.trace_lt, fits.id_lt⟩

/-- Two spans belong to one trace, and both are sampled or neither is. -/
structure Continues (span parent : Span) : Prop where
  trace_eq : span.trace = parent.trace
  sampled_eq : span.sampled = parent.sampled

theorem Continues.refl (span : Span) : span.Continues span := ⟨rfl, rfl⟩

theorem Continues.trans
    {span parent ancestor : Span} (first : span.Continues parent)
    (second : parent.Continues ancestor) : span.Continues ancestor :=
  ⟨first.trace_eq.trans second.trace_eq, first.sampled_eq.trans second.sampled_eq⟩

theorem Told.of_continues
    {span parent : Span} {headers : Headers} (told : span.Told headers)
    (continues : span.Continues parent) : parent.Told headers := by
  obtain ⟨other, found, trace, sampled⟩ := told
  exact ⟨other, found, trace.trans continues.trace_eq, sampled.trans continues.sampled_eq⟩

end Span

namespace Session

/-- The number of the next span. -/
def spanNumber (session : Session) : Nat :=
  (firstSpan + session.made) % twoTo 63 + twoTo 63

/-- The number of the trace that begins next. -/
def traceNumber (session : Session) : Nat :=
  firstSpan * twoTo 64 + session.spanNumber

theorem spanNumber_spec (session : Session) :
    0 < session.spanNumber ∧ session.spanNumber < twoTo 64 := by
  simp only [spanNumber, twoTo, Nat.pow_eq, Nat.reducePow]
  omega

theorem traceNumber_spec (session : Session) :
    0 < session.traceNumber ∧ session.traceNumber < twoTo 128 := by
  have number := session.spanNumber_spec
  simp only [traceNumber, firstSpan, twoTo, Nat.pow_eq, Nat.reducePow] at number ⊢
  omega

/-- Traces that begin with different numbers of spans made before are different. -/
theorem traceNumber_ne
    {session later : Session}
    (onward : session.made < later.made)
    (room : later.made < session.made + twoTo 63) :
    session.traceNumber ≠ later.traceNumber := by
  -- The numbers of spans come round again, but not within the room between the two.
  simp only [traceNumber, spanNumber, firstSpan, twoTo, Nat.pow_eq, Nat.reducePow] at room ⊢
  omega

/-- A span that is started under another continues it. -/
theorem freshSpan_of_parent
    {parent : Span}
    (fits : parent.Fits)
    (session : Session) :
    (session.freshSpan (some parent)).1.Fits ∧
      (session.freshSpan (some parent)).1.Continues parent := by
  have started : (session.freshSpan (some parent)).1 = { parent with id := session.spanNumber } := by
    change session.sampling.start (some parent) session.traceNumber session.spanNumber = _
    rw [Sampling.start, Option.filter_some, if_pos fits.valid]
  have number := session.spanNumber_spec
  have valid : Span.isValid { parent with id := session.spanNumber } = true := by
    have traced := (Bool.and_eq_true_iff.mp fits.valid).1
    exact Bool.and_eq_true_iff.mpr ⟨traced, decide_eq_true (Nat.ne_of_gt number.1)⟩
  rw [started]
  exact ⟨⟨valid, fits.trace_lt, number.2⟩, rfl, rfl⟩

/-- A span that is started without a parent begins the next trace. -/
theorem freshSpan_of_none (session : Session) :
    (session.freshSpan none).1.Fits ∧ (session.freshSpan none).1.trace = session.traceNumber := by
  have number := session.spanNumber_spec
  have trace := session.traceNumber_spec
  refine ⟨⟨?_, trace.2, number.2⟩, rfl⟩
  exact Bool.and_eq_true_iff.mpr
    ⟨decide_eq_true (Nat.ne_of_gt trace.1), decide_eq_true (Nat.ne_of_gt number.1)⟩

end Session

end RequestHub
