import RequestHub.Proofs.Json.Mirroring
import RequestHub.Settings.Loader

/-!
# What a decoder takes from a document

A document is a value in one of two notations.  A decoder never builds that value when it reads a text: it
reads the text at once as what it wants.  `Means` says that this is the same.  Where the decoder reads
something in a text, the text spells a value there, and what is read is what the value means; and so for the
other notation, where the value is built first.
-/

namespace RequestHub

/-- A value in one of two notations. -/
inductive Document where
  | json (value : Json)
  | toml (value : Toml.Value)

namespace Document

/-- The text that a document is. -/
def text? : Document → Option String
  | .json (.string text) => some text
  | .toml (.string text) => some text
  | _ => none

/-- The truth value that a document is. -/
def flag? : Document → Option Bool
  | .json (.bool value) => some value
  | .toml (.bool value) => some value
  | _ => none

/-- The integer that a document is. -/
def integer? : Document → Option Int
  | .json (.number (.integer value)) => some value
  | .toml (.integer value) => some value
  | _ => none

/-- The floating-point number that a document is; integers are taken too. -/
def real? : Document → Option Real64
  | .json (.number number) => some (Decoder.realOf number)
  | .toml (.integer value) => some (Real64.ofInt value)
  | .toml (.real value) => some value
  | _ => none

/-- A document says that there is no value. -/
def IsNull (document : Document) : Prop :=
  document = .json .null

/-- The name that a document picks: a text, or the only key of an object with nothing under it. -/
def picked? : Document → Option String
  | .json (.string name) => some name
  | .json (.object [(name, .null)]) => some name
  | .toml (.string name) => some name
  | .toml (.table [(name, value)]) => if value.isBare then some name else none
  | _ => none

/-- The part of a document that has a name, or that stands at a position. -/
def part? (name : String) (position : Nat) : Document → Option Document
  | .json (.object members) => (Names.find? name members).map .json
  | .json (.array items) => items[position]?.map .json
  | .toml (.table members) => (Names.find? name members).map .toml
  | .toml (.array items) => items[position]?.map .toml
  | _ => none

end Document

namespace Decoder

open Json Json.Reader

variable {α β : Type}

/-- Whatever a decoder reads is what the document means that is written there. -/
structure Means (decoder : Decoder α) (means : Document → α → Prop) : Prop where
  ofText : ∀ depth,
    Mirrors (fun value json => means (.json json) value) (decoder.ofText (depth + 1))
      (readValue (depth + 1))
  ofToml : ∀ written value, decoder.ofToml written = some value → means (.toml written) value

/--
A document tells a decoder a value: where a text spells the document, the decoder reads the value, and a
value that is built already is taken for it.
-/
inductive Tells (decoder : Decoder α) : Document → α → Prop where
  | json
      {depth : Nat}
      {cursor reached : Cursor}
      {json : Json}
      {value : α}
      (read : decoder.ofText (depth + 1) cursor = (.ok value, reached))
      (spelled : readValue (depth + 1) cursor = (.ok json, reached)) :
      Tells decoder (.json json) value
  | toml
      {written : Toml.Value}
      {value : α}
      (taken : decoder.ofToml written = some value) :
      Tells decoder (.toml written) value

theorem Means.imp
    {decoder : Decoder α}
    {means other : Document → α → Prop}
    (has : decoder.Means means)
    (implies : ∀ document value, means document value → other document value) :
    decoder.Means other where
  ofText depth := by
    intro cursor value reached read
    obtain ⟨json, spelled, meant⟩ := has.ofText depth cursor value reached read
    exact ⟨json, spelled, implies _ _ meant⟩
  ofToml written value taken := implies _ _ (has.ofToml written value taken)

/-- A decoder that reads what documents mean reads what they tell it. -/
theorem Means.tells
    {decoder : Decoder α}
    {means : Document → α → Prop}
    (has : decoder.Means means) :
    decoder.Means decoder.Tells where
  ofText depth := by
    intro cursor value reached read
    obtain ⟨json, spelled, -⟩ := has.ofText depth cursor value reached read
    exact ⟨json, spelled, .json read spelled⟩
  ofToml _ _ taken := .toml taken

/-- What a document tells a decoder is what the document means. -/
theorem Means.of_tells
    {decoder : Decoder α}
    {means : Document → α → Prop}
    {document : Document}
    {value : α}
    (has : decoder.Means means)
    (tells : decoder.Tells document value) :
    means document value := by
  cases tells with
  | json read spelled =>
      obtain ⟨json, also, meant⟩ := has.ofText _ _ _ _ read
      cases spelled.symm.trans also
      exact meant
  | toml taken => exact has.ofToml _ _ taken

/-- What is told to a decoder whose values are changed is told to the decoder first. -/
theorem Tells.of_map
    {decoder : Decoder α}
    {change : α → β}
    {document : Document}
    {result : β}
    (tells : (decoder.map change).Tells document result) :
    ∃ value, decoder.Tells document value ∧ result = change value := by
  cases tells with
  | json read spelled =>
      obtain ⟨value, reached, here, ended⟩ := bind_eq_ok_iff.mp read
      cases ended
      exact ⟨value, .json here spelled, rfl⟩
  | toml taken =>
      obtain ⟨value, here, rfl⟩ := Option.map_eq_some_iff.mp taken
      exact ⟨value, .toml here, rfl⟩

/-! ## Values that begin in a certain way -/

theorem fails_mismatch (cause : Mismatch) : Fails (Reader.mismatch cause : Reader α) :=
  fun _ => ⟨_, _, rfl⟩

/-- A value of the wrong kind is never read. -/
theorem fails_failKind (expected : String) : Fails (failKind expected : Reader α) := by
  rw [failKind]
  apply Fails.placed
  apply Fails.behind
  intro mark
  split
  · exact fails_failAhead _
  split
  · exact Fails.behind fun _ => Fails.behind fun _ => fails_mismatch _
  split
  · exact Fails.behind fun _ => Fails.behind fun _ => fails_mismatch _
  split
  · exact Fails.behind fun _ => Fails.behind fun _ => fails_mismatch _
  split
  · exact Fails.behind fun _ => Fails.behind fun _ => fails_mismatch _
  split
  · exact Fails.behind fun _ => fails_mismatch _
  split
  · exact Fails.behind fun _ => Fails.behind fun _ => fails_mismatch _
  split
  · exact fails_mismatch _
  split
  · exact fails_mismatch _
  · exact fails_failAhead _

/-- What is read of a value that must begin in a certain way is behind blanks and begins so. -/
theorem readStarting_eq_ok
    {test : UInt8 → Bool}
    {expected : String}
    {body : UInt8 → Reader α}
    {cursor reached : Cursor}
    {value : α}
    (read : readStarting test expected body cursor = (.ok value, reached)) :
    ∃ byte between, skipBlanks cursor = (.ok (some byte), between) ∧ test byte = true ∧
      body byte between = (.ok value, reached) := by
  rw [readStarting, placed_eq_ok_iff] at read
  obtain ⟨mark, between, skipped, behind⟩ := bind_eq_ok_iff.mp read
  cases mark with
  | none => cases behind
  | some byte =>
      dsimp only at behind
      split at behind
      · rename_i begins
        exact ⟨byte, between, skipped, begins, behind⟩
      · obtain ⟨fault, ended, failed⟩ := fails_failKind expected between
        rw [failed] at behind
        cases behind

/-- A reader for values that begin in a certain way mirrors the reader of any value that begins so. -/
theorem mirrors_readStarting
    {test : UInt8 → Bool}
    {expected : String}
    {body : UInt8 → Reader α}
    {related : α → Json → Prop}
    {depth : Nat}
    (each : ∀ byte, test byte = true → Mirrors related (body byte) (valueAt depth byte)) :
    Mirrors related (readStarting test expected body) (readValue (depth + 1)) := by
  intro cursor value reached read
  obtain ⟨byte, between, skipped, begins, here⟩ := readStarting_eq_ok read
  obtain ⟨json, there, holds⟩ := each byte begins between value reached here
  exact ⟨json, readValue_of_valueAt skipped there, holds⟩

/-! ## Plain values -/

theorem means_string : string.Means fun document text => document.text? = some text where
  ofText depth := by
    apply mirrors_readStarting
    intro byte begins
    obtain rfl : byte = 0x22 := of_decide_eq_true begins
    rw [valueAt_string]
    apply Mirrors.same
    intro _
    exact Mirrors.image fun text => rfl
  ofToml written value read := by
    cases written with
    | string text => exact read
    | _ => cases read

theorem means_bool : bool.Means fun document flag => document.flag? = some flag where
  ofText depth := by
    apply mirrors_readStarting
    intro byte begins
    simp only [Bool.or_eq_true, decide_eq_true_eq] at begins
    cases begins with
    | inl letter =>
        subst letter
        rw [valueAt_true]
        apply Mirrors.same
        intro _
        rw [if_pos rfl]
        apply Mirrors.same
        intro _
        exact Mirrors.pure rfl
    | inr letter =>
        subst letter
        rw [valueAt_false]
        apply Mirrors.same
        intro _
        rw [if_neg (by decide)]
        apply Mirrors.same
        intro _
        exact Mirrors.pure rfl
  ofToml written value read := by
    cases written with
    | bool flag => exact read
    | _ => cases read

/-- What begins as a number is read as the number that is there. -/
theorem valueAt_of_startsNumber
    {byte : UInt8}
    (begins : startsNumber byte = true)
    (depth : Nat) :
    valueAt depth byte = (do return .number (← readSigned byte)) := by
  by_cases minus : byte = 0x2D
  · subst minus
    rfl
  · have digit : (digit? (some byte)).isSome = true := by
      simpa [startsNumber, minus] using begins
    -- No digit is the first letter of a word.
    have apart (letter : UInt8) (other : (digit? (some letter)).isSome = false) : byte ≠ letter := by
      rintro rfl
      rw [other] at digit
      cases digit
    rw [valueAt, if_neg (apart 0x6E rfl), if_neg (apart 0x74 rfl), if_neg (apart 0x66 rfl),
      if_neg minus, if_pos digit, readSigned, if_neg minus]

theorem boundedInteger_eq_ok
    {low high value : Int}
    {name : String}
    {found : Number}
    (bounded : boundedInteger low high name found = .ok value) :
    found = .integer value ∧ low ≤ value ∧ value ≤ high := by
  cases found with
  | real number => cases bounded
  | integer number =>
      rw [boundedInteger] at bounded
      split at bounded
      · rename_i within
        cases bounded
        rw [Bool.and_eq_true, decide_eq_true_eq, decide_eq_true_eq] at within
        exact ⟨rfl, within⟩
      · cases bounded

theorem means_integer
    (low high : Int)
    (name : String) :
    (integer low high name).Means fun document value =>
      document.integer? = some value ∧ low ≤ value ∧ value ≤ high where
  ofText depth := by
    apply mirrors_readStarting
    intro byte begins
    rw [valueAt_of_startsNumber begins]
    apply Mirrors.same
    intro found
    split
    · rename_i value bounded
      obtain ⟨rfl, within⟩ := boundedInteger_eq_ok bounded
      exact Mirrors.pure ⟨rfl, within⟩
    · exact .of_fails (fails_mismatch _)
  ofToml written value read := by
    cases written with
    | integer number =>
        change (if _ then _ else _) = _ at read
        split at read
        · rename_i within
          cases read
          rw [Bool.and_eq_true, decide_eq_true_eq, decide_eq_true_eq] at within
          exact ⟨rfl, within⟩
        · cases read
    | _ => cases read

theorem means_real : real.Means fun document number => document.real? = some number where
  ofText depth := by
    apply mirrors_readStarting
    intro byte begins
    rw [valueAt_of_startsNumber begins]
    exact Mirrors.same fun number => Mirrors.pure rfl
  ofToml written value read := by
    cases written with
    | integer number => exact read
    | real number => exact read
    | _ => cases read

/-! ## Decoders from decoders -/

theorem Means.map
    {decoder : Decoder α}
    {means : Document → α → Prop}
    (has : decoder.Means means)
    (change : α → β) :
    (decoder.map change).Means fun document result =>
      ∃ value, means document value ∧ result = change value where
  ofText depth := by
    intro cursor result reached read
    obtain ⟨value, between, here, ended⟩ := bind_eq_ok_iff.mp read
    cases ended
    obtain ⟨json, spelled, meant⟩ := has.ofText depth cursor value reached here
    exact ⟨json, spelled, value, meant, rfl⟩
  ofToml written result read := by
    obtain ⟨value, here, rfl⟩ := Option.map_eq_some_iff.mp read
    exact ⟨value, has.ofToml written value here, rfl⟩

theorem means_natural
    (bound : Nat)
    (name : String) :
    (natural bound name).Means fun document number => document.integer? = some (number : Int) := by
  have has := (means_integer 0 (bound - 1) name).map Int.toNat
  constructor
  · intro depth cursor number reached read
    obtain ⟨json, spelled, value, ⟨same, least, -⟩, rfl⟩ := has.ofText depth cursor number reached read
    refine ⟨json, spelled, ?_⟩
    show (Document.json json).integer? = some (value.toNat : Int)
    rw [Int.toNat_of_nonneg least]
    exact same
  · intro written number read
    obtain ⟨value, ⟨same, least, -⟩, rfl⟩ := has.ofToml written number read
    rw [Int.toNat_of_nonneg least]
    exact same

/-- A value that may be missing is missing, or is what the document means. -/
theorem Means.optional
    {decoder : Decoder α}
    {means : Document → α → Prop}
    (has : decoder.Means means) :
    decoder.optional.Means fun document value =>
      document.IsNull ∧ value = none ∨ ∃ held, means document held ∧ value = some held where
  ofText depth := by
    intro cursor value reached read
    obtain ⟨mark, between, skipped, behind⟩ := bind_eq_ok_iff.mp read
    split at behind
    · obtain ⟨_, second, advanced, behind⟩ := bind_eq_ok_iff.mp behind
      obtain ⟨_, third, word, behind⟩ := bind_eq_ok_iff.mp behind
      cases behind
      refine ⟨.null, readValue_of_valueAt skipped ?_, Or.inl ⟨rfl, rfl⟩⟩
      rw [valueAt_null, bind_of_ok advanced, bind_of_ok word]
      rfl
    · obtain ⟨held, last, here, ended⟩ := bind_eq_ok_iff.mp behind
      cases ended
      obtain ⟨json, spelled, meant⟩ := has.ofText depth between held reached here
      exact ⟨json, readValue_of_skipBlanks skipped spelled, Or.inr ⟨held, meant, rfl⟩⟩
  ofToml written value read := by
    obtain ⟨held, here, rfl⟩ := Option.map_eq_some_iff.mp read
    exact Or.inr ⟨held, has.ofToml written held here, rfl⟩

/-! ## Choices -/

theorem pick_eq_ok
    {variants : List (String × α)}
    {name : String}
    {value : α}
    (picked : pick variants name = .ok value) :
    variants.lookup name = some value := by
  rw [pick] at picked
  split at picked
  · rename_i found
    cases picked
    exact found
  · cases picked

/-- A name that is read as a choice is a text, and stands for the choice. -/
theorem readPick_eq_ok
    {variants : List (String × α)}
    {depth : Nat}
    {cursor reached : Cursor}
    {value : α}
    (read : Reader.placed (do
      match pick variants (← string.ofText depth) with
      | .ok value => return value
      | .error cause => Reader.mismatch cause) cursor = (.ok value, reached)) :
    ∃ name, string.ofText depth cursor = (.ok name, reached) ∧ variants.lookup name = some value := by
  rw [placed_eq_ok_iff] at read
  obtain ⟨name, between, here, behind⟩ := bind_eq_ok_iff.mp read
  cases picked : pick variants name with
  | ok chosen =>
      rw [picked] at behind
      cases behind
      exact ⟨name, here, pick_eq_ok picked⟩
  | error cause =>
      rw [picked] at behind
      cases behind

/-- What says that there is no value spells `null`. -/
theorem mirrors_null (depth : Nat) :
    Mirrors (fun _ json => json = .null)
      (readStarting (· = 0x6E) "unit" fun _ => do
        Reader.advance
        readWord wordNull)
      (readValue (depth + 1)) := by
  apply mirrors_readStarting
  intro byte begins
  obtain rfl : byte = 0x6E := of_decide_eq_true begins
  rw [valueAt_null]
  apply Mirrors.same
  intro _
  exact Mirrors.image fun _ => rfl

/-- The inside of an object with one member, and its end. -/
theorem readMembers_single
    {item : Reader α}
    {start quote opened named colon held closing ended : Cursor}
    {name : String}
    {value : α}
    (quoted : skipBlanks start = (.ok (some 0x22), quote))
    (passed : Reader.advance quote = (.ok (), opened))
    (spelled : readString opened = (.ok name, named))
    (parted : readColon named = (.ok (), colon))
    (given : item colon = (.ok value, held))
    (closes : skipBlanks held = (.ok (some 0x7D), closing))
    (left : Reader.advance closing = (.ok (), ended)) :
    thenEnd (do readMembers item true (← itemBound)) endMembers start =
      (.ok [(name, value)], ended) := by
  have first : hasMember true start = (.ok true, quote) := by
    rw [hasMember, bind_of_ok quoted]
    rfl
  obtain ⟨reached, none_follows, stands⟩ := readMembers_of_closes closes false start.rest.length
  apply thenEnd_eq_ok_iff.mpr
  refine ⟨reached, ?_, ?_⟩
  · show readMembers item true (start.rest.length + 1) start = _
    rw [readMembers, bind_of_ok first, if_pos rfl, bind_of_ok passed, bind_of_ok spelled,
      bind_of_ok parted, bind_of_ok given, bind_of_ok none_follows]
    rfl
  · rw [endMembers, bind_of_ok stands]
    exact left

/-- A choice is what the name stands for that a document picks. -/
theorem means_choice (variants : List (String × α)) :
    (choice variants).Means fun document value =>
      ∃ name, document.picked? = some name ∧ variants.lookup name = some value where
  ofText depth := by
    intro cursor value reached read
    obtain ⟨mark, between, skipped, behind⟩ := bind_eq_ok_iff.mp read
    cases mark with
    | none => cases behind
    | some byte =>
        dsimp only at behind
        split at behind
        · -- The name alone is a text.
          obtain ⟨name, here, chosen⟩ := readPick_eq_ok behind
          obtain ⟨json, spelled, text⟩ := means_string.ofText depth between name reached here
          refine ⟨json, readValue_of_skipBlanks skipped spelled, name, ?_, chosen⟩
          cases json with
          | string text' => exact text
          | _ => cases text
        split at behind
        · rename_i opens
          subst opens
          split at behind
          · cases behind
          · rename_i deep
            obtain ⟨depth, rfl⟩ : ∃ less, depth = less + 1 := ⟨depth - 1, by omega⟩
            obtain ⟨_, start, advanced, behind⟩ := bind_eq_ok_iff.mp behind
            obtain ⟨chosen, named, picked, behind⟩ := bind_eq_ok_iff.mp behind
            obtain ⟨_, colon, parted, behind⟩ := bind_eq_ok_iff.mp behind
            obtain ⟨_, held, void, behind⟩ := bind_eq_ok_iff.mp behind
            obtain ⟨mark, closing, closes, behind⟩ := bind_eq_ok_iff.mp behind
            obtain ⟨name, here, stands⟩ := readPick_eq_ok picked
            obtain ⟨quote, quoted, blank, begins, behindQuote⟩ := readStarting_eq_ok here
            obtain rfl : quote = 0x22 := of_decide_eq_true begins
            obtain ⟨_, opened, passed, spelled⟩ := bind_eq_ok_iff.mp behindQuote
            obtain ⟨none_given, given, isNull⟩ := mirrors_null depth colon () held void
            split at behind
            · obtain ⟨_, ended, left, done⟩ := bind_eq_ok_iff.mp behind
              cases done
              have inside := readMembers_single blank passed spelled parted given closes left
              refine ⟨.object [(name, .null)], readValue_of_valueAt skipped ?_, name, rfl, stands⟩
              rw [valueAt_object, bind_of_ok advanced, bind_of_ok inside, isNull]
              rfl
            · cases behind
            · cases behind
        · cases behind
  ofToml written value read := by
    have chosen {name : String} (found : (pick variants name).toOption = some value) :
        variants.lookup name = some value := by
      cases picked : pick variants name with
      | error cause =>
          rw [picked] at found
          cases found
      | ok other =>
          rw [picked] at found
          cases found
          exact pick_eq_ok picked
    simp only [choice] at read
    split at read
    · rename_i name
      exact ⟨name, rfl, chosen read⟩
    · rename_i name held
      split at read
      · rename_i bare
        exact ⟨name, if_pos bare, chosen read⟩
      · cases read
    · cases read

end Decoder

end RequestHub
