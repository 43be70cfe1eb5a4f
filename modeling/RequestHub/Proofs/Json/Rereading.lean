import RequestHub.Proofs.Json.Breaking
import RequestHub.Proofs.Json.Spelling
import RequestHub.Proofs.Names

/-!
# Reading what was written

What is written for a value is read part by part.  Words, texts and integers of 64 bits are read as they
were, arrays item by item and objects member by member.  A real number is read as whatever its own text is
read as when it stands alone, and if that is nothing the whole text is refused.  So a value is read as it was
exactly if each real number in it is.
-/

namespace RequestHub.Json

open Reader

/-- A value as the readers give it: with so many levels, and with integers of 64 bits and names in order. -/
def Fits : (depth : Nat) → Json → Prop
  | 0, _ => False
  | _ + 1, .number (.integer value) => Number.holdsInteger value = true
  | depth + 1, .array items => 0 < depth ∧ ∀ item ∈ items, Fits depth item
  | depth + 1, .object members =>
      0 < depth ∧ Names.Ordered members ∧ ∀ member ∈ members, Fits depth member.2
  | _ + 1, _ => True

mutual

/-- What the text of a value is read as, if each of its numbers is read as something. -/
def reread? : Json → Option Json
  | .number value => (ofBytes (Json.number value).bytes).toOption
  | .array items => (rereadItems? items).map .array
  | .object members => (rereadMembers? members).map .object
  | value => some value

def rereadItems? : List Json → Option (List Json)
  | [] => some []
  | item :: items => do return (← reread? item) :: (← rereadItems? items)

def rereadMembers? : List (String × Json) → Option (List (String × Json))
  | [] => some []
  | (name, value) :: members => do return (name, ← reread? value) :: (← rereadMembers? members)

end

/-! ## Values without marks -/

theorem loose_of_figures
    {chars : List Char}
    (figured : Figures chars) :
    chars.flatMap String.utf8EncodeChar ≠ [] ∧ AllLoose (chars.flatMap String.utf8EncodeChar) := by
  have spelled : AllLoose (figures.flatMap String.utf8EncodeChar) := by decide
  obtain ⟨filled, all⟩ := figured
  constructor
  · obtain ⟨char, chars, rfl⟩ := List.exists_cons_of_ne_nil filled
    rw [List.flatMap_cons]
    refine List.append_ne_nil_of_left_ne_nil (List.ne_nil_of_length_pos ?_) _
    rw [String.length_utf8EncodeChar]
    exact char.utf8Size_pos
  · intro byte member
    obtain ⟨char, listed, inside⟩ := List.mem_flatMap.mp member
    exact spelled byte (List.mem_flatMap.mpr ⟨char, all char listed, inside⟩)

theorem gives_number (number : Number) (depth : Nat) :
    Gives (readValue (depth + 1)) (Json.number number).bytes
      (ofBytes (Json.number number).bytes).toOption := by
  obtain ⟨filled, loose⟩ := loose_of_figures number.figures_render
  exact gives_of_loose filled loose depth

theorem takes_word
    {value : Json}
    (word : value ∈ [.null, .bool true, .bool false])
    (depth : Nat) :
    Takes Delimited (readValue (depth + 1)) value.bytes value := by
  have read : ∀ value ∈ [Json.null, .bool true, .bool false],
      value.bytes ≠ [] ∧ AllLoose value.bytes ∧
        (ofBytes value.bytes).toOption = some value := by
    decide
  obtain ⟨filled, loose, same⟩ := read value word
  have reads := gives_of_loose filled loose depth
  rwa [same] at reads

theorem takes_string (text : String) (depth : Nat) :
    Takes Delimited (readValue (depth + 1)) (Json.string text).bytes (.string text) := by
  rw [bytes_string, readValue]
  refine .placed (.skipBlanks (by decide) (.advance ?_ 0x22))
  exact ((readString_takes text).of_behind fun _ _ => trivial).map Json.string

/-- A number begins with a digit unless it begins with a sign. -/
theorem takes_digits
    {number : Nat}
    (kept : number ≤ greatestDigits)
    (depth : Nat) :
    Takes Delimited (readValue (depth + 1)) (digitBytes number) (.number (.integer number)) := by
  have leads : ∀ leading < 10, isSpace (.ofNat (leading + 48)) = false ∧
      (UInt8.ofNat (leading + 48)) ∉ [0x6E, 0x74, 0x66, 0x2D] ∧
        (digit? (some (.ofNat (leading + 48)))).isSome = true := by
    decide
  have read := (readNumber_takes kept).map Json.number
  obtain ⟨leading, small, more, form⟩ := digitBytes_cons number
  obtain ⟨solid, other, digit⟩ := leads leading small
  simp only [List.mem_cons, List.not_mem_nil, or_false, not_or] at other
  rw [form] at read ⊢
  rw [readValue]
  refine .placed (.skipBlanks solid ?_)
  simp only [other, digit, if_false, if_true]
  exact read

theorem takes_opposite
    {number : Nat}
    (positive : 0 < number)
    (kept : number ≤ twoTo 63)
    (depth : Nat) :
    Takes Delimited (readValue (depth + 1)) (0x2D :: digitBytes number)
      (.number (.integer (-number))) := by
  have top : twoTo 64 = 18446744073709551616 := by decide
  have bottom : twoTo 63 = 9223372036854775808 := by decide
  have within : number ≤ greatestDigits := by
    rw [greatestDigits]
    omega
  have read := readNumber_takes_of within (readAfterInteger_takes_opposite positive kept)
  rw [readValue]
  exact .placed (.skipBlanks (by decide) ((read.map Json.number).advance 0x2D))

/-- An integer of 64 bits is read as it was. -/
theorem ofBytes_integer
    {value : Int}
    (holds : Number.holdsInteger value = true) :
    ofBytes (Json.number (.integer value)).bytes = .ok (.number (.integer value)) := by
  have top : twoTo 64 = 18446744073709551616 := by decide
  have bottom : twoTo 63 = 9223372036854775808 := by decide
  have sign : String.utf8EncodeChar '-' = [0x2D] := by decide
  simp only [Number.holdsInteger, Bool.and_eq_true, decide_eq_true_eq] at holds
  refine readWhole_of_takes ?_
  rw [bytes, renderChars, Number.render, Int.toString_eq_repr, Int.repr_eq_if]
  split
  · have kept : value.toNat ≤ greatestDigits := by
      rw [greatestDigits]
      omega
    have same : (value.toNat : Int) = value := by omega
    have read := takes_digits kept 127
    rw [same, digitBytes] at read
    rw [Nat.toList_repr]
    exact read
  · have same : -((-value).toNat : Int) = value := by omega
    have positive : 0 < (-value).toNat := by omega
    have kept : (-value).toNat ≤ twoTo 63 := by omega
    have read := takes_opposite positive kept 127
    rw [same, digitBytes] at read
    rw [String.toList_append, List.flatMap_append, Nat.toList_repr]
    exact read

/-- What is written for a value begins it and closes nothing. -/
theorem begins_bytes (value : Json) : Begins value.bytes := by
  have of_loose {text : Bytes} (filled : text ≠ []) (loose : AllLoose text) :
      Begins text := by
    obtain ⟨byte, more, rfl⟩ := List.exists_cons_of_ne_nil filled
    have first := loose byte List.mem_cons_self
    exact ⟨byte, rfl, first.1, first.ne (by decide)⟩
  cases value with
  | null => exact of_loose (by decide) (by decide)
  | bool value => cases value <;> exact of_loose (by decide) (by decide)
  | number number =>
      obtain ⟨filled, loose⟩ := loose_of_figures number.figures_render
      exact of_loose filled loose
  | string text => exact ⟨0x22, by rw [bytes_string]; rfl, by decide, by decide⟩
  | array items => exact ⟨0x5B, by rw [bytes_array]; rfl, by decide, by decide⟩
  | object members => exact ⟨0x7B, by rw [bytes_object]; rfl, by decide, by decide⟩

/-! ## Arrays and objects -/

theorem forall₂_of_rereadItems?
    {items others : List Json}
    (read : rereadItems? items = some others) :
    List.Forall₂ (fun item other => reread? item = some other) items others := by
  induction items generalizing others with
  | nil =>
      cases read
      exact .nil
  | cons item items ih =>
      simp only [rereadItems?, bind, Option.bind_eq_some_iff, pure, Option.some.injEq] at read
      obtain ⟨first, here, more, behind, rfl⟩ := read
      exact .cons here (ih behind)

theorem exists_of_rereadItems?
    {items : List Json}
    (unread : rereadItems? items = none) :
    ∃ item ∈ items, reread? item = none := by
  induction items with
  | nil => cases unread
  | cons item items ih =>
      cases here : reread? item with
      | none => exact ⟨item, List.mem_cons_self, here⟩
      | some first =>
          have behind : rereadItems? items = none := by
            cases more : rereadItems? items with
            | none => rfl
            | some others => simp [rereadItems?, here, more] at unread
          obtain ⟨other, member, broken⟩ := ih behind
          exact ⟨other, List.mem_cons_of_mem _ member, broken⟩

theorem forall₂_of_rereadMembers?
    {members others : List (String × Json)}
    (read : rereadMembers? members = some others) :
    List.Forall₂ (fun member other => member.1 = other.1 ∧ reread? member.2 = some other.2)
      members others := by
  induction members generalizing others with
  | nil =>
      cases read
      exact .nil
  | cons member members ih =>
      simp only [rereadMembers?, bind, Option.bind_eq_some_iff, pure, Option.some.injEq] at read
      obtain ⟨first, here, more, behind, rfl⟩ := read
      exact .cons ⟨rfl, here⟩ (ih behind)

theorem mem_of_mem_rereadMembers?
    {members others : List (String × Json)}
    (read : rereadMembers? members = some others)
    {other : String × Json}
    (listed : other ∈ others) :
    ∃ value, (other.1, value) ∈ members ∧ reread? value = some other.2 := by
  induction members generalizing others with
  | nil =>
      cases read
      cases listed
  | cons member members ih =>
      simp only [rereadMembers?, bind, Option.bind_eq_some_iff, pure, Option.some.injEq] at read
      obtain ⟨first, here, more, behind, rfl⟩ := read
      rcases List.mem_cons.mp listed with rfl | later
      · exact ⟨member.2, List.mem_cons_self, here⟩
      · obtain ⟨value, inside, same⟩ := ih behind later
        exact ⟨value, List.mem_cons_of_mem _ inside, same⟩

theorem exists_of_rereadMembers?
    {members : List (String × Json)}
    (unread : rereadMembers? members = none) :
    ∃ member ∈ members, reread? member.2 = none := by
  induction members with
  | nil => cases unread
  | cons member members ih =>
      cases here : reread? member.2 with
      | none => exact ⟨member, List.mem_cons_self, here⟩
      | some first =>
          have behind : rereadMembers? members = none := by
            cases more : rereadMembers? members with
            | none => rfl
            | some others => simp [rereadMembers?, here, more] at unread
          obtain ⟨other, listed, broken⟩ := ih behind
          exact ⟨other, List.mem_cons_of_mem _ listed, broken⟩

/-- Members with the names of others in order are in order. -/
theorem ordered_of_forall₂
    {members others : List (String × Json)}
    {alike : String × Json → String × Json → Prop}
    (paired : List.Forall₂ alike members others)
    (named : ∀ member other, alike member other → member.1 = other.1)
    (ordered : Names.Ordered members) :
    Names.Ordered others := by
  have names : members.map (·.1) = others.map (·.1) := by
    rw [← List.forall₂_eq_eq_eq, List.forall₂_map_left_iff, List.forall₂_map_right_iff]
    exact paired.imp named
  rw [Names.Ordered, ← List.pairwise_map] at ordered ⊢
  rwa [← names]

/-- What is inside two marks decides what is read for the whole, or breaks it. -/
theorem gives_marked
    {ending : Reader Unit}
    {next : Option UInt8 → Reader β}
    {text : Bytes}
    {opening closing : UInt8}
    {result : Option α}
    (inside : Reader α)
    (wrap : α → β)
    (solid : isSpace opening = false)
    (same : next (some opening) = do advance; return wrap (← thenEnd inside ending))
    (ends : Takes Anything ending [closing] ())
    (taken : ∀ value, result = some value → Takes (At closing) inside text value)
    (broken : result = none → Breaks (At closing) inside text) :
    Gives (placed (skipBlanks >>= next)) (opening :: (text ++ [closing])) (result.map wrap) := by
  cases result with
  | some value =>
      have whole := ((taken value rfl).thenEnd ends fun _ _ => rfl).map wrap
      have read := whole.advance opening
      rw [← same] at read
      exact (Takes.skipBlanks solid (read.of_behind fun _ _ => trivial)).placed
  | none =>
      have whole : Breaks Delimited (thenEnd inside ending) (text ++ [closing]) :=
        (broken rfl).thenEnd ending fun _ _ => rfl
      have unread : Breaks Delimited (do advance; return wrap (← thenEnd inside ending))
          (opening :: (text ++ [closing])) :=
        whole.bind.advance opening
      rw [← same] at unread
      exact (Breaks.skipBlanks solid unread).placed.spoils

theorem reads_of_gives
    {reader : Reader Json}
    {value : Json}
    (gives : Gives reader value.bytes (reread? value)) :
    (∃ other, Takes Delimited reader value.bytes other) ∨ Spoils reader value.bytes := by
  cases read : reread? value with
  | some other =>
      rw [read] at gives
      exact .inl ⟨other, gives⟩
  | none =>
      rw [read] at gives
      exact .inr gives

theorem gives_array
    {items : List Json}
    {depth : Nat}
    (room : 0 < depth)
    (each : ∀ item ∈ items, Gives (readValue depth) item.bytes (reread? item)) :
    Gives (readValue (depth + 1)) (Json.array items).bytes (reread? (.array items)) := by
  have enough : (items.map bytes).length ≤ (separated (items.map bytes)).length := by
    refine length_le_separated fun piece member => ?_
    obtain ⟨item, _, rfl⟩ := List.mem_map.mp member
    exact (begins_bytes item).ne_nil
  rw [bytes_array, reread?, readValue]
  refine gives_marked (do readItems (readValue depth) true (← itemBound)) Json.array (by decide)
    (if_neg room.ne') endItems_takes (fun others read => ?_) fun unread => ?_
  · have pairs := (List.forall₂_and_left _ _).mpr ⟨each, forall₂_of_rereadItems? read⟩
    have pieces : List.Forall₂
        (fun piece value => Begins piece ∧ Takes Delimited (readValue depth) piece value)
        (items.map bytes) others := by
      refine List.forall₂_map_left_iff.mpr (pairs.imp fun item other both => ?_)
      have gives := both.1
      rw [both.2] at gives
      exact ⟨begins_bytes item, gives⟩
    exact itemBound_takes fun fuel covers =>
      readItems_takes pieces (pieces.length_eq ▸ enough.trans covers)
  · obtain ⟨broken, member, nothing⟩ := exists_of_rereadItems? unread
    have spoils := each broken member
    rw [nothing] at spoils
    have pieces : ∀ piece ∈ items.map bytes, ReadsItem (readValue depth) piece := by
      intro piece inside
      obtain ⟨item, listed, rfl⟩ := List.mem_map.mp inside
      exact ⟨begins_bytes item, reads_of_gives (each item listed)⟩
    exact itemBound_breaks fun fuel covers =>
      readItems_breaks pieces ⟨_, List.mem_map_of_mem member, spoils⟩ (enough.trans covers)

theorem gives_object
    {members : List (String × Json)}
    {depth : Nat}
    (room : 0 < depth)
    (ordered : Names.Ordered members)
    (each : ∀ member ∈ members, Gives (readValue depth) member.2.bytes (reread? member.2)) :
    Gives (readValue (depth + 1)) (Json.object members).bytes (reread? (.object members)) := by
  have enough : members.length ≤ (separated (members.map memberBytes)).length := by
    have many := length_le_separated (memberBytes_ne_nil members)
    rwa [List.length_map] at many
  have kept : reread? (.object members) = (rereadMembers? members).map Json.ofMembers := by
    rw [reread?]
    cases read : rereadMembers? members with
    | none => rfl
    | some others =>
        have others_ordered := ordered_of_forall₂ (forall₂_of_rereadMembers? read)
          (fun _ _ alike => alike.1) ordered
        rw [Option.map_some, Option.map_some, Json.ofMembers, Names.ofList_of_ordered others_ordered]
  rw [bytes_object, kept, readValue]
  refine gives_marked (do readMembers (readValue depth) true (← itemBound)) Json.ofMembers (by decide)
    (if_neg room.ne') endMembers_takes (fun others read => ?_) fun unread => ?_
  · have both := (List.forall₂_and_left _ _).mpr ⟨each, forall₂_of_rereadMembers? read⟩
    have pairs : ReadsMembers (readValue depth) members others := by
      refine both.imp fun member other alike => ?_
      have gives := alike.1
      rw [alike.2.2] at gives
      exact ⟨alike.2.1, gives⟩
    exact itemBound_takes fun fuel covers =>
      readMembers_takes pairs (pairs.length_eq ▸ enough.trans covers)
  · obtain ⟨broken, listed, nothing⟩ := exists_of_rereadMembers? unread
    have spoils := each broken listed
    rw [nothing] at spoils
    have pairs : ∀ member ∈ members, ReadsMember (readValue depth) member :=
      fun member inside => reads_of_gives (each member inside)
    exact itemBound_breaks fun fuel covers =>
      readMembers_breaks pairs ⟨broken, listed, spoils⟩ (enough.trans covers)

/-! ## All values -/

/-- What is written for a value that fits is read as its parts are. -/
theorem gives_value
    {depth : Nat}
    {value : Json}
    (fits : Fits depth value) :
    Gives (readValue depth) value.bytes (reread? value) := by
  induction depth generalizing value with
  | zero => cases value <;> exact fits.elim
  | succ depth ih =>
      cases value with
      | null => exact takes_word (by decide) depth
      | bool value => cases value <;> exact takes_word (by decide) depth
      | number number => exact gives_number number depth
      | string text => exact takes_string text depth
      | array items => exact gives_array fits.1 fun item member => ih (fits.2 item member)
      | object members =>
          exact gives_object fits.1 fits.2.1 fun member listed => ih (fits.2.2 member listed)

@[simp]
theorem toOption_eq_some_iff
    {outcome : Except Fault α}
    {value : α} :
    outcome.toOption = some value ↔ outcome = .ok value := by
  cases outcome with
  | error fault => exact iff_of_false nofun nofun
  | ok held => exact Option.some_inj.trans (by rw [Except.ok.injEq])

theorem toOption_readWhole_of_gives
    {reader : Reader α}
    {text : Bytes}
    {result : Option α}
    (gives : Gives reader text result) :
    (readWhole reader text).toOption = result := by
  cases result with
  | some value => rw [readWhole_of_takes gives]; rfl
  | none =>
      rcases gives [] ⟨1, 0⟩ (by simp [Delimited]) with
        ⟨fault, reached, failed⟩ | ⟨value, byte, left, reached, read, loose⟩
      · rw [List.append_nil] at failed
        rw [readWhole, bind_of_error failed]
        rfl
      · rw [List.append_nil] at read
        obtain ⟨fault, ended, failed⟩ :=
          fails_failAhead (α := α) .charactersTrailing ⟨byte :: left, reached⟩
        rw [readWhole, bind_of_ok read, bind_of_ok (skipBlanks_of_solid loose.1 left reached)]
        simp only [failed]
        rfl

/-- The text of a value that fits is read as its parts are, and refused if one of them is not read. -/
theorem toOption_ofBytes_bytes
    {value : Json}
    (fits : Fits greatestDepth value) :
    (ofBytes value.bytes).toOption = reread? value :=
  toOption_readWhole_of_gives (gives_value fits)

/-! ## The numbers in a value -/

/-- A number stands somewhere in a value. -/
inductive Within (number : Number) : Json → Prop where
  | here : Within number (.number number)
  | item {items : List Json} {item : Json} (member : item ∈ items) (inside : Within number item) :
      Within number (.array items)
  | member {members : List (String × Json)} {member : String × Json} (listed : member ∈ members)
      (inside : Within number member.2) : Within number (.object members)

/-- A number whose text is read as the number again. -/
def ReadsBack (number : Number) : Prop :=
  ofBytes (Json.number number).bytes = .ok (.number number)

theorem rereadItems?_self_iff (items : List Json) :
    rereadItems? items = some items ↔ ∀ item ∈ items, reread? item = some item := by
  induction items with
  | nil => simp [rereadItems?]
  | cons item items ih =>
      rw [List.forall_mem_cons, ← ih, rereadItems?]
      simp [Option.bind_eq_some_iff]

theorem rereadMembers?_self_iff (members : List (String × Json)) :
    rereadMembers? members = some members ↔
      ∀ member ∈ members, reread? member.2 = some member.2 := by
  induction members with
  | nil => simp [rereadMembers?]
  | cons member members ih =>
      obtain ⟨name, value⟩ := member
      rw [List.forall_mem_cons, ← ih, rereadMembers?]
      simp [Option.bind_eq_some_iff]

@[simp]
theorem within_array_iff {number : Number} {items : List Json} :
    Within number (.array items) ↔ ∃ item ∈ items, Within number item := by
  constructor
  · rintro (_ | ⟨member, inside⟩)
    exact ⟨_, member, inside⟩
  · rintro ⟨item, member, inside⟩
    exact .item member inside

@[simp]
theorem within_object_iff {number : Number} {members : List (String × Json)} :
    Within number (.object members) ↔ ∃ member ∈ members, Within number member.2 := by
  constructor
  · rintro (_ | _ | ⟨listed, inside⟩)
    exact ⟨_, listed, inside⟩
  · rintro ⟨member, listed, inside⟩
    exact .member listed inside

/-- An integer of 64 bits is always read back, so what is said of a number is said of a real one. -/
theorem reread?_number_iff
    {number : Number}
    (fits : ∀ value, number = .integer value → Number.holdsInteger value = true) :
    reread? (.number number) = some (.number number) ↔
      ∀ real, Within (.real real) (.number number) → ReadsBack (.real real) := by
  rw [reread?, toOption_eq_some_iff]
  cases number with
  | integer value => exact iff_of_true (ofBytes_integer (fits value rfl)) fun real inside => nomatch inside
  | real real =>
      constructor
      · rintro read _ ⟨⟩
        exact read
      · exact fun each => each real .here

/-- A value is read as it was exactly if each real number in it is. -/
theorem reread?_self_iff
    {depth : Nat}
    {value : Json}
    (fits : Fits depth value) :
    reread? value = some value ↔ ∀ real, Within (.real real) value → ReadsBack (.real real) := by
  induction depth generalizing value with
  | zero => cases value <;> exact fits.elim
  | succ depth ih =>
      cases value with
      | null => exact iff_of_true rfl fun real inside => nomatch inside
      | bool value => exact iff_of_true rfl fun real inside => nomatch inside
      | string text => exact iff_of_true rfl fun real inside => nomatch inside
      | number number => exact reread?_number_iff fun value same => by subst same; exact fits
      | array items =>
          have each := rereadItems?_self_iff items
          have parts : reread? (.array items) = some (.array items) ↔
              rereadItems? items = some items := by
            simp [reread?]
          rw [parts, each]
          simp only [within_array_iff]
          constructor
          · rintro same real ⟨item, member, inside⟩
            exact (ih (fits.2 item member)).mp (same item member) real inside
          · exact fun same item member =>
              (ih (fits.2 item member)).mpr fun real inside => same real ⟨item, member, inside⟩
      | object members =>
          have each := rereadMembers?_self_iff members
          have parts : reread? (.object members) = some (.object members) ↔
              rereadMembers? members = some members := by
            simp [reread?]
          rw [parts, each]
          simp only [within_object_iff]
          constructor
          · rintro same real ⟨member, listed, inside⟩
            exact (ih (fits.2.2 member listed)).mp (same member listed) real inside
          · exact fun same member listed =>
              (ih (fits.2.2 member listed)).mpr fun real inside =>
                same real ⟨member, listed, inside⟩

end RequestHub.Json
