import Mathlib.Data.List.Forall2
import RequestHub.Proofs.Json.Numbers
import RequestHub.Proofs.Json.Strings

/-!
# Arrays and objects are read as they were written

The items of an array, and the members of an object, stand between their marks with commas between them.
Readers that take what is written for each of the items take what is written for all of them.
-/

namespace RequestHub.Json

open Reader

/-! ## What is written -/

/-- The bytes of the text of a value. -/
def bytes (value : Json) : Bytes :=
  value.renderChars.flatMap String.utf8EncodeChar

theorem ofString_render (value : Json) : Bytes.ofString value.render = value.bytes :=
  Bytes.ofString_ofList _

/-- Parts with commas between them. -/
def separated : List Bytes → Bytes
  | [] => []
  | first :: others => first ++ others.flatMap (0x2C :: ·)

/-- The bytes of the name of a member, between quotes and with its colon, and those of its value. -/
def memberBytes (member : String × Json) : Bytes :=
  0x22 :: (written member.1.toList ++ 0x22 :: 0x3A :: member.2.bytes)

theorem length_le_flatMap (pieces : List Bytes) :
    pieces.length ≤ (pieces.flatMap (0x2C :: ·)).length := by
  induction pieces with
  | nil => exact Nat.le_refl _
  | cons piece pieces ih =>
      rw [List.flatMap_cons, List.length_append, List.length_cons, List.length_cons]
      omega

/-- There are at least as many bytes as parts that are not empty. -/
theorem length_le_separated {pieces : List Bytes} (filled : ∀ piece ∈ pieces, piece ≠ []) :
    pieces.length ≤ (separated pieces).length := by
  cases pieces with
  | nil => exact Nat.le_refl _
  | cons first others =>
      have front := List.length_pos_of_ne_nil (filled first List.mem_cons_self)
      have back := length_le_flatMap others
      rw [separated, List.length_append, List.length_cons]
      omega

theorem memberBytes_ne_nil (members : List (String × Json)) :
    ∀ piece ∈ members.map memberBytes, piece ≠ [] := by
  intro piece member
  obtain ⟨_, _, rfl⟩ := List.mem_map.mp member
  exact List.cons_ne_nil _ _

@[simp]
theorem bytes_string (text : String) :
    (Json.string text).bytes = 0x22 :: (written text.toList ++ [0x22]) := by
  have quote : String.utf8EncodeChar '"' = [0x22] := by decide
  simp [bytes, renderChars, renderString, written, quote]

/-- A number whose digits are kept stays an integer. -/
theorem ofNat_eq_integer {number : Nat} (kept : number ≤ greatestDigits) :
    ofNat number = .number (.integer number) := by
  have bound : twoTo 64 = 18446744073709551616 := by decide
  have low : (twoTo 63 : Int) = 9223372036854775808 := by decide
  have holds : Number.holdsInteger number = true := by
    rw [greatestDigits, bound] at kept
    simp only [Number.holdsInteger, bound, low, Bool.and_eq_true, decide_eq_true_eq]
    omega
  rw [ofNat, ofInt, if_pos holds]

theorem bytes_ofNat {number : Nat} (kept : number ≤ greatestDigits) :
    (ofNat number).bytes = digitBytes number := by
  rw [ofNat_eq_integer kept, bytes, digitBytes]
  change (Nat.repr number).toList.flatMap _ = _
  rw [Nat.toList_repr]

theorem renderItems_cons (item : Json) (items : List Json) :
    renderItems (item :: items) =
      item.renderChars ++ items.flatMap fun other => ',' :: other.renderChars := by
  induction items generalizing item with
  | nil => simp [renderItems]
  | cons next items ih =>
      rw [renderItems, ih next, List.flatMap_cons, List.cons_append]
      exact List.cons_ne_nil _ _

theorem renderMembers_cons (member : String × Json) (members : List (String × Json)) :
    renderMembers (member :: members) =
      (renderString member.1 ++ ':' :: member.2.renderChars) ++
        members.flatMap fun other => ',' :: (renderString other.1 ++ ':' :: other.2.renderChars) := by
  induction members generalizing member with
  | nil => simp [renderMembers]
  | cons next members ih =>
      rw [renderMembers, ih next, List.flatMap_cons, List.cons_append]
      exact List.cons_ne_nil _ _

@[simp]
theorem bytes_array (items : List Json) :
    (Json.array items).bytes = 0x5B :: (separated (items.map bytes) ++ [0x5D]) := by
  have opening : String.utf8EncodeChar '[' = [0x5B] := by decide
  have closing : String.utf8EncodeChar ']' = [0x5D] := by decide
  have comma : String.utf8EncodeChar ',' = [0x2C] := by decide
  cases items with
  | nil => simp [bytes, renderChars, renderItems, separated, opening, closing]
  | cons item items =>
      rw [bytes, renderChars, renderItems_cons]
      simp only [List.flatMap_cons, List.flatMap_append, List.flatMap_assoc, List.flatMap_nil,
        List.flatMap_map, opening, closing, comma, separated, List.map_cons, bytes,
        List.cons_append, List.nil_append]

@[simp]
theorem bytes_object (members : List (String × Json)) :
    (Json.object members).bytes = 0x7B :: (separated (members.map memberBytes) ++ [0x7D]) := by
  have opening : String.utf8EncodeChar '\x7b' = [0x7B] := by decide
  have closing : String.utf8EncodeChar '\x7d' = [0x7D] := by decide
  have comma : String.utf8EncodeChar ',' = [0x2C] := by decide
  have quote : String.utf8EncodeChar '"' = [0x22] := by decide
  have colon : String.utf8EncodeChar ':' = [0x3A] := by decide
  cases members with
  | nil => simp [bytes, renderChars, renderMembers, separated, opening, closing]
  | cons member members =>
      rw [bytes, renderChars, renderMembers_cons]
      simp only [List.flatMap_cons, List.flatMap_append, List.flatMap_assoc, List.flatMap_nil,
        List.flatMap_map, opening, closing, comma, quote, colon, separated, List.map_cons,
        memberBytes, renderString, bytes, written, List.cons_append, List.nil_append,
        List.append_assoc]

/-! ## What stands behind a mark -/

/-- A value stands in front: its first byte is no blank, and it closes nothing. -/
def Begins (rest : Bytes) : Prop :=
  ∃ byte, rest.head? = some byte ∧ isSpace byte = false ∧ byte ≠ 0x5D

theorem Begins.ne_nil {front : Bytes} (begins : Begins front) : front ≠ [] := by
  rintro rfl
  obtain ⟨byte, stands, _⟩ := begins
  cases stands

theorem Begins.append {front : Bytes} (begins : Begins front) (rest : Bytes) :
    Begins (front ++ rest) := by
  obtain ⟨byte, stands, solid⟩ := begins
  exact ⟨byte, by rw [List.head?_append, stands, Option.some_or], solid⟩

/-- A value that is not `null` stands in front: its first byte is no blank, and it closes nothing. -/
def Starts (rest : Bytes) : Prop :=
  ∃ byte, rest.head? = some byte ∧ isSpace byte = false ∧ byte ≠ 0x5D ∧ byte ≠ 0x6E

theorem Starts.begins {front : Bytes} (starts : Starts front) : Begins front := by
  obtain ⟨byte, stands, solid, opens, _⟩ := starts
  exact ⟨byte, stands, solid, opens⟩

theorem starts_of_cons {byte : UInt8} (solid : isSpace byte = false ∧ byte ≠ 0x5D ∧ byte ≠ 0x6E)
    (rest : Bytes) : Starts (byte :: rest) :=
  ⟨byte, rfl, solid⟩

/-- Behind a part of an array or an object stands the comma of the next one or the mark that closes it. -/
theorem delimited_pieces
    {mark : UInt8} (closes : mark = 0x5D ∨ mark = 0x7D) {rest : Bytes} (follows : At mark rest)
    (pieces : List Bytes) : Delimited (pieces.flatMap (0x2C :: ·) ++ rest) := by
  cases pieces with
  | nil =>
      rw [List.flatMap_nil, List.nil_append, Delimited, show rest.head? = some mark from follows]
      rcases closes with rfl | rfl <;> decide
  | cons piece pieces => simp [Delimited]

/-! ## The marks of an array -/

theorem hasItem_first : Takes Begins (hasItem true) [] true := by
  refine Takes.skipBlanks_behind (fun _ follows => follows) fun byte fits => ?_
  simp only [if_true]
  exact Takes.pure true

theorem hasItem_next : Takes Begins (hasItem false) [0x2C] true := by
  refine Takes.skipBlanks (by decide) (Takes.advance ?_ 0x2C)
  refine Takes.skipBlanks_behind (fun _ follows => follows) fun byte fits => ?_
  simp only
  exact Takes.pure true

theorem hasItem_end (first : Bool) : Takes (At 0x5D) (hasItem first) [] false :=
  Takes.skipBlanks_at (by decide) (Takes.pure false)

theorem endItems_takes : Takes Anything endItems [0x5D] () :=
  Takes.skipBlanks (by decide) (Takes.advance (Takes.pure ()) 0x5D)

/-! ## Items one after another -/

section

variable {α : Type} {item : Reader α} {piece : Bytes} {pieces : List Bytes} {value : α}
  {values : List α} {fuel : Nat}

/-- An item, and behind it the others with their commas. -/
theorem item_and_others
    {others : Reader (List α)} (first : Takes Delimited item piece value)
    (rest : Takes (At 0x5D) others (pieces.flatMap (0x2C :: ·)) values) :
    Takes (At 0x5D) (do let value ← item; let others ← others; return value :: others)
      (piece ++ pieces.flatMap (0x2C :: ·)) (value :: values) :=
  first.bind (rest.map (value :: ·)) fun _ follows => delimited_pieces (.inl rfl) follows pieces

/-- Every item needs one step, and so does the end. -/
theorem readItems_others
    (each : List.Forall₂ (fun piece value => Begins piece ∧ Takes Delimited item piece value)
      pieces values) (enough : values.length ≤ fuel) :
    Takes (At 0x5D) (readItems item false (fuel + 1)) (pieces.flatMap (0x2C :: ·)) values := by
  induction each generalizing fuel with
  | nil => exact (hasItem_end false).bind_nil_left (Takes.pure []) fun _ follows => follows
  | cons first _ ih =>
      obtain _ | fuel := fuel
      · exact absurd enough (Nat.not_succ_le_zero _)
      · have rest := item_and_others first.2 (ih (Nat.le_of_succ_le_succ enough))
        exact hasItem_next.bind rest fun more _ => (first.1.append _).append more

/-- The items of an array are read one after another, up to the mark that ends it. -/
theorem readItems_takes
    (each : List.Forall₂ (fun piece value => Begins piece ∧ Takes Delimited item piece value)
      pieces values) (enough : values.length ≤ fuel) :
    Takes (At 0x5D) (readItems item true (fuel + 1)) (separated pieces) values := by
  cases each with
  | nil => exact (hasItem_end true).bind_nil_left (Takes.pure []) fun _ follows => follows
  | cons first others =>
      obtain _ | fuel := fuel
      · exact absurd enough (Nat.not_succ_le_zero _)
      · have others := readItems_others others (Nat.le_of_succ_le_succ enough)
        exact hasItem_first.bind_nil_left (item_and_others first.2 others)
          fun more _ => (first.1.append _).append more

end

/-! ## The marks of an object -/

theorem hasMember_first : Takes (At 0x22) (hasMember true) [] true :=
  Takes.skipBlanks_at (by decide) (Takes.pure true)

theorem hasMember_next : Takes (At 0x22) (hasMember false) [0x2C] true := by
  refine Takes.skipBlanks (by decide) (Takes.advance ?_ 0x2C)
  exact Takes.skipBlanks_at (by decide) (Takes.pure true)

theorem hasMember_end (first : Bool) : Takes (At 0x7D) (hasMember first) [] false :=
  Takes.skipBlanks_at (by decide) (Takes.pure false)

theorem readColon_takes : Takes Anything readColon [0x3A] () :=
  Takes.skipBlanks (by decide) (Takes.advance (Takes.pure ()) 0x3A)

theorem endMembers_takes : Takes Anything endMembers [0x7D] () :=
  Takes.skipBlanks (by decide) (Takes.advance (Takes.pure ()) 0x7D)

/-! ## Members one after another -/

section

variable {α β : Type} {member : String × Json} {members : List (String × Json)} {fuel : Nat}

/-- The name of a member is read first, and what is read next may depend on it. -/
theorem memberName_takes
    {behind : Bytes → Prop} (next : String → Reader β) {back : Bytes} {value : β}
    (rest : Takes behind (next member.1) (0x3A :: (member.2.bytes ++ back)) value) :
    Takes behind (do advance; next (← readString)) (memberBytes member ++ back) value := by
  have whole := Takes.advance ((readString_takes member.1).bind rest fun _ _ => trivial) 0x22
  simpa [memberBytes] using whole

/-- What follows the name of a member: the colon, the value, and the members behind it. -/
theorem memberValue_takes
    {value : Reader α} {json : Json} {held : α} {others : α → Reader β} {result : β}
    (first : Takes Delimited value json.bytes held)
    (rest : Takes (At 0x7D) (others held) ((members.map memberBytes).flatMap (0x2C :: ·)) result) :
    Takes (At 0x7D) (do readColon; others (← value))
      (0x3A :: (json.bytes ++ (members.map memberBytes).flatMap (0x2C :: ·))) result :=
  readColon_takes.bind
    (first.bind rest fun _ follows => delimited_pieces (.inr rfl) follows _) fun _ _ => trivial

/-- A member, and behind it the others with their commas. -/
theorem member_and_others
    {value : Reader α} {others : Reader (List (String × α))} {held : α}
    {pairs : List (String × α)} (first : Takes Delimited value member.2.bytes held)
    (rest : Takes (At 0x7D) others ((members.map memberBytes).flatMap (0x2C :: ·)) pairs) :
    Takes (At 0x7D)
      (do
        advance
        let name ← readString
        readColon
        let held ← value
        let others ← others
        return (name, held) :: others)
      (memberBytes member ++ (members.map memberBytes).flatMap (0x2C :: ·))
      ((member.1, held) :: pairs) := by
  refine memberName_takes (fun name => do
    readColon
    let held ← value
    let others ← others
    return (name, held) :: others) ?_
  exact memberValue_takes first (rest.map ((member.1, held) :: ·))

/-- The members have the names of the pairs, and the reader takes what is written for the values. -/
abbrev ReadsMembers (value : Reader α) (members : List (String × Json))
    (pairs : List (String × α)) : Prop :=
  List.Forall₂
    (fun member pair => member.1 = pair.1 ∧ Takes Delimited value member.2.bytes pair.2)
    members pairs

theorem readMembers_others
    {value : Reader α} {pairs : List (String × α)} (each : ReadsMembers value members pairs)
    (enough : pairs.length ≤ fuel) :
    Takes (At 0x7D) (readMembers value false (fuel + 1))
      ((members.map memberBytes).flatMap (0x2C :: ·)) pairs := by
  induction each generalizing fuel with
  | nil => exact (hasMember_end false).bind_nil_left (Takes.pure []) fun _ follows => follows
  | @cons member pair members pairs first _ ih =>
      obtain ⟨name, held⟩ := pair
      obtain ⟨rfl, first⟩ := first
      obtain _ | fuel := fuel
      · exact absurd enough (Nat.not_succ_le_zero _)
      · have rest := member_and_others first (ih (Nat.le_of_succ_le_succ enough))
        exact hasMember_next.bind rest fun _ _ => rfl

/-- The members of an object are read one after another, up to the mark that ends it. -/
theorem readMembers_takes
    {value : Reader α} {pairs : List (String × α)} (each : ReadsMembers value members pairs)
    (enough : pairs.length ≤ fuel) :
    Takes (At 0x7D) (readMembers value true (fuel + 1)) (separated (members.map memberBytes))
      pairs := by
  cases each with
  | nil => exact (hasMember_end true).bind_nil_left (Takes.pure []) fun _ follows => follows
  | @cons member pair members pairs first others =>
      obtain ⟨name, held⟩ := pair
      obtain ⟨rfl, first⟩ := first
      obtain _ | fuel := fuel
      · exact absurd enough (Nat.not_succ_le_zero _)
      · have others := readMembers_others others (Nat.le_of_succ_le_succ enough)
        exact hasMember_first.bind_nil_left (member_and_others first others) fun _ _ => rfl

end

/-! ## Whole arrays and objects -/

/-- The bound on the items leaves room for as many as there are bytes. -/
theorem itemBound_takes
    {α : Type} {behind : Bytes → Prop} {next : Nat → Reader α} {taken : Bytes} {value : α}
    (takes : ∀ fuel, taken.length ≤ fuel → Takes behind (next (fuel + 1)) taken value) :
    Takes behind (itemBound >>= next) taken value := by
  intro rest position follows
  have covers : taken.length ≤ (taken ++ rest).length := by
    rw [List.length_append]
    exact Nat.le_add_right _ _
  exact takes _ covers rest position follows

/-- What is inside the marks, and the mark that ends it, are read one level down. -/
theorem nested_takes
    {α : Type} {inside : Nat → Reader α} {ending : Reader Unit} {opening closing : UInt8}
    {taken : Bytes} {value : α} {depth : Nat}
    (takes : Takes (At closing) (inside (depth + 1)) taken value)
    (ends : Takes Anything ending [closing] ()) :
    Takes Anything (nested (depth + 2) inside ending) (opening :: (taken ++ [closing])) value :=
  Takes.advance (takes.thenEnd ends fun _ _ => rfl) opening

/-- A whole text is read if its reader takes it. -/
theorem readWhole_of_takes
    {α : Type} {reader : Reader α} {text : Bytes} {value : α}
    (takes : Takes Delimited reader text value) : readWhole reader text = .ok value := by
  obtain ⟨reached, read⟩ := takes [] ⟨1, 0⟩ (by simp [Delimited])
  rw [List.append_nil] at read
  have ended : skipBlanks ⟨[], reached⟩ = (.ok none, ⟨[], reached⟩) := rfl
  simp only [readWhole, bind_of_ok read, bind_of_ok ended]
  rfl

end RequestHub.Json
