import RequestHub.Proofs.Json.Collections
import RequestHub.Proofs.Json.Locality

/-!
# Arrays and objects break where one of their values does

A text that is read alone as a value is read as the same value in front of a comma or a closing mark, and
otherwise it spoils what is around it: its reader fails there, or it stops at a byte that no array and no
object goes on with.  So an array breaks if one of its items spoils it, and an object if one of its values
does.
-/

namespace RequestHub.Json

open Reader

variable {α β : Type} {reader : Reader α} {next : α → Reader β} {behind middle : Bytes → Prop}
  {front back text : Bytes}

/-- A reader fails at some bytes, whatever of a kind stands behind them. -/
def Reader.Breaks (behind : Bytes → Prop) (reader : Reader α) (text : Bytes) : Prop :=
  ∀ rest position, behind rest →
    ∃ fault reached, reader ⟨text ++ rest, position⟩ = (.error fault, reached)

/-- A reader fails in front of a comma or a closing mark, or stops before it reaches it. -/
def Reader.Spoils (reader : Reader α) (text : Bytes) : Prop :=
  ∀ rest position, Delimited rest →
    (∃ fault reached, reader ⟨text ++ rest, position⟩ = (.error fault, reached)) ∨
      ∃ value byte left reached,
        reader ⟨text ++ rest, position⟩ = (.ok value, ⟨byte :: left, reached⟩) ∧ Loose byte

/-- A reader takes some bytes for a value, or is spoilt by them if there is none. -/
def Reader.Gives (reader : Reader α) (text : Bytes) : Option α → Prop
  | some value => Takes Delimited reader text value
  | none => Spoils reader text

namespace Reader

theorem Breaks.spoils (breaks : Breaks Delimited reader text) : Spoils reader text :=
  fun rest position follows => .inl (breaks rest position follows)

theorem Breaks.bind (breaks : Breaks behind reader text) : Breaks behind (reader >>= next) text := by
  intro rest position follows
  obtain ⟨fault, reached, failed⟩ := breaks rest position follows
  exact ⟨fault, reached, bind_of_error failed⟩

/-- What comes behind a part that is taken breaks the whole. -/
theorem Takes.bind_breaks
    {part : α}
    (first : Takes middle reader front part)
    (second : Breaks behind (next part) back)
    (meets : ∀ rest, behind rest → middle (back ++ rest)) :
    Breaks behind (reader >>= next) (front ++ back) := by
  intro rest position follows
  obtain ⟨between, read⟩ := first (back ++ rest) position (meets rest follows)
  obtain ⟨fault, reached, failed⟩ := second rest between follows
  exact ⟨fault, reached, by rw [List.append_assoc, bind_of_ok read, failed]⟩

/-- Nothing is taken by the first part, which only looks at what breaks the second one. -/
theorem Takes.bind_nil_breaks
    {part : α}
    (first : Takes middle reader [] part)
    (second : Breaks behind (next part) back)
    (meets : ∀ rest, behind rest → middle (back ++ rest)) :
    Breaks behind (reader >>= next) back :=
  first.bind_breaks second meets

/-- What is spoilt breaks the whole if nothing goes on where it stops. -/
theorem Spoils.bind
    (spoils : Spoils reader front)
    (stuck : ∀ value byte left position, Loose byte →
      ∃ fault reached, next value ⟨byte :: left, position⟩ = (.error fault, reached))
    (meets : ∀ rest, behind rest → Delimited (back ++ rest)) :
    Breaks behind (reader >>= next) (front ++ back) := by
  intro rest position follows
  rw [List.append_assoc]
  rcases spoils (back ++ rest) position (meets rest follows) with
    ⟨fault, reached, failed⟩ | ⟨value, byte, left, reached, read, loose⟩
  · exact ⟨fault, reached, bind_of_error failed⟩
  · rw [bind_of_ok read]
    exact stuck value byte left reached loose

theorem Breaks.advance
    (breaks : Breaks behind reader text)
    (byte : UInt8) :
    Breaks behind (do Reader.advance; reader) (byte :: text) :=
  fun rest position follows => breaks rest (position.after byte) follows

theorem Breaks.skipBlanks
    {next : Option UInt8 → Reader α}
    {byte : UInt8}
    (solid : isSpace byte = false)
    (breaks : Breaks behind (next (some byte)) (byte :: text)) :
    Breaks behind (Json.skipBlanks >>= next) (byte :: text) := by
  intro rest position follows
  rw [List.cons_append, bind_of_ok (skipBlanks_of_solid solid _ _)]
  exact breaks rest position follows

theorem Breaks.placed (breaks : Breaks behind reader text) :
    Breaks behind (Reader.placed reader) text := by
  intro rest position follows
  obtain ⟨fault, reached, failed⟩ := breaks rest position follows
  refine ⟨fault.placedAt reached.position, reached, ?_⟩
  rw [Reader.placed, failed]

/-- The end is passed all the same, but what is inside counts. -/
theorem Breaks.thenEnd
    (breaks : Breaks middle reader front)
    (ending : Reader Unit)
    (meets : ∀ rest, behind rest → middle (back ++ rest)) :
    Breaks behind (Reader.thenEnd reader ending) (front ++ back) := by
  intro rest position follows
  obtain ⟨fault, between, failed⟩ := breaks (back ++ rest) position (meets rest follows)
  have first : outcome reader ⟨front ++ back ++ rest, position⟩ = (.ok (.error fault), between) := by
    rw [List.append_assoc, outcome, failed]
  obtain ⟨ended, reached, second⟩ : ∃ ended reached, outcome ending between = (.ok ended, reached) :=
    ⟨_, _, rfl⟩
  refine ⟨fault, reached, ?_⟩
  rw [Reader.thenEnd, bind_of_ok first, bind_of_ok second]
  rfl

end Reader

/-! ## Texts without marks -/

/-- A text without marks is read in its place as it is read alone, or spoils what is around it. -/
theorem gives_of_loose
    {text : Bytes}
    (filled : text ≠ [])
    (loose : AllLoose text)
    (depth : Nat) :
    Gives (readValue (depth + 1)) text (ofBytes text).toOption := by
  obtain ⟨byte, more, rfl⟩ := List.exists_cons_of_ne_nil filled
  have parallel := fun rest position (behind : Delimited rest) =>
    local_readValue (loose byte List.mem_cons_self) 127 depth (byte :: more) rest ⟨1, 0⟩ position rfl
      loose behind
  generalize alone : readValue 128 ⟨byte :: more, ⟨1, 0⟩⟩ = outcome at parallel
  obtain ⟨fault | value, left, reached⟩ := outcome
  · simp only [ofBytes, readWhole, greatestDepth, bind_of_error alone]
    intro rest position behind
    have there := parallel rest position behind
    generalize readValue (depth + 1) ⟨byte :: more ++ rest, position⟩ = result at there ⊢
    cases there with
    | error => exact .inl ⟨_, _, rfl⟩
  · simp only [ofBytes, readWhole, greatestDepth, bind_of_ok alone]
    cases left with
    | nil =>
        intro rest position behind
        have there := parallel rest position behind
        generalize readValue (depth + 1) ⟨byte :: more ++ rest, position⟩ = result at there ⊢
        cases there with
        | ok _ => exact ⟨_, rfl⟩
    | cons first left =>
        have solid : isSpace first = false := by
          have ended := parallel [] ⟨1, 0⟩ (by simp [Delimited])
          generalize readValue (depth + 1) ⟨byte :: more ++ [], ⟨1, 0⟩⟩ = result at ended
          cases ended with
          | ok stays => exact (stays first List.mem_cons_self).1
        rw [bind_of_ok (skipBlanks_of_solid solid left reached)]
        intro rest position behind
        have there := parallel rest position behind
        generalize readValue (depth + 1) ⟨byte :: more ++ rest, position⟩ = result at there ⊢
        cases there with
        | ok stays => exact .inr ⟨_, _, _, _, rfl, stays first List.mem_cons_self⟩

/-! ## Items and members one after another -/

section

variable {item : Reader α} {pieces : List Bytes} {byte : UInt8} {fuel : Nat}

theorem Loose.ne
    {mark : UInt8}
    (loose : Loose byte)
    (marked : ¬ Loose mark) :
    byte ≠ mark :=
  fun same => marked (same ▸ loose)

theorem hasItem_stuck
    (loose : Loose byte)
    (left : Bytes)
    (position : Position) :
    ∃ fault reached, hasItem false ⟨byte :: left, position⟩ = (.error fault, reached) := by
  have bracket : byte ≠ 0x5D := loose.ne (by decide)
  have comma : byte ≠ 0x2C := loose.ne (by decide)
  rw [hasItem, bind_of_ok (skipBlanks_of_solid loose.1 left position)]
  simp only [comma, if_false, Bool.false_eq_true]
  exact fails_failAhead _ _

theorem readItems_stuck
    (item : Reader α)
    (loose : Loose byte)
    (fuel : Nat)
    (left : Bytes)
    (position : Position) :
    ∃ fault reached,
      readItems item false (fuel + 1) ⟨byte :: left, position⟩ = (.error fault, reached) := by
  obtain ⟨fault, reached, failed⟩ := hasItem_stuck loose left position
  exact ⟨fault, reached, bind_of_error failed⟩

/-- An item is read, or it spoils what is around it. -/
abbrev ReadsItem (item : Reader α) (piece : Bytes) : Prop :=
  Begins piece ∧ ((∃ value, Takes Delimited item piece value) ∨ Spoils item piece)

/-- One item with those behind it breaks if it is spoilt itself, or if they break. -/
theorem item_and_others_break
    {piece : Bytes}
    (first : ReadsItem item piece)
    (some_spoils : ∃ other ∈ piece :: pieces, Spoils item other)
    (others : (∃ other ∈ pieces, Spoils item other) →
      Breaks (At 0x5D) (readItems item false (fuel + 1)) (pieces.flatMap (0x2C :: ·))) :
    Breaks (At 0x5D)
      (do let value ← item; let others ← readItems item false (fuel + 1); return value :: others)
      (piece ++ pieces.flatMap (0x2C :: ·)) := by
  have follow : ∀ rest, At 0x5D rest → Delimited (pieces.flatMap (0x2C :: ·) ++ rest) :=
    fun _ follows => delimited_pieces (.inl rfl) follows pieces
  by_cases spoils : Spoils item piece
  · refine spoils.bind (fun value byte left position loose => ?_) follow
    obtain ⟨fault, reached, failed⟩ := readItems_stuck item loose fuel left position
    exact ⟨fault, reached, bind_of_error failed⟩
  · obtain ⟨value, takes⟩ := first.2.resolve_right spoils
    obtain ⟨other, member, broken⟩ := some_spoils
    have later : other ∈ pieces :=
      (List.mem_cons.mp member).resolve_left fun same => spoils (same ▸ broken)
    exact takes.bind_breaks (others ⟨other, later, broken⟩).bind follow

theorem readItems_others_breaks
    (each : ∀ piece ∈ pieces, ReadsItem item piece)
    (some_spoils : ∃ piece ∈ pieces, Spoils item piece)
    (enough : pieces.length ≤ fuel) :
    Breaks (At 0x5D) (readItems item false (fuel + 1)) (pieces.flatMap (0x2C :: ·)) := by
  induction pieces generalizing fuel with
  | nil =>
      obtain ⟨piece, member, -⟩ := some_spoils
      cases member
  | cons piece pieces ih =>
      obtain ⟨first, others⟩ := List.forall_mem_cons.mp each
      obtain _ | fuel := fuel
      · exact absurd enough (Nat.not_succ_le_zero _)
      · have broken := item_and_others_break first some_spoils fun later =>
          ih others later (Nat.le_of_succ_le_succ enough)
        exact hasItem_next.bind_breaks broken fun more _ => (first.1.append _).append more

/-- The items of an array break where one of them is spoilt. -/
theorem readItems_breaks
    (each : ∀ piece ∈ pieces, ReadsItem item piece)
    (some_spoils : ∃ piece ∈ pieces, Spoils item piece)
    (enough : pieces.length ≤ fuel) :
    Breaks (At 0x5D) (readItems item true (fuel + 1)) (separated pieces) := by
  cases pieces with
  | nil =>
      obtain ⟨piece, member, -⟩ := some_spoils
      cases member
  | cons piece pieces =>
      obtain ⟨first, others⟩ := List.forall_mem_cons.mp each
      obtain _ | fuel := fuel
      · exact absurd enough (Nat.not_succ_le_zero _)
      · have broken := item_and_others_break first some_spoils fun later =>
          readItems_others_breaks others later (Nat.le_of_succ_le_succ enough)
        exact hasItem_first.bind_nil_breaks broken fun more _ => (first.1.append _).append more

end

section

variable {value : Reader α} {member : String × Json} {members : List (String × Json)} {byte : UInt8}
  {fuel : Nat}

theorem hasMember_stuck
    (loose : Loose byte)
    (left : Bytes)
    (position : Position) :
    ∃ fault reached, hasMember false ⟨byte :: left, position⟩ = (.error fault, reached) := by
  have brace : byte ≠ 0x7D := loose.ne (by decide)
  have comma : byte ≠ 0x2C := loose.ne (by decide)
  rw [hasMember, bind_of_ok (skipBlanks_of_solid loose.1 left position)]
  simp only [comma, if_false, Bool.false_eq_true]
  exact fails_failAhead _ _

theorem readMembers_stuck
    (value : Reader α)
    (loose : Loose byte)
    (fuel : Nat)
    (left : Bytes)
    (position : Position) :
    ∃ fault reached,
      readMembers value false (fuel + 1) ⟨byte :: left, position⟩ = (.error fault, reached) := by
  obtain ⟨fault, reached, failed⟩ := hasMember_stuck loose left position
  exact ⟨fault, reached, bind_of_error failed⟩

/-- The name of a member and its colon are read, whatever breaks behind them. -/
theorem memberName_breaks
    {next : String → Reader β}
    (rest : Breaks behind (next member.1) (member.2.bytes ++ back)) :
    Breaks behind (do Reader.advance; let name ← readString; readColon; next name)
      (memberBytes member ++ back) := by
  have colon : Breaks behind (do readColon; next member.1) (0x3A :: (member.2.bytes ++ back)) :=
    readColon_takes.bind_breaks rest fun _ _ => trivial
  have named : Breaks behind (do let name ← readString; readColon; next name)
      (written member.1.toList ++ [0x22] ++ 0x3A :: (member.2.bytes ++ back)) :=
    (readString_takes member.1).bind_breaks colon fun _ _ => trivial
  simpa [memberBytes] using named.advance 0x22

/-- The value of a member is read, or it spoils what is around it. -/
abbrev ReadsMember (value : Reader α) (member : String × Json) : Prop :=
  (∃ held, Takes Delimited value member.2.bytes held) ∨ Spoils value member.2.bytes

theorem member_and_others_break
    (first : ReadsMember value member)
    (some_spoils : ∃ other ∈ member :: members, Spoils value other.2.bytes)
    (others : (∃ other ∈ members, Spoils value other.2.bytes) →
      Breaks (At 0x7D) (readMembers value false (fuel + 1))
        ((members.map memberBytes).flatMap (0x2C :: ·))) :
    Breaks (At 0x7D)
      (do
        Reader.advance
        let name ← readString
        readColon
        let held ← value
        let others ← readMembers value false (fuel + 1)
        return (name, held) :: others)
      (memberBytes member ++ (members.map memberBytes).flatMap (0x2C :: ·)) := by
  have follow : ∀ rest, At 0x7D rest →
      Delimited ((members.map memberBytes).flatMap (0x2C :: ·) ++ rest) :=
    fun _ follows => delimited_pieces (.inr rfl) follows _
  refine memberName_breaks ?_
  by_cases spoils : Spoils value member.2.bytes
  · refine spoils.bind (fun held byte left position loose => ?_) follow
    obtain ⟨fault, reached, failed⟩ := readMembers_stuck value loose fuel left position
    exact ⟨fault, reached, bind_of_error failed⟩
  · obtain ⟨held, takes⟩ := first.resolve_right spoils
    obtain ⟨other, listed, broken⟩ := some_spoils
    have later : other ∈ members :=
      (List.mem_cons.mp listed).resolve_left fun same => spoils (same ▸ broken)
    exact takes.bind_breaks (others ⟨other, later, broken⟩).bind follow

theorem readMembers_others_breaks
    (each : ∀ member ∈ members, ReadsMember value member)
    (some_spoils : ∃ member ∈ members, Spoils value member.2.bytes)
    (enough : members.length ≤ fuel) :
    Breaks (At 0x7D) (readMembers value false (fuel + 1))
      ((members.map memberBytes).flatMap (0x2C :: ·)) := by
  induction members generalizing fuel with
  | nil =>
      obtain ⟨member, listed, -⟩ := some_spoils
      cases listed
  | cons member members ih =>
      obtain ⟨first, others⟩ := List.forall_mem_cons.mp each
      obtain _ | fuel := fuel
      · exact absurd enough (Nat.not_succ_le_zero _)
      · have broken := member_and_others_break first some_spoils fun later =>
          ih others later (Nat.le_of_succ_le_succ enough)
        exact hasMember_next.bind_breaks broken fun _ _ => rfl

/-- The members of an object break where the value of one of them is spoilt. -/
theorem readMembers_breaks
    (each : ∀ member ∈ members, ReadsMember value member)
    (some_spoils : ∃ member ∈ members, Spoils value member.2.bytes)
    (enough : members.length ≤ fuel) :
    Breaks (At 0x7D) (readMembers value true (fuel + 1)) (separated (members.map memberBytes)) := by
  cases members with
  | nil =>
      obtain ⟨member, listed, -⟩ := some_spoils
      cases listed
  | cons member members =>
      obtain ⟨first, others⟩ := List.forall_mem_cons.mp each
      obtain _ | fuel := fuel
      · exact absurd enough (Nat.not_succ_le_zero _)
      · have broken := member_and_others_break first some_spoils fun later =>
          readMembers_others_breaks others later (Nat.le_of_succ_le_succ enough)
        exact hasMember_first.bind_nil_breaks broken fun _ _ => rfl

end

theorem itemBound_breaks
    {next : Nat → Reader α}
    (breaks : ∀ fuel, text.length ≤ fuel → Breaks behind (next (fuel + 1)) text) :
    Breaks behind (itemBound >>= next) text := by
  intro rest position follows
  have covers : text.length ≤ (text ++ rest).length := by
    rw [List.length_append]
    exact Nat.le_add_right _ _
  exact breaks _ covers rest position follows

end RequestHub.Json
