import RequestHub.Decoder
import RequestHub.Proofs.Except
import RequestHub.Proofs.Json.Collections
import RequestHub.Proofs.Names

/-!
# What decoders read

A decoder `Reads` a JSON value if it gives a certain value for it, both for the JSON value itself and for
its text, wherever the text stands.  Decoders that are made from decoders read what is made from values.
-/

namespace RequestHub.Decoder

open Json Json.Reader

variable {α β : Type} {decoder : Decoder α} {depth : Nat} {json : Json} {value : α}

/-- A decoder gives a value for a JSON value and for its text. -/
structure Reads (decoder : Decoder α) (depth : Nat) (json : Json) (value : α) : Prop where
  ofValue : decoder.ofValue json = .ok value
  ofText : Takes Delimited (decoder.ofText depth) json.bytes value
  starts : Starts json.bytes

/-- A value whose first byte is the right one is read by the body. -/
theorem readStarting_takes
    {test : UInt8 → Bool} {expected : String} {body : UInt8 → Reader α} {behind : Bytes → Prop}
    {byte : UInt8} {more : Bytes} (fits : test byte = true) (solid : isSpace byte = false)
    (takes : Takes behind (body byte) (byte :: more) value) :
    Takes behind (readStarting test expected body) (byte :: more) value := by
  refine (Takes.skipBlanks solid ?_).placed
  simp only [fits, if_true]
  exact takes

theorem fromText_of_reads (reads : Reads decoder greatestDepth json value) :
    decoder.fromText json.bytes = .ok value :=
  readWhole_of_takes reads.ofText

/-! ## Plain values -/

theorem reads_string (text : String) (depth : Nat) :
    Reads .string depth (.string text) text where
  ofValue := rfl
  ofText := by
    rw [bytes_string]
    refine readStarting_takes rfl (by decide) (Takes.advance ?_ 0x22)
    exact (readString_takes text).of_behind fun _ _ => trivial
  starts := by
    rw [bytes_string]
    exact starts_of_cons (by decide) _

/-- A leading digit begins a number, which has no sign. -/
theorem startsNumber_digit : ∀ value < 10,
    startsNumber (.ofNat (value + 48)) = true ∧ UInt8.ofNat (value + 48) ≠ 0x2D ∧
      isSpace (.ofNat (value + 48)) = false ∧ UInt8.ofNat (value + 48) ≠ 0x5D ∧
        UInt8.ofNat (value + 48) ≠ 0x6E := by
  decide

theorem reads_integer
    {number : Nat} {low high : Int} (inside : low ≤ number ∧ (number : Int) ≤ high)
    (kept : number ≤ greatestDigits) (name : String) (depth : Nat) :
    Reads (.integer low high name) depth (.ofNat number) number := by
  obtain ⟨leading, small, more, form⟩ := digitBytes_cons number
  obtain ⟨begins, unsigned, solid⟩ := startsNumber_digit leading small
  have bounded : boundedInteger low high name (.integer number) = .ok (number : Int) := by
    simp [boundedInteger, inside]
  refine ⟨?_, ?_, ?_⟩
  · rw [ofNat_eq_integer kept]
    exact bounded
  · have read := readNumber_takes kept
    rw [form] at read
    rw [bytes_ofNat kept, form]
    refine readStarting_takes begins solid.1 ?_
    rw [readSigned, if_neg unsigned]
    refine read.bind_nil_right ?_ fun _ follows => follows
    rw [bounded]
    exact Takes.pure _
  · rw [bytes_ofNat kept, form]
    exact starts_of_cons solid _

/-! ## Values that are changed or accepted -/

theorem Reads.map (reads : Reads decoder depth json value) (change : α → β) :
    Reads (decoder.map change) depth json (change value) where
  ofValue := congrArg (Except.map change) reads.ofValue
  ofText := reads.ofText.map change
  starts := reads.starts

theorem Reads.refine
    (reads : Reads decoder depth json value) {accept : α → Except String β} {result : β}
    (accepted : accept value = .ok result) : Reads (decoder.refine accept) depth json result where
  ofValue := by
    simp only [Decoder.refine, reads.ofValue, except_ok_bind, accepted]
  ofText := by
    refine reads.ofText.bind_nil_right ?_ fun _ follows => follows
    rw [accepted]
    exact Takes.pure result
  starts := reads.starts

/-- A value that may be `null` is read as the value that it is. -/
theorem Reads.optional (reads : Reads decoder depth json value) :
    Reads decoder.optional depth json (some value) := by
  obtain ⟨byte, stands, solid, _, other⟩ := reads.starts
  obtain ⟨more, form⟩ : ∃ more, json.bytes = byte :: more := List.head?_eq_some_iff.mp stands
  refine ⟨?_, ?_, reads.starts⟩
  · have present : json ≠ .null := by
      rintro rfl
      have null : Json.null.bytes = [0x6E, 0x75, 0x6C, 0x6C] := by decide
      rw [null] at form
      exact other (List.cons.inj form).1.symm
    have whole : (decoder.ofValue json).map some = .ok (some value) :=
      congrArg (Except.map some) reads.ofValue
    cases json with
    | null => exact absurd rfl present
    | _ => exact whole
  · have read := reads.ofText.map some
    rw [form] at read ⊢
    refine Takes.skipBlanks solid ?_
    simp only [Option.some.injEq, other, imp_self]
    exact read

theorem reads_natural
    {number bound : Nat} (below : number < bound) (small : bound ≤ twoTo 64) (name : String)
    (depth : Nat) : Reads (.natural bound name) depth (.ofNat number) number := by
  have kept : number ≤ greatestDigits := by
    rw [greatestDigits]
    omega
  have inside : (0 : Int) ≤ number ∧ (number : Int) ≤ (bound : Int) - 1 := by omega
  exact (reads_integer inside kept name depth).map Int.toNat

/-! ## Sequences and tables -/

theorem ofValue_items
    {items : List Json} {values : List α}
    (each : List.Forall₂ (Reads decoder depth) items values) :
    items.mapM decoder.ofValue = .ok values := by
  induction each with
  | nil => rfl
  | cons first _ ih =>
      rw [List.mapM_cons, first.ofValue, ih]
      rfl

/-- A sequence of values is read one level further down. -/
theorem Reads.sequence
    {items : List Json} {values : List α}
    (each : List.Forall₂ (Reads decoder (depth + 1)) items values) :
    Reads decoder.sequence (depth + 2) (.array items) values where
  ofValue := ofValue_items each
  ofText := by
    rw [bytes_array]
    refine readStarting_takes rfl (by decide) ?_
    refine (nested_takes ?_ endItems_takes).of_behind fun _ _ => trivial
    have pieces : List.Forall₂
        (fun piece value => Begins piece ∧ Takes Delimited (decoder.ofText (depth + 1)) piece value)
        (items.map Json.bytes) values :=
      List.forall₂_map_left_iff.mpr (each.imp fun _ _ reads => ⟨reads.starts.begins, reads.ofText⟩)
    refine itemBound_takes fun fuel room => readItems_takes pieces ?_
    have filled : ∀ piece ∈ items.map Json.bytes, piece ≠ [] := fun piece member =>
      (((List.forall₂_and_left _ _).mp pieces).1 piece member).ne_nil
    have many := length_le_separated filled
    rw [pieces.length_eq] at many
    omega
  starts := by
    rw [bytes_array]
    exact starts_of_cons (by decide) _

/-- The members have the names of the pairs, and their values are read as those of the pairs. -/
abbrev ReadsPairs (decoder : Decoder α) (depth : Nat) (members : List (String × Json))
    (pairs : List (String × α)) : Prop :=
  List.Forall₂ (fun member pair => member.1 = pair.1 ∧ Reads decoder depth member.2 pair.2)
    members pairs

theorem ofValue_members
    {members : List (String × Json)} {pairs : List (String × α)}
    (each : ReadsPairs decoder depth members pairs) :
    (members.mapM fun (name, value) => do return (name, ← decoder.ofValue value)) = .ok pairs := by
  induction each with
  | nil => rfl
  | cons first _ ih =>
      rw [List.mapM_cons, ih]
      simp only [first.2.ofValue, first.1]
      rfl

/-- A table of values is read one level further down, if its names increase. -/
theorem Reads.mapping
    {members : List (String × Json)} {table : Names α} (ordered : table.Ordered)
    (each : ReadsPairs decoder (depth + 1) members table) :
    Reads decoder.mapping (depth + 2) (.object members) table where
  ofValue := by
    have pairs := ofValue_members each
    change (members.mapM _ >>= fun pairs => Except.ok (Names.ofList pairs)) = _
    rw [pairs]
    exact congrArg Except.ok (Names.ofList_of_ordered ordered)
  ofText := by
    rw [bytes_object]
    refine readStarting_takes rfl (by decide) ?_
    refine (nested_takes ?_ endMembers_takes).of_behind fun _ _ => trivial
    have pieces : ReadsMembers (decoder.ofText (depth + 1)) members table :=
      each.imp fun _ _ reads => ⟨reads.1, reads.2.ofText⟩
    refine itemBound_takes fun fuel room => ?_
    have many := length_le_separated (memberBytes_ne_nil members)
    rw [List.length_map, each.length_eq] at many
    have read := (readMembers_takes pieces (Nat.le_trans many room)).map Names.ofList
    rwa [Names.ofList_of_ordered ordered] at read
  starts := by
    rw [bytes_object]
    exact starts_of_cons (by decide) _

end RequestHub.Decoder
