import RequestHub.Proofs.Decoder.Reading

/-!
# Records are read field by field

A record is filled by members that each are one of its fields, of which none comes twice and none that
must come is missing.  Then it is read from the value and from the text alike, and the order of the
members makes no difference.
-/

namespace RequestHub.Decoder

open Json Json.Reader

variable {α : Type} {shape : RecordShape α} {depth : Nat} {seen : List String} {record result : α}
  {members : List (String × Json)}

/--
From the fields seen so far and the record that they give, members fill the record: each is a field that
was not seen yet and whose value is read, and at the end no field is missing.
-/
inductive RecordShape.Fills (shape : RecordShape α) (depth : Nat) :
    List String → α → List (String × Json) → α → Prop where
  | done {seen : List String} {record : α} (whole : shape.finish seen record = .ok record) :
      Fills shape depth seen record [] record
  | field {seen : List String} {record result : α} {name : String} {json : Json}
      {members : List (String × Json)} {field : Field α} {change : α → α}
      (found : shape.lookUp seen name = .ok (some field))
      (reads : field.change.Reads depth json change)
      (others : Fills shape depth (field.name :: seen) (change record) members result) :
      Fills shape depth seen record ((name, json) :: members) result

/--
A member adds its field to a record that is known in part, by the fields seen so far: it is read as a
change that brings the record from one part to the next.
-/
def RecordShape.Adds (shape : RecordShape α) (depth : Nat) (part : List String → α)
    (member : String × Json) : Prop :=
  ∃ field change, shape.fields.find? (·.isCalled member.1) = some field ∧ field.name = member.1 ∧
    Reads field.change depth member.2 change ∧ ∀ seen, change (part seen) = part (member.1 :: seen)

/-- A field whose value a decoder reads adds the value that it sets. -/
theorem RecordShape.adds_of_reads
    {β : Type} {part : List String → α} {decoder : Decoder β} {set : β → α → α} {value : β}
    {presence : Presence} {name : String} {json : Json}
    (found : shape.fields.find? (·.isCalled name) = some ⟨name, [], presence, decoder.map set⟩)
    (reads : Reads decoder depth json value)
    (sets : ∀ seen, set value (part seen) = part (name :: seen)) :
    shape.Adds depth part (name, json) :=
  ⟨_, _, found, rfl, reads.map set, sets⟩

namespace RecordShape.Fills

theorem ofMembers (fills : shape.Fills depth seen record members result) :
    shape.ofMembers seen record members = .ok result := by
  induction fills with
  | done whole => exact whole
  | field found reads _ ih =>
      simp only [RecordShape.ofMembers, found, reads.ofValue, except_ok_bind]
      exact ih

/-- What follows a mark in front of a member: its name, its value, and the members behind it. -/
theorem readMember_takes
    {name : String} {json : Json} {field : Field α} {change : α → α} {fuel : Nat}
    (found : shape.lookUp seen name = .ok (some field)) (reads : field.change.Reads depth json change)
    (others : Takes (At 0x7D) (shape.readNamed depth false (field.name :: seen) (change record) fuel)
      ((members.map memberBytes).flatMap (0x2C :: ·)) result) (first : Bool) (mark : Bytes)
    (ahead : Takes (At 0x22) (hasMember first) mark true) :
    Takes (At 0x7D) (shape.readNamed depth first seen record (fuel + 1))
      (mark ++ (memberBytes (name, json) ++ (members.map memberBytes).flatMap (0x2C :: ·)))
      result := by
  refine ahead.bind ?_ fun _ _ => rfl
  refine memberName_takes _ ?_
  simp only [found]
  exact memberValue_takes reads.ofText others

theorem readNamed_end
    (whole : shape.finish seen record = .ok record) (first : Bool) (fuel : Nat) :
    Takes (At 0x7D) (shape.readNamed depth first seen record (fuel + 1)) [] record := by
  refine (hasMember_end first).bind_nil_left ?_ fun _ follows => follows
  simp only [whole]
  exact Takes.pure record

theorem readNamed_others
    (fills : shape.Fills depth seen record members result) {fuel : Nat}
    (enough : members.length ≤ fuel) :
    Takes (At 0x7D) (shape.readNamed depth false seen record (fuel + 1))
      ((members.map memberBytes).flatMap (0x2C :: ·)) result := by
  induction fills generalizing fuel with
  | done whole => exact readNamed_end whole false fuel
  | field found reads _ ih =>
      obtain _ | fuel := fuel
      · exact absurd enough (Nat.not_succ_le_zero _)
      · have others := ih (Nat.le_of_succ_le_succ enough)
        exact readMember_takes found reads others false [0x2C] hasMember_next

/-- The members of a record are read one after another, up to the mark that ends the object. -/
theorem readNamed_takes
    (fills : shape.Fills depth seen record members result) {fuel : Nat}
    (enough : members.length ≤ fuel) :
    Takes (At 0x7D) (shape.readNamed depth true seen record (fuel + 1))
      (separated (members.map memberBytes)) result := by
  cases fills with
  | done whole => exact readNamed_end whole true fuel
  | field found reads fills =>
      obtain _ | fuel := fuel
      · exact absurd enough (Nat.not_succ_le_zero _)
      · have others := fills.readNamed_others (Nat.le_of_succ_le_succ enough)
        exact readMember_takes found reads others true [] hasMember_first

/-- A record that members fill is read from the object that has them. -/
theorem reads (fills : shape.Fills (depth + 1) [] shape.blank members result) :
    Reads (.record shape) (depth + 2) (.object members) result where
  ofValue := fills.ofMembers
  ofText := by
    rw [bytes_object]
    refine readStarting_takes rfl (by decide) ?_
    rw [if_pos rfl]
    refine (nested_takes ?_ endMembers_takes).of_behind fun _ _ => trivial
    refine itemBound_takes fun fuel room => fills.readNamed_takes ?_
    have many := length_le_separated (memberBytes_ne_nil members)
    rw [List.length_map] at many
    exact Nat.le_trans many room
  starts := by
    rw [bytes_object]
    exact starts_of_cons (by decide) _

/--
A record that is known in part is filled by members with different names that add their fields to it, if
no field that must come is left out.
-/
theorem of_part
    {part : List String → α}
    (each : ∀ member ∈ members, shape.Adds depth part member)
    (apart : (members.map (·.1)).Nodup) (new : ∀ member ∈ members, member.1 ∉ seen)
    (whole : ∀ field ∈ shape.fields, field.presence = .required →
      field.name ∈ (members.map (·.1)).reverse ++ seen) :
    shape.Fills depth seen (part seen) members (part ((members.map (·.1)).reverse ++ seen)) := by
  induction members generalizing seen with
  | nil =>
      refine .done ?_
      have none_missing : (shape.fields.find? fun field =>
          field.presence = .required && !seen.contains field.name) = none := by
        refine List.find?_eq_none.mpr fun field member => ?_
        have present := whole field member
        simp only [List.map_nil, List.reverse_nil, List.nil_append] at present
        simpa using present
      rw [RecordShape.finish, none_missing]
  | cons member members ih =>
      obtain ⟨first, others⟩ := List.forall_mem_cons.mp each
      obtain ⟨field, change, found, named, reads, adds⟩ := first
      obtain ⟨unseen, others_new⟩ := List.forall_mem_cons.mp new
      obtain ⟨once, others_apart⟩ := List.nodup_cons.mp apart
      have looked : shape.lookUp seen member.1 = .ok (some field) := by
        rw [RecordShape.lookUp, found]
        simp [named, unseen]
      have order : ((member :: members).map (·.1)).reverse ++ seen =
          (members.map (·.1)).reverse ++ member.1 :: seen := by
        simp
      rw [order] at whole ⊢
      refine .field looked reads ?_
      rw [adds, named]
      refine ih others others_apart (fun other member seen => ?_) whole
      rcases List.mem_cons.mp seen with same | earlier
      · exact once (List.mem_map.mpr ⟨other, member, same⟩)
      · exact others_new other member earlier

end RecordShape.Fills

/--
A record is read from an object whose members, in any order, are those that add their fields to it, if no
field that must come is left out and the part that has them all is the whole record.
-/
theorem reads_record
    {part : List String → α} {written : List (String × Json)}
    (each : ∀ member ∈ written, shape.Adds (depth + 1) part member)
    (apart : (written.map (·.1)).Nodup)
    (whole : ∀ field ∈ shape.fields, field.presence = .required → field.name ∈ written.map (·.1))
    (blank : part [] = shape.blank)
    (complete : ∀ seen, (∀ name ∈ written.map (·.1), name ∈ seen) → part seen = result)
    (order : members.Perm written) :
    Reads (.record shape) (depth + 2) (.object members) result := by
  have names := order.map (·.1)
  have seen (name : String) (member : name ∈ written.map (·.1)) :
      name ∈ (members.map (·.1)).reverse ++ [] := by
    rw [List.append_nil, List.mem_reverse]
    exact names.mem_iff.mpr member
  have fills : shape.Fills (depth + 1) [] (part []) members
      (part ((members.map (·.1)).reverse ++ [])) := .of_part
    (fun member known => each member (order.mem_iff.mp known)) (names.nodup_iff.mpr apart)
    (fun _ _ => List.not_mem_nil) fun field known required =>
      seen field.name (whole field known required)
  rw [blank, complete _ seen] at fills
  exact fills.reads

end RequestHub.Decoder
