import RequestHub.Proofs.Decoder.Meaning
import RequestHub.Proofs.Names

/-!
# Records from the parts of a document

The parts of a document are the members of an object or a table, which have names, and the items of an
array, which have positions.  A record is read from the parts one after another, and every part changes one
field.  So a field has what its part means, wherever that part comes among the others, and a field whose
part does not come is left as it is in the record that the reading begins with.
-/

namespace RequestHub.Decoder

open Json Json.Reader

variable {α β : Type} {shape : RecordShape α} {seen : List String} {record result : α}

/-! ## What a part of a document decides -/

/-- With a part a value is what the part means, and without it the value is as it was. -/
def Decides
    (means : Document → β → Prop)
    (part : Option Document)
    (before after : β) : Prop :=
  match part with
  | some document => means document after
  | none => after = before

/-- What is decided of a part by its parts is decided by the parts of the part. -/
theorem Decides.inside
    {inner : Document → α → Prop}
    {means : Document → β → Prop}
    {part : Option Document}
    {sub : Document → Option Document}
    {before after : α}
    (get : α → β)
    (decides : Decides inner part before after)
    (inward : ∀ document value, inner document value →
      Decides means (sub document) (get before) (get value)) :
    Decides means (part.bind sub) (get before) (get after) := by
  cases part with
  | none => exact congrArg get decides
  | some document => exact inward document after decides

namespace Field

/-- A field gives what is seen of the record the value that its part means. -/
def Sets
    (field : Field α)
    (get : α → β)
    (means : Document → β → Prop) : Prop :=
  ∀ document change, field.change.Tells document change → ∀ record, means document (get (change record))

/-- A field leaves what is seen of the record. -/
def Leaves
    (field : Field α)
    (get : α → β) : Prop :=
  ∀ document change, field.change.Tells document change → ∀ record, get (change record) = get record

variable {γ : Type} {decoder : Decoder γ} {set : γ → α → α} {get : α → β} {name : String}

@[simp]
theorem defaulted_name : (Field.defaulted name decoder set).name = name := rfl

theorem defaulted_sets
    {means : Document → β → Prop}
    {seen : γ → β}
    (has : decoder.Means fun document value => means document (seen value))
    (same : ∀ value record, get (set value record) = seen value) :
    (Field.defaulted name decoder set).Sets get means := by
  intro document change tells record
  obtain ⟨value, told, rfl⟩ := tells.of_map
  rw [same]
  exact has.of_tells told

@[simp]
theorem defaulted_leaves (same : ∀ value record, get (set value record) = get record) :
    (Field.defaulted name decoder set).Leaves get := by
  intro document change tells record
  obtain ⟨value, told, rfl⟩ := tells.of_map
  exact same value record

theorem defaulted_tells
    {means : Document → γ → Prop}
    (has : decoder.Means means) :
    (Field.defaulted name decoder set).change.Means (Field.defaulted name decoder set).change.Tells :=
  (has.map set).tells

end Field

/-! ## Records whose fields are told apart by one name each -/

/--
A record is plain if no other fields may come, every field has one name, and documents tell the values of
the fields.
-/
structure RecordShape.Plain (shape : RecordShape α) : Prop where
  closed : shape.closed = true
  single : ∀ field ∈ shape.fields, field.aliases = []
  apart : (shape.fields.map (·.name)).Nodup
  told : ∀ field ∈ shape.fields, field.change.Means field.change.Tells

/-- Members that have names change the fields of these names, none of which was seen before. -/
inductive RecordShape.Named (shape : RecordShape α) :
    List String → α → List (String × Document) → α → Prop where
  | done
      {seen : List String}
      {record : α} :
      Named shape seen record [] record
  | field
      {seen : List String}
      {record result : α}
      {field : Field α}
      {document : Document}
      {change : α → α}
      {members : List (String × Document)}
      (member : field ∈ shape.fields)
      (fresh : field.name ∉ seen)
      (tells : field.change.Tells document change)
      (others : Named shape (field.name :: seen) (change record) members result) :
      Named shape seen record ((field.name, document) :: members) result

/-- Items that have positions change the fields at these positions; there may be fewer or more of them. -/
inductive Listed : List (Field α) → α → List Document → α → Prop where
  | fewer
      {fields : List (Field α)}
      {record : α} :
      Listed fields record [] record
  | more
      {record : α}
      {items : List Document} :
      Listed [] record items record
  | field
      {field : Field α}
      {fields : List (Field α)}
      {record result : α}
      {document : Document}
      {change : α → α}
      {items : List Document}
      (tells : field.change.Tells document change)
      (others : Listed fields (change record) items result) :
      Listed (field :: fields) record (document :: items) result

/-- A record is composed of the parts of a document. -/
inductive RecordShape.Composed (shape : RecordShape α) (document : Document) (result : α) : Prop where
  | named
      {members : List (String × Document)}
      (parts : ∀ name position, document.part? name position = Names.find? name members)
      (named : shape.Named [] shape.blank members result)
  | listed
      {items : List Document}
      (parts : ∀ name position, document.part? name position = items[position]?)
      (listed : Listed shape.fields shape.blank items result)

/-! ## A field and its part -/

section Parts

variable {field : Field α} {get : α → β} {means : Document → β → Prop}
  {members : List (String × Document)} {items : List Document} {fields : List (Field α)}

namespace RecordShape.Named

/-- A member has a name that was not seen before. -/
theorem fresh_of_mem
    (named : shape.Named seen record members result)
    {name : String}
    (member : name ∈ members.map (·.1)) :
    name ∉ seen := by
  induction named with
  | done => cases member
  | field _ fresh _ _ ih =>
      cases List.mem_cons.mp member with
      | inl same =>
          rw [same]
          exact fresh
      | inr later =>
          intro before
          exact ih later (List.mem_cons_of_mem _ before)

theorem nodup (named : shape.Named seen record members result) : (members.map (·.1)).Nodup := by
  induction named with
  | done => exact List.nodup_nil
  | field _ _ _ others ih =>
      apply List.nodup_cons.mpr
      refine ⟨?_, ih⟩
      intro again
      exact others.fresh_of_mem again List.mem_cons_self

/-- What only a field changes that was seen already is not changed any more. -/
theorem leaves
    (named : shape.Named seen record members result)
    (known : field.name ∈ seen)
    (others : ∀ other ∈ shape.fields, other.name ≠ field.name → other.Leaves get) :
    get result = get record := by
  induction named with
  | done => rfl
  | @field seen record result other document change members member fresh tells _ ih =>
      have different : other.name ≠ field.name := by
        intro same
        exact fresh (same ▸ known)
      calc
        get result = get (change record) := ih (List.mem_cons_of_mem _ known)
        _ = get record := others other member different document change tells record

theorem decides
    (plain : shape.Plain)
    (named : shape.Named seen record members result)
    (member : field ∈ shape.fields)
    (fresh : field.name ∉ seen)
    (sets : field.Sets get means)
    (others : ∀ other ∈ shape.fields, other.name ≠ field.name → other.Leaves get) :
    Decides means (Names.find? field.name members) (get record) (get result) := by
  induction named with
  | done => rfl
  | @field seen record result other document change members found unseen tells behind ih =>
      rw [Names.find?_cons]
      by_cases same : field.name = other.name
      · obtain rfl : field = other := List.inj_on_of_nodup_map plain.apart member found same
        rw [if_pos rfl]
        show means document (get result)
        rw [behind.leaves List.mem_cons_self others]
        exact sets document change tells record
      · rw [if_neg same]
        have kept := others other found (Ne.symm same) document change tells record
        rw [← kept]
        apply ih
        intro before
        cases List.mem_cons.mp before with
        | inl equal => exact same equal
        | inr earlier => exact fresh earlier

end RecordShape.Named

namespace Listed

theorem leaves
    (listed : Listed fields record items result)
    (others : ∀ other ∈ fields, other.Leaves get) :
    get result = get record := by
  induction listed with
  | fewer => rfl
  | more => rfl
  | field tells _ ih =>
      obtain ⟨first, others⟩ := List.forall_mem_cons.mp others
      exact (ih others).trans (first _ _ tells _)

theorem decides
    (listed : Listed fields record items result)
    (apart : (fields.map (·.name)).Nodup)
    {position : Nat}
    (here : fields[position]? = some field)
    (sets : field.Sets get means)
    (others : ∀ other ∈ fields, other.name ≠ field.name → other.Leaves get) :
    Decides means items[position]? (get record) (get result) := by
  induction listed generalizing position with
  | fewer => rfl
  | more => cases here
  | @field first fields record result document change items tells behind ih =>
      obtain ⟨once, apart⟩ := List.nodup_cons.mp apart
      obtain ⟨leavesFirst, leavesRest⟩ := List.forall_mem_cons.mp others
      cases position with
      | zero =>
          cases here
          show means document (get result)
          have rest : ∀ other ∈ fields, other.Leaves get := by
            intro other member
            apply leavesRest other member
            intro same
            exact once (List.mem_map.mpr ⟨other, member, same⟩)
          rw [behind.leaves rest]
          exact sets document change tells record
      | succ position =>
          have member : field ∈ fields := List.mem_of_getElem? here
          have different : first.name ≠ field.name := by
            intro same
            exact once (List.mem_map.mpr ⟨field, member, same.symm⟩)
          rw [← leavesFirst different document change tells record]
          exact ih apart here leavesRest

end Listed

/-- What only one field changes is decided by the part of that field. -/
theorem RecordShape.Composed.decides
    {document : Document}
    (plain : shape.Plain)
    (composed : shape.Composed document result)
    {position : Nat}
    (here : shape.fields[position]? = some field)
    (sets : field.Sets get means)
    (others : ∀ other ∈ shape.fields, other.name ≠ field.name → other.Leaves get) :
    Decides means (document.part? field.name position) (get shape.blank) (get result) := by
  cases composed with
  | named parts named =>
      rw [parts]
      exact named.decides plain (List.mem_of_getElem? here) List.not_mem_nil sets others
  | listed parts listed =>
      rw [parts]
      exact listed.decides plain.apart here sets others

/--
What a part decides of a record decides what is seen of the record: it is what the part of one field means,
if all other fields leave it.
-/
theorem RecordShape.Plain.decides_within
    {γ : Type}
    {part : Option Document}
    {name : String}
    {position : Nat}
    {decoder : Decoder γ}
    {set : γ → α → α}
    (plain : shape.Plain)
    (whole : Decides shape.Composed part shape.blank record)
    (get : α → β)
    (seen : γ → β)
    (here : shape.fields[position]? = some (.defaulted name decoder set))
    (has : decoder.Means fun document value => means document (seen value))
    (same : ∀ value record, get (set value record) = seen value)
    (others : ∀ other ∈ shape.fields, other.name ≠ name → other.Leaves get) :
    Decides means (part.bind (Document.part? name position)) (get shape.blank) (get record) :=
  whole.inside get fun _ _ composed => composed.decides plain here (Field.defaulted_sets has same) others

end Parts

/-! ## Records by the names of their fields -/

theorem RecordShape.Plain.of_lookUp
    {name : String}
    {field : Field α}
    (plain : shape.Plain)
    (looked : shape.lookUp seen name = .ok (some field)) :
    field ∈ shape.fields ∧ field.name = name ∧ field.name ∉ seen := by
  rw [RecordShape.lookUp] at looked
  split at looked
  · rename_i found
    split at looked
    · cases looked
    · rename_i fresh
      cases looked
      have member := List.mem_of_find?_eq_some found
      have called : field.isCalled name = true := List.find?_some found
      rw [Field.isCalled, plain.single field member] at called
      refine ⟨member, ?_, ?_⟩
      · simpa using called
      · simpa using fresh
  · rw [if_pos plain.closed] at looked
    cases looked

/-- No name is passed over. -/
theorem RecordShape.Plain.lookUp_ne_none
    (plain : shape.Plain)
    (name : String) :
    shape.lookUp seen name ≠ .ok none := by
  rw [RecordShape.lookUp]
  split
  · split
    · exact nofun
    · exact nofun
  · rw [if_pos plain.closed]
    exact nofun

theorem finish_eq_ok
    (finished : shape.finish seen record = .ok result) :
    result = record := by
  rw [RecordShape.finish] at finished
  split at finished
  · cases finished
  · cases finished
    rfl

/-- Members of an object as parts of a document. -/
def documentsOf (members : List (String × Json)) : List (String × Document) :=
  members.map fun member => (member.1, .json member.2)

/-- Named fields are read as the members of any object are. -/
theorem mirrors_named
    (plain : shape.Plain)
    (depth : Nat)
    (first : Bool)
    (seen : List String)
    (record : α)
    (fuel : Nat) :
    Mirrors (fun result members => shape.Named seen record (documentsOf members) result)
      (shape.readNamed (depth + 1) first seen record fuel)
      (readMembers (readValue (depth + 1)) first fuel) := by
  induction fuel generalizing first seen record with
  | zero => exact .of_fails (fails_failAhead _)
  | succ fuel ih =>
      rw [RecordShape.readNamed, readMembers]
      apply Mirrors.same
      intro more
      split
      · apply Mirrors.same
        intro _
        apply Mirrors.same
        intro name
        cases looked : shape.lookUp seen name with
        | error cause => exact .of_fails (fails_mismatch _)
        | ok found =>
            cases found with
            | none => exact absurd looked (plain.lookUp_ne_none name)
            | some field =>
                obtain ⟨member, rfl, fresh⟩ := plain.of_lookUp looked
                apply Mirrors.same
                intro _
                apply ((plain.told field member).ofText depth).bind
                intro change json tells
                apply (ih false (field.name :: seen) (change record)).changed
                intro result members named
                exact .field member fresh tells named
      · split
        · rename_i finished
          cases finish_eq_ok finished
          exact .pure .done
        · exact .of_fails (fails_mismatch _)

/-! ## Records by the positions of their fields -/

/--
Fields in their order are read as the items of any array are.  The items that are read may be as many as the
bytes that are left, for there is a comma in front of each but the first.
-/
theorem listed_of_readOrdered
    {fields : List (Field α)}
    {depth position fuel : Nat}
    {first : Bool}
    {cursor between reached : Cursor}
    (told : ∀ field ∈ fields, field.change.Means field.change.Tells)
    (room : cursor.rest.length + first.toNat ≤ fuel)
    (read : shape.readOrdered (depth + 1) position first record fields cursor = (.ok result, between))
    (ended : endItems between = (.ok (), reached)) :
    ∃ items last, readItems (readValue (depth + 1)) first fuel cursor = (.ok items, last) ∧
      endItems last = (.ok (), reached) ∧ Listed fields record (items.map .json) result := by
  induction fields generalizing position fuel first record cursor with
  | nil =>
      cases read
      obtain ⟨closing, closes⟩ := skipBlanks_of_endItems ended
      obtain ⟨last, none_read, stands⟩ := readItems_of_closes closes first fuel
      refine ⟨[], last, none_read, ?_, .more⟩
      rw [endItems_of_closes stands closes]
      exact ended
  | cons field fields ih =>
      obtain ⟨tellsFirst, tellsRest⟩ := List.forall_mem_cons.mp told
      rw [RecordShape.readOrdered] at read
      obtain ⟨more, start, follows, behind⟩ := bind_eq_ok_iff.mp read
      rcases hasItem_eq_ok follows with ⟨rfl, closes⟩ | ⟨rfl, shorter⟩
      · rw [if_neg Bool.false_ne_true] at behind
        split at behind
        · -- Nothing follows, so that all fields behind this one are left out, too.
          have fewer := (onward_hasItem first cursor false start follows).length_le
          have left : start.rest.length + first.toNat ≤ fuel := by omega
          obtain ⟨items, last, rest, finished, listed⟩ := ih tellsRest left behind
          obtain ⟨other, none_left, standsHere⟩ := readItems_of_closes
            (skipBlanks_again closes) first fuel
          cases rest.symm.trans none_left
          obtain ⟨final, none_read, stands⟩ := readItems_of_closes closes first fuel
          refine ⟨[], final, none_read, ?_, ?_⟩
          · rw [endItems_of_closes stands standsHere]
            exact finished
          · cases listed with
            | fewer => exact .fewer
            | more => exact .fewer
        · cases behind
      · obtain ⟨fuel, rfl⟩ : ∃ less, fuel = less + 1 := ⟨fuel - 1, by omega⟩
        rw [if_pos rfl] at behind
        obtain ⟨change, next, here, others⟩ := bind_eq_ok_iff.mp behind
        obtain ⟨json, spelled, tells⟩ := tellsFirst.ofText depth start change next here
        have fewer := (onward_readValue (depth + 1) start json next spelled).length_le
        have left : next.rest.length + false.toNat ≤ fuel := by
          show next.rest.length + 0 ≤ fuel
          omega
        obtain ⟨items, last, rest, finished, listed⟩ := ih tellsRest left others
        refine ⟨json :: items, last, ?_, finished, .field tells listed⟩
        rw [readItems, bind_of_ok follows, if_pos rfl, bind_of_ok spelled, bind_of_ok rest]
        rfl

/-! ## Records -/

theorem named_of_ofTable
    {members : List (String × Toml.Value)}
    (plain : shape.Plain)
    (read : shape.ofTable seen record members = some result) :
    shape.Named seen record (members.map fun member => (member.1, .toml member.2)) result := by
  induction members generalizing seen record with
  | nil =>
      cases finished : shape.finish seen record with
      | error cause =>
          rw [RecordShape.ofTable, finished] at read
          cases read
      | ok other =>
          rw [RecordShape.ofTable, finished] at read
          cases read
          cases finish_eq_ok finished
          exact .done
  | cons member members ih =>
      obtain ⟨name, written⟩ := member
      rw [RecordShape.ofTable] at read
      cases looked : shape.lookUp seen name with
      | error cause =>
          rw [looked] at read
          cases read
      | ok found =>
          cases found with
          | none => exact absurd looked (plain.lookUp_ne_none name)
          | some field =>
              rw [looked] at read
              obtain ⟨member, rfl, fresh⟩ := plain.of_lookUp looked
              obtain ⟨_, same, behind⟩ := Option.bind_eq_some_iff.mp read
              cases same
              obtain ⟨change, taken, others⟩ := Option.bind_eq_some_iff.mp behind
              exact .field member fresh (.toml taken) (ih others)

theorem listed_of_ofArray
    {fields : List (Field α)}
    {items : List Toml.Value}
    (read : shape.ofArray record fields items = some result) :
    Listed fields record (items.map .toml) result := by
  induction fields generalizing record items with
  | nil =>
      cases read
      exact .more
  | cons field fields ih =>
      cases items with
      | nil =>
          rw [RecordShape.ofArray] at read
          split at read
          · cases ih read with
            | fewer => exact .fewer
            | more => exact .fewer
          · cases read
      | cons item items =>
          rw [RecordShape.ofArray] at read
          obtain ⟨change, taken, others⟩ := Option.bind_eq_some_iff.mp read
          exact .field (.toml taken) (ih others)

theorem composed_of_members
    {members : List (String × Json)}
    (named : shape.Named [] shape.blank (documentsOf members) result) :
    shape.Composed (.json (.ofMembers members)) result := by
  refine .named ?_ named
  intro name position
  have apart : (members.map (·.1)).Nodup := by
    have each := named.nodup
    rw [documentsOf, List.map_map] at each
    exact each
  calc
    (Names.find? name (Names.ofList members)).map Document.json
        = (Names.find? name members).map Document.json := by
          rw [Names.find?_ofList_of_nodup apart]
    _ = Names.find? name (documentsOf members) := (Names.find?_map Document.json members name).symm

theorem composed_of_items
    {items : List Json}
    (listed : Listed shape.fields shape.blank (items.map .json) result) :
    shape.Composed (.json (.array items)) result :=
  .listed (fun _ _ => List.getElem?_map.symm) listed

/-- Fields in their order and the end of the array are read as any array is. -/
theorem mirrors_listed
    (plain : shape.Plain)
    (depth : Nat) :
    Mirrors (fun result items => Listed shape.fields shape.blank (items.map .json) result)
      (thenEnd (shape.readOrdered (depth + 1) 0 true shape.blank shape.fields) endItems)
      (thenEnd (do readItems (readValue (depth + 1)) true (← itemBound)) endItems) := by
  intro cursor result reached read
  obtain ⟨between, here, ended⟩ := thenEnd_eq_ok_iff.mp read
  obtain ⟨items, last, items_read, finished, listed⟩ :=
    listed_of_readOrdered plain.told (Nat.le_refl (cursor.rest.length + 1)) here ended
  exact ⟨items, thenEnd_eq_ok_iff.mpr ⟨last, items_read, finished⟩, listed⟩

/-- A plain record is composed of the parts of the document that it is read from. -/
theorem means_record (plain : shape.Plain) : (Decoder.record shape).Means shape.Composed where
  ofText depth := by
    apply mirrors_readStarting
    intro byte begins
    simp only [Bool.or_eq_true, decide_eq_true_eq] at begins
    cases depth with
    | zero =>
        split
        · exact .of_fails (fails_failAhead _)
        · exact .of_fails (fails_failAhead _)
    | succ depth =>
        cases begins with
        | inl opens =>
            subst opens
            rw [if_pos rfl, valueAt_object]
            apply Mirrors.same
            intro _
            have inside : Mirrors
                (fun result members => shape.Named [] shape.blank (documentsOf members) result)
                (do shape.readNamed (depth + 1) true [] shape.blank (← itemBound))
                (do readMembers (readValue (depth + 1)) true (← itemBound)) :=
              Mirrors.same fun fuel => mirrors_named plain depth true [] shape.blank fuel
            exact (inside.thenEnd endMembers).changed fun _ _ => composed_of_members
        | inr opens =>
            subst opens
            rw [if_neg (by decide), valueAt_array]
            apply Mirrors.same
            intro _
            exact (mirrors_listed plain depth).changed fun _ _ => composed_of_items
  ofToml written value read := by
    cases written with
    | table members =>
        have named := named_of_ofTable plain read
        exact .named (fun name position => (Names.find?_map Document.toml members name).symm) named
    | array items => exact .listed (fun _ _ => List.getElem?_map.symm) (listed_of_ofArray read)
    | _ => cases read

end RequestHub.Decoder
