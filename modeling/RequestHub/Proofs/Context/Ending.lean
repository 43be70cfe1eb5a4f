import RequestHub.Proofs.Context.Family

/-!
# How contexts of a family end

A context has ended when its token, or one from which that comes, has been cancelled, and when one of the
times allowed to it or to a context above it is over.  `Kept` says so for all contexts of a family, and
what follows for contexts that come from each other: none outlives one above it, ending is for good, and a
cancellation reaches the contexts that share its token or come from it, and no others.
-/

namespace RequestHub

namespace Forest

variable {lines : List Nat → Prop} {above : Nat → List Nat} {made : Nat}

/-- No token comes from itself. -/
theorem not_mem_rest
    (forest : Forest lines above made)
    {token : Nat}
    {rest : List Nat}
    (present : lines (token :: rest)) :
    token ∉ rest := by
  intro member
  have whole := forest.rooted present token rest (List.suffix_refl _)
  obtain ⟨before, after, rfl⟩ := List.append_of_mem member
  have inner : token :: after <:+ token :: (before ++ token :: after) :=
    (List.suffix_append before (token :: after)).trans (List.suffix_cons _ _)
  have part := forest.rooted present token after inner
  have lengths := congrArg List.length (whole.trans part.symm)
  simp only [List.length_append, List.length_cons] at lengths
  omega

end Forest

namespace Member

variable {member : Member}

/-- A context that was derived, with a token of its own, from one with the lineage. -/
def ChildOf (member : Member) (older : List Birth) : Prop :=
  ∃ token born timeout, member.lineage = .child token born timeout :: older

theorem tokens_subset
    {ancestor : Member}
    (below : ancestor.lineage <:+ member.lineage) :
    ancestor.tokens ⊆ member.tokens := by
  obtain ⟨younger, lineage⟩ := below
  rw [Member.tokens, Member.tokens, ← lineage, List.flatMap_append]
  exact List.subset_append_right _ _

theorem bounds_subset
    {ancestor : Member}
    (below : ancestor.lineage <:+ member.lineage) :
    ancestor.bounds ⊆ member.bounds :=
  (below.filterMap Birth.bound?).subset

theorem ChildOf.tokens_eq
    {older : List Birth}
    (child : member.ChildOf older) :
    ∃ token, member.made? = some token ∧ member.tokens = token :: older.flatMap Birth.tokens := by
  obtain ⟨token, born, timeout, lineage⟩ := child
  refine ⟨token, ?_, ?_⟩
  · rw [Member.made?, lineage]
    rfl
  · rw [Member.tokens, lineage]
    rfl

end Member

namespace Family

variable {family : Family} {above : Nat → List Nat} {member : Member}

/-- The token of a context was cancelled, or one from which it comes. -/
def HasCancelled (family : Family) (member : Member) : Prop :=
  ∃ token ∈ family.cancelled, token ∈ member.tokens

/-- The clock has reached the end of a time that was allowed on the way to a context. -/
def HasPassed (family : Family) (member : Member) : Prop :=
  ∃ bound ∈ member.bounds, bound ≤ family.session.now

theorem Tracked.isCancelled_iff
    (tracked : family.Tracked above)
    (present : member ∈ family.members) :
    family.session.isCancelled member.context.token = true ↔ family.HasCancelled member := by
  have line := hasLine_of_mem present
  rw [Session.isCancelled, tracked.cancelled_eq, (tracked.faithful member present).token_eq,
    List.any_eq_true]
  constructor
  · rintro ⟨path, among, isPrefix⟩
    obtain ⟨token, cancelled, rfl⟩ := List.mem_map.mp among
    rw [List.isPrefixOf_iff_prefix, List.reverse_prefix] at isPrefix
    exact ⟨token, cancelled, isPrefix.subset List.mem_cons_self⟩
  · rintro ⟨token, cancelled, inside⟩
    refine ⟨_, List.mem_map_of_mem cancelled, ?_⟩
    rw [List.isPrefixOf_iff_prefix, List.reverse_prefix]
    exact (tracked.forest.isSuffix_iff line token).mpr inside

theorem min?_any_le_iff
    (bounds : List Nat)
    (now : Nat) :
    (bounds.min?.any fun bound => bound ≤ now) = true ↔ ∃ bound ∈ bounds, bound ≤ now := by
  cases least : bounds.min? with
  | none =>
      rw [List.min?_eq_none_iff.mp least]
      simp
  | some bound =>
      obtain ⟨member, lower⟩ := List.min?_eq_some_iff.mp least
      simp only [Option.any_some, decide_eq_true_eq]
      constructor
      · intro passed
        exact ⟨bound, member, passed⟩
      · rintro ⟨other, among, passed⟩
        exact Nat.le_trans (lower other among) passed

theorem Tracked.hasEnded_iff
    (tracked : family.Tracked above)
    (present : member ∈ family.members) :
    member.context.hasEnded family.session = true ↔
      family.HasCancelled member ∨ family.HasPassed member := by
  rw [Context.hasEnded, Bool.or_eq_true, tracked.isCancelled_iff present, Context.isOverdue,
    (tracked.faithful member present).deadline_eq, min?_any_le_iff]
  rfl

/-! ## Later families -/

/-- Contexts stay, cancellations are not taken back, and the clock does not go back. -/
structure Precedes (family later : Family) : Prop where
  members : family.members <+: later.members
  cancelled : family.cancelled ⊆ later.cancelled
  now : family.session.now ≤ later.session.now

namespace Precedes

theorem refl (family : Family) : family.Precedes family where
  members := List.prefix_refl _
  cancelled := List.Subset.refl _
  now := Nat.le_refl _

theorem trans {first second third : Family}
    (left : first.Precedes second) (right : second.Precedes third) :
    first.Precedes third where
  members := left.members.trans right.members
  cancelled := List.Subset.trans left.cancelled right.cancelled
  now := Nat.le_trans left.now right.now

theorem join (family : Family) (context : Context) (lineage : List Birth) :
    family.Precedes (family.join context lineage) where
  members := List.prefix_append _ _
  cancelled := List.Subset.refl _
  now := Nat.le_refl _

theorem revoke (family : Family) (token : Token) (line : List Nat) :
    family.Precedes (family.revoke token line) where
  members := List.prefix_refl _
  cancelled := List.subset_append_right _ _
  now := Nat.le_refl _

theorem step (family : Family) (deed : Deed) : family.Precedes (family.step deed) := by
  cases deed with
  | mint parent => exact ⟨List.prefix_refl _, List.Subset.refl _, Nat.le_refl _⟩
  | new => exact ⟨List.prefix_append _ _, List.Subset.refl _, Nat.le_refl _⟩
  | withToken number =>
      simp only [Family.step]
      split
      · exact .join family _ _
      · exact .refl family
  | clone number =>
      simp only [Family.step]
      split
      · exact .join family _ _
      · exact .refl family
  | tag number id =>
      simp only [Family.step]
      split
      · exact .join family _ _
      · exact .refl family
  | child number timeout =>
      simp only [Family.step]
      split
      · split
        · rename_i context session derived
          obtain ⟨-, -, rfl⟩ := (Context.child?_eq_some_iff ..).mp derived
          exact ⟨List.prefix_append _ _, List.Subset.refl _, Nat.le_refl _⟩
        · exact .refl family
      · exact .refl family
  | cancel number =>
      simp only [Family.step]
      split
      · exact .revoke family _ _
      · exact .refl family
  | cancelHandle number =>
      simp only [Family.step]
      split
      · exact .revoke family _ _
      · exact .refl family
  | advance duration => exact ⟨List.prefix_refl _, List.Subset.refl _, Nat.le_add_right _ _⟩

theorem after (family : Family) (deeds : List Deed) : family.Precedes (family.after deeds) := by
  induction deeds generalizing family with
  | nil => exact .refl family
  | cons deed deeds ih => exact (step family deed).trans (ih (family.step deed))

/-- What has ended a context ends it later on. -/
theorem ended
    {later : Family}
    (precedes : family.Precedes later)
    (ended : family.HasCancelled member ∨ family.HasPassed member) :
    later.HasCancelled member ∨ later.HasPassed member := by
  rcases ended with ⟨token, cancelled, inside⟩ | ⟨bound, among, passed⟩
  · exact Or.inl ⟨token, precedes.cancelled cancelled, inside⟩
  · exact Or.inr ⟨bound, among, Nat.le_trans passed precedes.now⟩

end Precedes

/-- What has ended a context ends all contexts that come from it. -/
theorem ended_of_suffix
    {ancestor : Member}
    (below : ancestor.lineage <:+ member.lineage)
    (ended : family.HasCancelled ancestor ∨ family.HasPassed ancestor) :
    family.HasCancelled member ∨ family.HasPassed member := by
  rcases ended with ⟨token, cancelled, inside⟩ | ⟨bound, among, passed⟩
  · exact Or.inl ⟨token, cancelled, Member.tokens_subset below inside⟩
  · exact Or.inr ⟨bound, Member.bounds_subset below among, passed⟩

/-! ## Cancelling a context -/

theorem step_cancel
    {number : Nat}
    {canceller : Member}
    (place : family.members[number]? = some canceller) :
    family.step (.cancel number) = family.revoke canceller.context.token canceller.tokens := by
  simp only [step, place]

/-- A cancellation ends the contexts whose line goes through its token, besides those that had ended. -/
theorem Tracked.hasEnded_cancel_iff
    (tracked : family.Tracked above)
    {number : Nat}
    {canceller : Member}
    (place : family.members[number]? = some canceller)
    (present : member ∈ family.members) :
    member.context.hasEnded (family.step (.cancel number)).session = true ↔
      member.context.hasEnded family.session = true ∨
        ∃ token ∈ canceller.tokens.head?, token ∈ member.tokens := by
  obtain ⟨next, stepped⟩ := tracked.step (.cancel number)
  have stays : member ∈ (family.step (.cancel number)).members :=
    (Precedes.step family _).members.subset present
  rw [stepped.hasEnded_iff stays, tracked.hasEnded_iff present, step_cancel place]
  constructor
  · rintro (⟨token, cancelled, inside⟩ | passed)
    · rcases List.mem_append.mp cancelled with own | before
      · exact Or.inr ⟨token, Option.mem_toList.mp own, inside⟩
      · exact Or.inl (Or.inl ⟨token, before, inside⟩)
    · exact Or.inl (Or.inr passed)
  · rintro (ended | ⟨token, own, inside⟩)
    · exact (Precedes.revoke family _ _).ended ended
    · exact Or.inl ⟨token, List.mem_append_left _ (Option.mem_toList.mpr own), inside⟩

/-- A cancellation does not change a context whose line does not go through its token. -/
theorem Tracked.hasEnded_cancel_eq
    (tracked : family.Tracked above)
    {number : Nat}
    {canceller : Member}
    (place : family.members[number]? = some canceller)
    (present : member ∈ family.members)
    (apart : ∀ token ∈ canceller.tokens.head?, token ∉ member.tokens) :
    member.context.hasEnded (family.step (.cancel number)).session =
      member.context.hasEnded family.session := by
  rw [Bool.eq_iff_iff, tracked.hasEnded_cancel_iff place present]
  constructor
  · rintro (ended | ⟨token, own, inside⟩)
    · exact ended
    · exact absurd inside (apart token own)
  · exact Or.inl

/-- Two contexts that come from one have different tokens of their own. -/
theorem Tracked.own_ne
    (tracked : family.Tracked above)
    {left right : Nat}
    {leftMember rightMember : Member}
    (leftPlace : family.members[left]? = some leftMember)
    (rightPlace : family.members[right]? = some rightMember)
    (different : left ≠ right)
    {token : Nat}
    (made : leftMember.made? = some token) :
    rightMember.made? ≠ some token := by
  have once := List.pairwise_iff_getElem.mp tracked.made_once
  obtain ⟨leftBound, leftEqual⟩ := List.getElem?_eq_some_iff.mp leftPlace
  obtain ⟨rightBound, rightEqual⟩ := List.getElem?_eq_some_iff.mp rightPlace
  subst leftEqual rightEqual
  rcases Nat.lt_or_gt_of_ne different with before | behind
  · exact once left right leftBound rightBound before token made
  · intro again
    exact once right left rightBound leftBound behind token again made

/-! ## What is true of every family -/

/-- What is true of the contexts of a family. -/
structure Kept (family : Family) : Prop where
  /-- The deadline is the earliest end of the times that were allowed on the way to the context. -/
  deadline_eq : ∀ member ∈ family.members, member.context.deadline = member.bounds.min?
  requestId_eq : ∀ member ∈ family.members, member.context.requestId = member.requestId?
  hasEnded_iff : ∀ member ∈ family.members,
    member.context.hasEnded family.session = true ↔
      family.HasCancelled member ∨ family.HasPassed member
  stays_ended : ∀ member ∈ family.members, member.context.hasEnded family.session = true →
    ∀ deeds, member.context.hasEnded (family.after deeds).session = true
  /-- A context ends with each of the contexts from which it comes. -/
  outlived : ∀ member ∈ family.members, ∀ ancestor ∈ family.members,
    ancestor.lineage <:+ member.lineage →
      (∀ bound ∈ ancestor.context.deadline, ∃ earlier ∈ member.context.deadline, earlier ≤ bound) ∧
      (ancestor.context.hasEnded family.session = true →
        member.context.hasEnded family.session = true)
  /-- A cancellation ends the contexts that share the token and those that come from them. -/
  hasEnded_cancel_iff : ∀ {number canceller}, family.members[number]? = some canceller →
    ∀ member ∈ family.members,
      member.context.hasEnded (family.step (.cancel number)).session = true ↔
        member.context.hasEnded family.session = true ∨
          ∃ token ∈ canceller.tokens.head?, token ∈ member.tokens
  parent_kept : ∀ {number : Nat} {child : Member}, family.members[number]? = some child →
    ∀ parent ∈ family.members, child.ChildOf parent.lineage →
      parent.context.hasEnded (family.step (.cancel number)).session =
        parent.context.hasEnded family.session
  sibling_kept : ∀ {left right : Nat} {leftMember rightMember : Member} {older : List Birth},
    family.members[left]? = some leftMember → family.members[right]? = some rightMember →
    left ≠ right → leftMember.ChildOf older → rightMember.ChildOf older →
      rightMember.context.hasEnded (family.step (.cancel left)).session =
        rightMember.context.hasEnded family.session
  /-- Within a context that has ended no work is begun, and its cancellation counts first. -/
  within_cancelled : ∀ member ∈ family.members, family.HasCancelled member →
    ∀ {σ α : Type} (work : Work σ α) scope subject,
      Work.within member.context work scope subject family.session =
        (.failed (.cancelled "execution context was cancelled"), subject, family.session)
  within_passed : ∀ member ∈ family.members,
    ¬ family.HasCancelled member → family.HasPassed member →
    ∀ {σ α : Type} (work : Work σ α) scope subject,
      Work.within member.context work scope subject family.session =
        (.failed (.cancelled "deadline exceeded"), subject, family.session)

theorem Tracked.kept (tracked : family.Tracked above) : family.Kept where
  deadline_eq member present := (tracked.faithful member present).deadline_eq
  requestId_eq member present := (tracked.faithful member present).requestId_eq
  hasEnded_iff member present := tracked.hasEnded_iff present
  stays_ended member present ended deeds := by
    obtain ⟨next, later⟩ := tracked.after deeds
    have precedes := Precedes.after family deeds
    have caused := (tracked.hasEnded_iff present).mp ended
    exact (later.hasEnded_iff (precedes.members.subset present)).mpr (precedes.ended caused)
  outlived member present ancestor known below := by
    constructor
    · intro bound deadline
      rw [(tracked.faithful ancestor known).deadline_eq] at deadline
      have among := (List.min?_eq_some_iff.mp deadline).1
      have inside : bound ∈ member.bounds := Member.bounds_subset below among
      rw [(tracked.faithful member present).deadline_eq]
      have some_least := List.isSome_min?_of_mem inside
      obtain ⟨earlier, least⟩ := Option.isSome_iff_exists.mp some_least
      exact ⟨earlier, least, (List.min?_eq_some_iff.mp least).2 bound inside⟩
    · rw [tracked.hasEnded_iff present, tracked.hasEnded_iff known]
      exact ended_of_suffix below
  hasEnded_cancel_iff place member present := tracked.hasEnded_cancel_iff place present
  parent_kept place parent present child := by
    apply tracked.hasEnded_cancel_eq place present
    obtain ⟨own, -, line⟩ := child.tokens_eq
    intro token first
    rw [line] at first
    obtain rfl := Option.some.inj first
    have known := hasLine_of_mem (List.mem_of_getElem? place)
    rw [line] at known
    exact tracked.forest.not_mem_rest known
  sibling_kept leftPlace rightPlace different leftChild rightChild := by
    apply tracked.hasEnded_cancel_eq leftPlace (List.mem_of_getElem? rightPlace)
    obtain ⟨own, made, line⟩ := leftChild.tokens_eq
    obtain ⟨other, otherMade, otherLine⟩ := rightChild.tokens_eq
    intro token first inside
    rw [line] at first
    obtain rfl := Option.some.inj first
    rw [otherLine] at inside
    rcases List.mem_cons.mp inside with rfl | above
    · exact tracked.own_ne leftPlace rightPlace different made otherMade
    · refine tracked.forest.not_mem_rest ?_ above
      rw [← line]
      exact hasLine_of_mem (List.mem_of_getElem? leftPlace)
  within_cancelled member present cancelled σ α work scope subject := by
    have ended := (tracked.hasEnded_iff present).mpr (Or.inl cancelled)
    have first := (tracked.isCancelled_iff present).mpr cancelled
    rw [Work.within, if_pos ended, Context.ending, if_pos first]
  within_passed member present lasting passed σ α work scope subject := by
    have ended := (tracked.hasEnded_iff present).mpr (Or.inr passed)
    have open_token := mt (tracked.isCancelled_iff present).mp lasting
    rw [Work.within, if_pos ended, Context.ending, if_neg open_token]

/-- Whatever is done with contexts and tokens, and however time goes by, contexts end as told. -/
theorem kept_after
    (epoch : Nat) (delivery : Nat → Delivery) (chance : Nat → Nat) (sampling : Sampling)
    (deeds : List Deed) :
    ((start epoch delivery chance sampling).after deeds).Kept := by
  obtain ⟨above, tracked⟩ := (Tracked.start epoch delivery chance sampling).after deeds
  exact tracked.kept

end Family

end RequestHub
