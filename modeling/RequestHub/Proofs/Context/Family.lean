import Mathlib.Logic.Function.Basic
import RequestHub.Work

/-!
# Families of contexts

Contexts are made from tokens and from other contexts, tokens are cancelled, and time goes by.  A
`Family` is a session with all contexts that have been made in it, each with its lineage: how it came to
be, then how the context from which it was made came to be, and so on.  Lineages are only a record.  What
a context knows of itself is its token, its deadline and its request.

A token goes by the number with which it was made.  `Tracked` says how the tokens and deadlines that
contexts carry follow from their lineages; it rests on tokens growing as a forest, in which a token that
is made now is below those from which it comes and above none.
-/

namespace RequestHub

/-- How a context comes to be. -/
inductive Birth where
  /-- With a token of its own. -/
  | root (token : Nat)
  /-- With a token from outside, which stands before those that it comes from. -/
  | given (line : List Nat)
  | clone
  | tagged (id : Uuid)
  /-- Below another context, with a token of its own, for a time that begins when it is born. -/
  | child (token born timeout : Nat)

namespace Birth

/-- The tokens that come with a birth, each before the one from which it comes. -/
def tokens : Birth → List Nat
  | .root token => [token]
  | .given line => line
  | .clone | .tagged _ => []
  | .child token _ _ => [token]

/-- The token that is made at a birth. -/
def made? : Birth → Option Nat
  | .root token | .child token _ _ => some token
  | .given _ | .clone | .tagged _ => none

/-- The instant at which the time that a birth allows is over. -/
def bound? : Birth → Option Nat
  | .child _ born timeout => some (born + timeout)
  | .root _ | .given _ | .clone | .tagged _ => none

def requestId? : Birth → Option Uuid
  | .tagged id => some id
  | .root _ | .given _ | .clone | .child _ _ _ => none

end Birth

/-- A context with its lineage, its own birth first. -/
structure Member where
  context : Context
  lineage : List Birth

namespace Member

/-- The token of a context and those from which it comes. -/
def tokens (member : Member) : List Nat :=
  member.lineage.flatMap Birth.tokens

/-- The ends of all times that were allowed on the way to a context. -/
def bounds (member : Member) : List Nat :=
  member.lineage.filterMap Birth.bound?

/-- The request of the nearest birth that names one. -/
def requestId? (member : Member) : Option Uuid :=
  member.lineage.findSome? Birth.requestId?

/-- The token that was made for a context, if it does not share one. -/
def made? (member : Member) : Option Nat :=
  member.lineage.head?.bind Birth.made?

end Member

/-- A token that is held outside of contexts, with the tokens from which it comes. -/
structure Handle where
  token : Token
  line : List Nat

/-- A session, what has been made in it, and the tokens that have been cancelled in it. -/
structure Family where
  session : Session
  handles : List Handle
  members : List Member
  cancelled : List Nat

/-- What is done with contexts and tokens, which go by their places in the order of their making. -/
inductive Deed where
  /-- Makes a token outside of contexts, perhaps below another one. -/
  | mint (parent : Option Nat)
  | new
  | withToken (handle : Nat)
  | clone (parent : Nat)
  | tag (parent : Nat) (id : Uuid)
  | child (parent timeout : Nat)
  | cancel (member : Nat)
  | cancelHandle (handle : Nat)
  | advance (duration : Nat)

namespace Family

/-- A family without contexts, at the beginning of a session. -/
def start (epoch : Nat) (delivery : Nat → Delivery) (chance : Nat → Nat) (sampling : Sampling) :
    Family :=
  ⟨.start epoch delivery chance sampling, [], [], []⟩

/-- The family with one more context. -/
def join (family : Family) (context : Context) (lineage : List Birth) : Family :=
  { family with members := family.members ++ [⟨context, lineage⟩] }

/-- The family with the first one of some tokens cancelled. -/
def revoke (family : Family) (token : Token) (line : List Nat) : Family :=
  { family with
    session := family.session.cancel token
    cancelled := line.head?.toList ++ family.cancelled }

/--
The family after a deed.  Nothing is done if what it would be done with is missing, or if the time of a
new context would end later than the last instant.
-/
def step (family : Family) : Deed → Family
  | .mint parent =>
      let above := (parent.bind fun number => family.handles[number]?).getD ⟨[], []⟩
      let (token, session) := family.session.freshToken above.token
      { family with
        session
        handles := family.handles ++ [⟨token, family.session.made :: above.line⟩] }
  | .new =>
      let (token, session) := family.session.freshToken []
      { family with session }.join (.ofToken token) [.root family.session.made]
  | .withToken number =>
      match family.handles[number]? with
      | some handle => family.join (.ofToken handle.token) [.given handle.line]
      | none => family
  | .clone number =>
      match family.members[number]? with
      | some parent => family.join parent.context (.clone :: parent.lineage)
      | none => family
  | .tag number id =>
      match family.members[number]? with
      | some parent => family.join (parent.context.forRequest id) (.tagged id :: parent.lineage)
      | none => family
  | .child number timeout =>
      match family.members[number]? with
      | some parent =>
          match parent.context.child? timeout family.session with
          | some (context, session) =>
              { family with session }.join context
                (.child family.session.made family.session.now timeout :: parent.lineage)
          | none => family
      | none => family
  | .cancel number =>
      match family.members[number]? with
      | some member => family.revoke member.context.token member.tokens
      | none => family
  | .cancelHandle number =>
      match family.handles[number]? with
      | some handle => family.revoke handle.token handle.line
      | none => family
  | .advance duration =>
      { family with session := { family.session with now := family.session.now + duration } }

/-- The family after some deeds, one after another. -/
def after (family : Family) (deeds : List Deed) : Family :=
  deeds.foldl step family

/-- A token in the family, with those from which it comes. -/
def HasLine (family : Family) (line : List Nat) : Prop :=
  (∃ member ∈ family.members, member.tokens = line) ∨ ∃ handle ∈ family.handles, handle.line = line

end Family

/-! ## Forests of tokens -/

/-- Lines in which each of the tokens made so far stands before the same tokens wherever it stands. -/
structure Forest (lines : List Nat → Prop) (above : Nat → List Nat) (made : Nat) : Prop where
  below_made : ∀ {line}, lines line → ∀ token ∈ line, token < made
  rooted : ∀ {line}, lines line → ∀ token rest, token :: rest <:+ line → rest = above token

namespace Forest

variable {lines others : List Nat → Prop} {above : Nat → List Nat} {made : Nat} {line : List Nat}

theorem mono
    (forest : Forest lines above made)
    (known : ∀ {line}, others line → lines line) :
    Forest others above made where
  below_made line := forest.below_made (known line)
  rooted line := forest.rooted (known line)

/-- What stands before a token in one line stands before it in every line. -/
theorem isSuffix_iff
    (forest : Forest lines above made)
    (present : lines line)
    (token : Nat) :
    token :: above token <:+ line ↔ token ∈ line := by
  constructor
  · intro suffix
    exact suffix.subset List.mem_cons_self
  · intro member
    obtain ⟨before, rest, rfl⟩ := List.append_of_mem member
    have suffix : token :: rest <:+ before ++ token :: rest := List.suffix_append _ _
    rwa [← forest.rooted present token rest suffix]

/-- A token that is made now is below those from which it comes. -/
theorem grow
    (forest : Forest lines above made)
    (known : line = [] ∨ lines line) :
    Forest (fun other => other = made :: line ∨ lines other)
      (Function.update above made line) (made + 1) := by
  have older {token : Nat} (member : token ∈ line) : token < made := by
    rcases known with rfl | known
    · cases member
    · exact forest.below_made known token member
  have same {token : Nat} (old : token < made) :
      Function.update above made line token = above token :=
    Function.update_of_ne (Nat.ne_of_lt old) ..
  constructor
  · rintro other (rfl | present) token member
    · rcases List.mem_cons.mp member with rfl | member
      · exact Nat.lt_succ_self token
      · exact Nat.lt_succ_of_lt (older member)
    · exact Nat.lt_succ_of_lt (forest.below_made present token member)
  · rintro other (rfl | present) token rest suffix
    · rcases List.suffix_cons_iff.mp suffix with equal | suffix
      · obtain ⟨rfl, rfl⟩ := List.cons.inj equal
        rw [Function.update_self]
      · rw [same (older (suffix.subset List.mem_cons_self))]
        rcases known with rfl | known
        · cases List.suffix_nil.mp suffix
        · exact forest.rooted known token rest suffix
    · rw [same (forest.below_made present token (suffix.subset List.mem_cons_self))]
      exact forest.rooted present token rest suffix

end Forest

/-! ## Sessions whose cancellations are accounted for -/

/-- The tokens that were cancelled are among those that have been made. -/
def Session.Accounted (session : Session) : Prop :=
  ∀ token ∈ session.cancelled, ∀ number ∈ token, number < session.made

namespace Session.Accounted

variable {session : Session}

theorem of_le
    (accounted : session.Accounted)
    {later : Session}
    (kept : later.cancelled = session.cancelled)
    (onward : session.made ≤ later.made) :
    later.Accounted := by
  intro token member number inside
  rw [kept] at member
  exact Nat.lt_of_lt_of_le (accounted token member number inside) onward

theorem cancel
    (accounted : session.Accounted)
    {token : Token}
    (made : ∀ number ∈ token, number < session.made) :
    (session.cancel token).Accounted := by
  intro cancelled member
  rcases List.mem_cons.mp member with rfl | before
  · exact made
  · exact accounted cancelled before

/-- A token that is new is cancelled only if the token that it comes from is. -/
theorem isCancelled_fresh
    (accounted : session.Accounted)
    {token : Token}
    (isOpen : session.isCancelled token = false) :
    session.isCancelled (token ++ [session.made]) = false := by
  rw [Session.isCancelled, List.any_eq_false] at isOpen ⊢
  intro cancelled among isPrefix
  rw [List.isPrefixOf_iff_prefix, List.prefix_concat_iff] at isPrefix
  rcases isPrefix with rfl | before
  · have made := accounted _ among session.made (by simp)
    exact Nat.lt_irrefl _ made
  · exact isOpen cancelled among (List.isPrefixOf_iff_prefix.mpr before)

end Session.Accounted

/-! ## Lineages and what contexts carry -/

/-- A context carries what its lineage says. -/
structure Member.Faithful (member : Member) : Prop where
  token_eq : member.context.token = member.tokens.reverse
  tokens_ne_nil : member.tokens ≠ []
  deadline_eq : member.context.deadline = member.bounds.min?
  requestId_eq : member.context.requestId = member.requestId?

namespace Family

/-- Contexts carry what their lineages say, and the session has cancelled what the family has. -/
structure Tracked (family : Family) (above : Nat → List Nat) : Prop where
  forest : Forest family.HasLine above family.session.made
  faithful : ∀ member ∈ family.members, member.Faithful
  handle_eq : ∀ handle ∈ family.handles,
    handle.token = handle.line.reverse ∧ handle.line ≠ []
  accounted : family.session.Accounted
  cancelled_eq : family.session.cancelled =
    family.cancelled.map fun token => (token :: above token).reverse
  made_once : family.members.Pairwise fun left right =>
    ∀ token, left.made? = some token → right.made? ≠ some token

variable {family : Family} {above : Nat → List Nat}

theorem hasLine_of_mem {member : Member} (present : member ∈ family.members) :
    family.HasLine member.tokens :=
  Or.inl ⟨member, present, rfl⟩

theorem hasLine_of_handle {handle : Handle} (present : handle ∈ family.handles) :
    family.HasLine handle.line :=
  Or.inr ⟨handle, present, rfl⟩

theorem hasLine_join {context : Context} {lineage : List Birth} {line : List Nat}
    (present : (family.join context lineage).HasLine line) :
    line = Member.tokens ⟨context, lineage⟩ ∨ family.HasLine line := by
  rcases present with ⟨member, among, rfl⟩ | outside
  · rcases List.mem_append.mp among with before | new
    · exact Or.inr (hasLine_of_mem before)
    · exact Or.inl (congrArg Member.tokens (List.mem_singleton.mp new))
  · exact Or.inr (Or.inr outside)

theorem made?_lt
    (tracked : family.Tracked above)
    {member : Member}
    (present : member ∈ family.members)
    {token : Nat}
    (made : member.made? = some token) :
    token < family.session.made := by
  apply tracked.forest.below_made (hasLine_of_mem present)
  obtain ⟨birth, first, own⟩ := Option.bind_eq_some_iff.mp made
  obtain ⟨older, lineage⟩ := List.head?_eq_some_iff.mp first
  rw [Member.tokens, lineage, List.flatMap_cons]
  apply List.mem_append_left
  cases birth with
  | root | child =>
      obtain rfl := Option.some.inj own
      exact List.mem_singleton_self _
  | given | clone | tagged => cases own

/-- A context that shares the token of another one, or that of a handle. -/
theorem Tracked.share
    (tracked : family.Tracked above)
    {context : Context}
    {lineage : List Birth}
    (known : family.HasLine (Member.tokens ⟨context, lineage⟩))
    (faithful : Member.Faithful ⟨context, lineage⟩)
    (shares : Member.made? ⟨context, lineage⟩ = none) :
    (family.join context lineage).Tracked above where
  forest := tracked.forest.mono fun present => by
    rcases hasLine_join present with rfl | old
    · exact known
    · exact old
  faithful member among := by
    rcases List.mem_append.mp among with before | new
    · exact tracked.faithful member before
    · rwa [List.mem_singleton.mp new]
  handle_eq := tracked.handle_eq
  accounted := tracked.accounted
  cancelled_eq := tracked.cancelled_eq
  made_once := by
    refine List.pairwise_append.mpr ⟨tracked.made_once, List.pairwise_singleton _ _, ?_⟩
    intro left _ right new token _
    rw [List.mem_singleton.mp new, shares]
    exact nofun

theorem Tracked.cancelled_made
    (tracked : family.Tracked above)
    {token : Nat}
    (member : token ∈ family.cancelled) :
    token < family.session.made := by
  have cancelled : (token :: above token).reverse ∈ family.session.cancelled := by
    rw [tracked.cancelled_eq]
    exact List.mem_map_of_mem member
  exact tracked.accounted _ cancelled token (List.mem_reverse.mpr List.mem_cons_self)

/-- The session after a token has been made. -/
theorem Tracked.cancelled_grow
    (tracked : family.Tracked above)
    (line : List Nat) :
    family.session.cancelled =
      family.cancelled.map fun token =>
        (token :: Function.update above family.session.made line token).reverse := by
  rw [tracked.cancelled_eq]
  apply List.map_congr_left
  intro token member
  rw [Function.update_of_ne (Nat.ne_of_lt (tracked.cancelled_made member))]

/-- A context for which a token is made. -/
theorem Tracked.bear
    (tracked : family.Tracked above)
    {session : Session}
    {context : Context}
    {birth : Birth}
    {older : List Birth}
    (made : session.made = family.session.made + 1)
    (kept : session.cancelled = family.session.cancelled)
    (own : birth.made? = some family.session.made)
    (known : older.flatMap Birth.tokens = [] ∨ family.HasLine (older.flatMap Birth.tokens))
    (faithful : Member.Faithful ⟨context, birth :: older⟩) :
    ∃ above, ({ family with session }.join context (birth :: older)).Tracked above := by
  have line : Member.tokens ⟨context, birth :: older⟩ =
      family.session.made :: older.flatMap Birth.tokens := by
    cases birth with
    | root | child =>
        obtain rfl := Option.some.inj own
        rfl
    | given | clone | tagged => cases own
  refine ⟨Function.update above family.session.made (older.flatMap Birth.tokens), ?_⟩
  exact {
    forest := by
      change Forest _ _ session.made
      rw [made]
      refine (tracked.forest.grow known).mono fun present => ?_
      rw [← line]
      exact hasLine_join present
    faithful := by
      intro member among
      rcases List.mem_append.mp among with before | new
      · exact tracked.faithful member before
      · rwa [List.mem_singleton.mp new]
    handle_eq := tracked.handle_eq
    accounted := tracked.accounted.of_le kept (made ▸ Nat.le_succ _)
    cancelled_eq := kept.trans (tracked.cancelled_grow _)
    made_once := by
      refine List.pairwise_append.mpr ⟨tracked.made_once, List.pairwise_singleton _ _, ?_⟩
      intro left before right new token earlier later
      rw [List.mem_singleton.mp new] at later
      have same : family.session.made = token := Option.some.inj (own.symm.trans later)
      exact absurd (made?_lt tracked before earlier) (same ▸ Nat.lt_irrefl _) }

/-- A token that is made outside of contexts. -/
theorem Tracked.mint
    (tracked : family.Tracked above)
    {handle : Handle}
    (known : handle.line = [] ∨ family.HasLine handle.line)
    (equal : handle.token = handle.line.reverse) :
    ∃ above, Tracked
      { family with
        session := (family.session.freshToken handle.token).2
        handles := family.handles ++
          [⟨(family.session.freshToken handle.token).1, family.session.made :: handle.line⟩] }
      above := by
  refine ⟨Function.update above family.session.made handle.line, ?_⟩
  exact {
    forest := by
      refine (tracked.forest.grow known).mono ?_
      rintro line (inside | ⟨other, among, rfl⟩)
      · exact Or.inr (Or.inl inside)
      · rcases List.mem_append.mp among with before | new
        · exact Or.inr (hasLine_of_handle before)
        · exact Or.inl (congrArg Handle.line (List.mem_singleton.mp new))
    faithful := tracked.faithful
    handle_eq := by
      intro other among
      rcases List.mem_append.mp among with before | new
      · exact tracked.handle_eq other before
      · rw [List.mem_singleton.mp new]
        refine ⟨?_, List.cons_ne_nil _ _⟩
        change handle.token ++ [family.session.made] = _
        rw [equal, List.reverse_cons]
    accounted := tracked.accounted.of_le rfl (Nat.le_succ _)
    cancelled_eq := tracked.cancelled_grow _
    made_once := tracked.made_once }

/-- A token of the family is cancelled. -/
theorem Tracked.revoke
    (tracked : family.Tracked above)
    {token : Token}
    {line : List Nat}
    (known : family.HasLine line)
    (equal : token = line.reverse)
    (filled : line ≠ []) :
    (family.revoke token line).Tracked above := by
  obtain ⟨own, rest, rfl⟩ := List.exists_cons_of_ne_nil filled
  exact {
    forest := tracked.forest
    faithful := tracked.faithful
    handle_eq := tracked.handle_eq
    accounted := by
      apply tracked.accounted.cancel
      intro number inside
      rw [equal] at inside
      exact tracked.forest.below_made known number (List.mem_reverse.mp inside)
    cancelled_eq := by
      change token :: family.session.cancelled = _
      rw [tracked.cancelled_eq, equal, tracked.forest.rooted known own rest (List.suffix_refl _)]
      rfl
    made_once := tracked.made_once }

theorem Tracked.start
    (epoch : Nat) (delivery : Nat → Delivery) (chance : Nat → Nat) (sampling : Sampling) :
    (start epoch delivery chance sampling).Tracked fun _ => [] where
  forest := by
    constructor
    · rintro line (⟨_, among, _⟩ | ⟨_, among, _⟩)
      · cases among
      · cases among
    · rintro line (⟨_, among, _⟩ | ⟨_, among, _⟩)
      · cases among
      · cases among
  faithful := nofun
  handle_eq := nofun
  accounted := nofun
  cancelled_eq := rfl
  made_once := List.Pairwise.nil

/-- A context below another one ends with the first of all times allowed to it. -/
theorem earlier_eq_min?
    (bounds : List Nat)
    (instant : Nat) :
    some (Context.earlier bounds.min? instant) = (instant :: bounds).min? := by
  rw [List.min?_cons]
  cases bounds.min? with
  | none => rfl
  | some bound => exact congrArg some (Nat.min_comm bound instant)

theorem Tracked.step
    (tracked : family.Tracked above)
    (deed : Deed) :
    ∃ above, (family.step deed).Tracked above := by
  cases deed with
  | mint parent =>
      apply tracked.mint
      · cases found : parent.bind fun number => family.handles[number]? with
        | none => exact Or.inl rfl
        | some handle =>
            obtain ⟨number, -, place⟩ := Option.bind_eq_some_iff.mp found
            exact Or.inr (hasLine_of_handle (List.mem_of_getElem? place))
      · cases found : parent.bind fun number => family.handles[number]? with
        | none => rfl
        | some handle =>
            obtain ⟨number, -, place⟩ := Option.bind_eq_some_iff.mp found
            exact (tracked.handle_eq handle (List.mem_of_getElem? place)).1
  | new =>
      refine tracked.bear rfl rfl rfl (Or.inl rfl) ?_
      exact ⟨rfl, List.cons_ne_nil _ _, rfl, rfl⟩
  | withToken number =>
      simp only [Family.step]
      split
      · rename_i handle place
        have present := List.mem_of_getElem? place
        have line : Member.tokens ⟨.ofToken handle.token, [.given handle.line]⟩ = handle.line :=
          List.append_nil _
        have known : family.HasLine handle.line := hasLine_of_handle present
        obtain ⟨equal, filled⟩ := tracked.handle_eq handle present
        rw [← line] at known equal filled
        exact ⟨above, tracked.share known ⟨equal, filled, rfl, rfl⟩ rfl⟩
      · exact ⟨above, tracked⟩
  | clone number =>
      simp only [Family.step]
      split
      · rename_i parent place
        have present := List.mem_of_getElem? place
        have known : family.HasLine parent.tokens := hasLine_of_mem present
        have faithful := tracked.faithful parent present
        refine ⟨above, tracked.share known ?_ rfl⟩
        exact ⟨faithful.token_eq, faithful.tokens_ne_nil, faithful.deadline_eq,
          faithful.requestId_eq⟩
      · exact ⟨above, tracked⟩
  | tag number id =>
      simp only [Family.step]
      split
      · rename_i parent place
        have present := List.mem_of_getElem? place
        have known : family.HasLine parent.tokens := hasLine_of_mem present
        have faithful := tracked.faithful parent present
        refine ⟨above, tracked.share known ?_ rfl⟩
        exact ⟨faithful.token_eq, faithful.tokens_ne_nil, faithful.deadline_eq, rfl⟩
      · exact ⟨above, tracked⟩
  | child number timeout =>
      simp only [Family.step]
      split
      · rename_i parent place
        have present := List.mem_of_getElem? place
        have faithful := tracked.faithful parent present
        split
        · rename_i context session derived
          obtain ⟨-, rfl, rfl⟩ := (Context.child?_eq_some_iff ..).mp derived
          refine tracked.bear rfl rfl rfl (Or.inr (hasLine_of_mem present)) ?_
          constructor
          · change parent.context.token ++ [family.session.made] = _
            rw [faithful.token_eq]
            exact (List.reverse_cons ..).symm
          · exact List.cons_ne_nil _ _
          · change some (Context.earlier parent.context.deadline _) = _
            rw [faithful.deadline_eq]
            exact earlier_eq_min? _ _
          · exact faithful.requestId_eq
        · exact ⟨above, tracked⟩
      · exact ⟨above, tracked⟩
  | cancel number =>
      simp only [Family.step]
      split
      · rename_i member place
        have present := List.mem_of_getElem? place
        have faithful := tracked.faithful member present
        exact ⟨above, tracked.revoke (hasLine_of_mem present) faithful.token_eq
          faithful.tokens_ne_nil⟩
      · exact ⟨above, tracked⟩
  | cancelHandle number =>
      simp only [Family.step]
      split
      · rename_i handle place
        have present := List.mem_of_getElem? place
        obtain ⟨equal, filled⟩ := tracked.handle_eq handle present
        exact ⟨above, tracked.revoke (hasLine_of_handle present) equal filled⟩
      · exact ⟨above, tracked⟩
  | advance duration =>
      exact ⟨above, tracked.forest, tracked.faithful, tracked.handle_eq, tracked.accounted,
        tracked.cancelled_eq, tracked.made_once⟩

theorem Tracked.after
    (tracked : family.Tracked above)
    (deeds : List Deed) :
    ∃ above, (family.after deeds).Tracked above := by
  induction deeds generalizing family above with
  | nil => exact ⟨above, tracked⟩
  | cons deed deeds ih =>
      obtain ⟨next, stepped⟩ := tracked.step deed
      exact ih stepped

/-- In the session of a family no token is cancelled that has not been made. -/
theorem accounted_after
    (epoch : Nat) (delivery : Nat → Delivery) (chance : Nat → Nat) (sampling : Sampling)
    (deeds : List Deed) :
    ((start epoch delivery chance sampling).after deeds).session.Accounted := by
  obtain ⟨above, tracked⟩ := (Tracked.start epoch delivery chance sampling).after deeds
  exact tracked.accounted

end Family

end RequestHub
