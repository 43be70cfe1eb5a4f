import RequestHub.Proofs.Names
import RequestHub.Shutdown

/-!
# Waiting for the last connection

Connections are opened and closed, and waiters listen, look, sleep and wake, one step at a time and in any
order.  A connection that is closed and a waiter that looks do not meet: the one takes itself off the count
before it tells the waiters, and the other listens before it looks at the count.

`Sound` is what every step keeps: a waiter that sleeps and has not been told sleeps for an open connection,
or for one that has left none open and has still to tell it.  `Drained` says the same of a run, together
with the steps from which it comes.
-/

namespace RequestHub

namespace Drain

variable {drain : Drain} {moves : List Move}

/-! ## The steps by their moves -/

@[simp]
theorem step_acquire (drain : Drain) (name : String) :
    drain.step (.acquire name) = drain.acquire name := rfl

@[simp]
theorem step_release (drain : Drain) (name : String) :
    drain.step (.release name) = drain.release name := rfl

@[simp]
theorem step_announce (drain : Drain) (name : String) :
    drain.step (.announce name) = drain.announce name := rfl

@[simp]
theorem step_call (drain : Drain) (name : String) : drain.step (.call name) = drain.call name := rfl

@[simp]
theorem step_listen (drain : Drain) (name : String) :
    drain.step (.listen name) = drain.change name Waiter.listen := rfl

@[simp]
theorem step_look (drain : Drain) (name : String) :
    drain.step (.look name) = drain.change name (Waiter.look drain.connections) := rfl

@[simp]
theorem step_wake (drain : Drain) (name : String) :
    drain.step (.wake name) = drain.change name Waiter.wake := rfl

/-! ## What a step does to the waiters -/

@[simp]
theorem find?_change
    (drain : Drain)
    (name wanted : String)
    (change : Waiter → Waiter) :
    (drain.change name change).waiters.find? wanted =
      if wanted = name then (drain.waiters.find? name).map change
      else drain.waiters.find? wanted := by
  rw [Drain.change]
  cases found : drain.waiters.find? name with
  | none =>
      by_cases same : wanted = name
      · rw [if_pos same, same, found, Option.map_none]
      · rw [if_neg same]
  | some waiter => exact Names.find?_insert name wanted (change waiter) drain.waiters

@[simp]
theorem find?_call
    (drain : Drain)
    (name wanted : String) :
    (drain.call name).waiters.find? wanted =
      if wanted = name then (drain.waiters.find? name).or (some .begins)
      else drain.waiters.find? wanted := by
  rw [Drain.call]
  cases found : drain.waiters.find? name with
  | none => exact Names.find?_insert name wanted .begins drain.waiters
  | some waiter =>
      by_cases same : wanted = name
      · rw [if_pos same, same, found, Option.some_or]
      · rw [if_neg same]

@[simp]
theorem find?_leave (drain : Drain) (name wanted : String) :
    (drain.step (.leave name)).waiters.find? wanted =
      if wanted = name then none else drain.waiters.find? wanted :=
  Names.find?_erase name wanted drain.waiters

theorem find?_announce
    {name : String} (owed : name ∈ drain.announcing) (wanted : String) :
    (drain.announce name).waiters.find? wanted =
      (drain.waiters.find? wanted).map Waiter.tell := by
  rw [Drain.announce, if_pos owed]
  exact Names.find?_map Waiter.tell drain.waiters wanted

@[simp]
theorem waiters_acquire (drain : Drain) (name : String) :
    (drain.acquire name).waiters = drain.waiters := by
  rw [Drain.acquire]
  split
  · rfl
  · rfl

@[simp]
theorem waiters_release (drain : Drain) (name : String) :
    (drain.release name).waiters = drain.waiters := by
  rw [Drain.release]
  split
  · rfl
  · rfl

/-- A waiter has no part in the connections: its step leaves all that is not a waiter. -/
structure SameConnections (drain other : Drain) : Prop where
  connections : other.connections = drain.connections
  held : other.held = drain.held
  announcing : other.announcing = drain.announcing

theorem sameConnections_change (drain : Drain) (name : String) (change : Waiter → Waiter) :
    SameConnections drain (drain.change name change) := by
  rw [Drain.change]
  split
  · exact ⟨rfl, rfl, rfl⟩
  · exact ⟨rfl, rfl, rfl⟩

theorem sameConnections_call (drain : Drain) (name : String) :
    SameConnections drain (drain.call name) := by
  rw [Drain.call]
  split
  · exact ⟨rfl, rfl, rfl⟩
  · exact ⟨rfl, rfl, rfl⟩

/-! ## What every step keeps -/

/-- A waiter that sleeps untold has a connection to tell it. -/
def Awaited (drain : Drain) : Prop :=
  ∀ name, drain.waiters.find? name = some (.sleeps false) →
    0 < drain.connections.active ∨ drain.announcing ≠ []

/-- What holds of connections and waiters at any time. -/
structure Sound (drain : Drain) : Prop where
  counted : drain.connections.active = drain.held.length
  distinct : (drain.held ++ drain.announcing).Nodup
  awaited : drain.Awaited

theorem Sound.fresh : fresh.Sound where
  counted := rfl
  distinct := List.nodup_nil
  awaited _ found := nomatch found

/-- A step of a waiter keeps what holds, if it puts none to sleep but for an open connection. -/
theorem Sound.of_sameConnections
    {other : Drain} (sound : drain.Sound) (same : SameConnections drain other)
    (sleeps : ∀ name, other.waiters.find? name = some (.sleeps false) →
      drain.waiters.find? name = some (.sleeps false) ∨ 0 < drain.connections.active) :
    other.Sound where
  counted := by
    rw [same.connections, same.held]
    exact sound.counted
  distinct := by
    rw [same.held, same.announcing]
    exact sound.distinct
  awaited := by
    intro name asleep
    rw [same.connections, same.announcing]
    exact (sleeps name asleep).elim (sound.awaited name) Or.inl

theorem Sound.change
    (sound : drain.Sound) (name : String) {change : Waiter → Waiter}
    (sleeps : ∀ waiter, change waiter = .sleeps false →
      waiter = .sleeps false ∨ 0 < drain.connections.active) :
    (drain.change name change).Sound := by
  refine sound.of_sameConnections (sameConnections_change drain name change) ?_
  intro wanted asleep
  rw [find?_change] at asleep
  split at asleep
  · rename_i same
    obtain ⟨waiter, found, changed⟩ := Option.map_eq_some_iff.mp asleep
    refine (sleeps waiter changed).imp_left fun slept => ?_
    rw [same, found, slept]
  · exact Or.inl asleep

theorem Sound.call (sound : drain.Sound) (name : String) : (drain.call name).Sound := by
  refine sound.of_sameConnections (sameConnections_call drain name) ?_
  intro wanted asleep
  rw [find?_call] at asleep
  split at asleep
  · rename_i same
    rcases Option.or_eq_some_iff.mp asleep with before | ⟨-, new⟩
    · exact Or.inl (same ▸ before)
    · cases new
  · exact Or.inl asleep

theorem Sound.leave (sound : drain.Sound) (name : String) :
    (drain.step (.leave name)).Sound := by
  refine sound.of_sameConnections ⟨rfl, rfl, rfl⟩ ?_
  intro wanted asleep
  rw [find?_leave] at asleep
  split at asleep
  · cases asleep
  · exact Or.inl asleep

/-- A waiter that looks goes to sleep only if it has seen an open connection. -/
theorem active_pos_of_look
    {connections : Connections} {waiter : Waiter}
    (asleep : waiter.look connections = .sleeps false) :
    waiter = .sleeps false ∨ 0 < connections.active := by
  cases waiter with
  | begins => cases asleep
  | returned => cases asleep
  | sleeps told => exact Or.inl asleep
  | listens told =>
      right
      rw [Waiter.look] at asleep
      split at asleep
      · cases asleep
      · rename_i busy
        simpa [Connections.isIdle, Nat.pos_iff_ne_zero] using busy

theorem Sound.acquire (sound : drain.Sound) (name : String) : (drain.acquire name).Sound := by
  rw [Drain.acquire]
  split
  · exact sound
  · rename_i unused
    constructor
    case counted => exact congrArg (· + 1) sound.counted
    case distinct =>
      rw [← List.mem_append] at unused
      exact List.nodup_cons.mpr ⟨unused, sound.distinct⟩
    case awaited => exact fun _ _ => Or.inl (Nat.succ_pos _)

theorem Sound.release (sound : drain.Sound) (name : String) : (drain.release name).Sound := by
  rw [Drain.release]
  split
  · rename_i held
    obtain ⟨once, owing, apart⟩ := List.nodup_append'.mp sound.distinct
    constructor
    case counted =>
      change drain.connections.active - 1 = (drain.held.erase name).length
      rw [List.length_erase_of_mem held, sound.counted]
    case distinct =>
      have gone : name ∉ drain.held.erase name := once.not_mem_erase
      have fewer : (drain.held.erase name).Disjoint drain.announcing :=
        List.disjoint_of_subset_left List.erase_subset apart
      refine List.nodup_append'.mpr ⟨once.erase name, ?_, ?_⟩
      · dsimp only
        split
        · exact List.nodup_cons.mpr ⟨fun owed => apart held owed, owing⟩
        · exact owing
      · dsimp only
        split
        · exact List.disjoint_cons_right.mpr ⟨gone, fewer⟩
        · exact fewer
    case awaited =>
      intro waiter asleep
      dsimp only at asleep ⊢
      -- Whoever takes the count to zero owes the news; nobody else takes it there.
      split
      · exact Or.inr (List.cons_ne_nil _ _)
      · rename_i several
        have positive : 0 < drain.connections.active :=
          sound.counted ▸ List.length_pos_of_mem held
        left
        change 0 < drain.connections.active - 1
        omega
  · exact sound

theorem Sound.announce (sound : drain.Sound) (name : String) : (drain.announce name).Sound := by
  by_cases owed : name ∈ drain.announcing
  · have told (waiter : String) :
        (drain.announce name).waiters.find? waiter ≠ some (.sleeps false) := by
      rw [find?_announce owed]
      intro asleep
      obtain ⟨before, -, heard⟩ := Option.map_eq_some_iff.mp asleep
      cases before <;> cases heard
    constructor
    case counted =>
      rw [Drain.announce, if_pos owed]
      exact sound.counted
    case distinct =>
      rw [Drain.announce, if_pos owed]
      exact sound.distinct.sublist (List.erase_sublist.append_left _)
    case awaited => exact fun waiter asleep => absurd asleep (told waiter)
  · rw [Drain.announce, if_neg owed]
    exact sound

/-- Every step keeps what holds of connections and waiters. -/
theorem Sound.step (sound : drain.Sound) (move : Move) : (drain.step move).Sound := by
  cases move with
  | acquire name => exact sound.acquire name
  | release name => exact sound.release name
  | announce name => exact sound.announce name
  | call name => exact sound.call name
  | leave name => exact sound.leave name
  | look name => exact sound.change name fun _ => active_pos_of_look
  | listen name =>
      refine sound.change name fun waiter asleep => Or.inl ?_
      cases waiter with
      | sleeps told => exact asleep
      | begins | listens told | returned => cases asleep
  | wake name =>
      refine sound.change name fun waiter asleep => Or.inl ?_
      cases waiter with
      | sleeps told =>
          cases told with
          | false => exact asleep
          | true => cases asleep
      | begins | listens told | returned => cases asleep

theorem Sound.after (sound : drain.Sound) (moves : List Move) : (drain.after moves).Sound := by
  induction moves generalizing drain with
  | nil => exact sound
  | cons move moves ih => exact ih (sound.step move)

/-! ## What has come before -/

/-- A waiter has looked and not left since, and no connection was open when it looked. -/
def SawNone (moves : List Move) (waiter : String) : Prop :=
  ∃ before later told,
    moves = before ++ .look waiter :: later ∧
      (fresh.after before).waiters.find? waiter = some (.listens told) ∧
        (fresh.after before).connections.active = 0 ∧ .leave waiter ∉ later

/-- A connection has been closed as the last one that was open, and has told nobody since. -/
def Owes (moves : List Move) (connection : String) : Prop :=
  ∃ before later,
    moves = before ++ .release connection :: later ∧
      connection ∈ (fresh.after before).held ∧
        (fresh.after before).connections.active = 1 ∧ .announce connection ∉ later

theorem after_concat (moves : List Move) (move : Move) :
    fresh.after (moves ++ [move]) = (fresh.after moves).step move :=
  List.foldl_concat ..

theorem not_mem_concat
    {move other : Move} {later : List Move} (absent : other ∉ later) (different : move ≠ other) :
    other ∉ later ++ [move] := by
  intro member
  rcases List.mem_append.mp member with old | new
  · exact absent old
  · exact different (List.mem_singleton.mp new).symm

theorem SawNone.concat
    {waiter : String} (saw : SawNone moves waiter) {move : Move} (stays : move ≠ .leave waiter) :
    SawNone (moves ++ [move]) waiter := by
  obtain ⟨before, later, told, rfl, listens, none, stayed⟩ := saw
  exact ⟨before, later ++ [move], told, by rw [List.append_assoc, List.cons_append], listens, none,
    not_mem_concat stayed stays⟩

theorem Owes.concat
    {connection : String} (owes : Owes moves connection) {move : Move}
    (other : move ≠ .announce connection) : Owes (moves ++ [move]) connection := by
  obtain ⟨before, later, rfl, held, last, silent⟩ := owes
  exact ⟨before, later ++ [move], by rw [List.append_assoc, List.cons_append], held, last,
    not_mem_concat silent other⟩

/-- A waiter that is changed into one that has returned had done so, or looked and saw no connection. -/
theorem returned_of_change
    {name wanted : String} {change : Waiter → Waiter}
    (keeps : ∀ waiter, change waiter = .returned → waiter = .returned)
    (returned : (drain.change name change).waiters.find? wanted = some .returned) :
    drain.waiters.find? wanted = some .returned := by
  rw [find?_change] at returned
  split at returned
  · rename_i same
    obtain ⟨waiter, found, changed⟩ := Option.map_eq_some_iff.mp returned
    rw [same, found, keeps waiter changed]
  · exact returned

/-- Only a look takes a waiter to its return, and only one at a count of zero. -/
theorem returned_of_step
    {move : Move} {name : String}
    (returned : (drain.step move).waiters.find? name = some .returned) :
    drain.waiters.find? name = some .returned ∧ move ≠ .leave name ∨
      move = .look name ∧ drain.connections.active = 0 ∧
        ∃ told, drain.waiters.find? name = some (.listens told) := by
  cases move with
  | acquire connection =>
      exact Or.inl ⟨waiters_acquire drain connection ▸ returned, nofun⟩
  | release connection =>
      exact Or.inl ⟨waiters_release drain connection ▸ returned, nofun⟩
  | announce connection =>
      left
      rw [step_announce] at returned
      by_cases owed : connection ∈ drain.announcing
      · rw [find?_announce owed] at returned
        obtain ⟨waiter, found, told⟩ := Option.map_eq_some_iff.mp returned
        cases waiter with
        | returned => exact ⟨found, nofun⟩
        | begins | listens told | sleeps told => cases told
      · rw [Drain.announce, if_neg owed] at returned
        exact ⟨returned, nofun⟩
  | call waiter =>
      left
      rw [step_call, find?_call] at returned
      split at returned
      · rename_i same
        rcases Option.or_eq_some_iff.mp returned with before | ⟨-, new⟩
        · exact ⟨same ▸ before, nofun⟩
        · cases new
      · exact ⟨returned, nofun⟩
  | leave waiter =>
      left
      rw [find?_leave] at returned
      split at returned
      · cases returned
      · rename_i other
        exact ⟨returned, fun same => other (Move.leave.inj same).symm⟩
  | listen waiter =>
      refine Or.inl ⟨returned_of_change ?_ returned, nofun⟩
      intro before changed
      cases before with
      | returned => rfl
      | begins | listens told | sleeps told => cases changed
  | wake waiter =>
      refine Or.inl ⟨returned_of_change ?_ returned, nofun⟩
      intro before changed
      cases before with
      | returned => rfl
      | sleeps told => cases told <;> cases changed
      | begins | listens told => cases changed
  | look waiter =>
      rw [step_look, find?_change] at returned
      split at returned
      · rename_i same
        obtain ⟨before, found, changed⟩ := Option.map_eq_some_iff.mp returned
        cases before with
        | returned => exact Or.inl ⟨same ▸ found, nofun⟩
        | begins | sleeps told => cases changed
        | listens told =>
            right
            rw [Waiter.look] at changed
            split at changed
            · rename_i idle
              exact ⟨same ▸ rfl, of_decide_eq_true idle, told, same ▸ found⟩
            · cases changed
      · exact Or.inl ⟨returned, nofun⟩

/-- Only closing the last connection lets it owe the news, and only its telling ends that. -/
theorem announcing_of_step
    (sound : drain.Sound) {move : Move} {connection : String}
    (owed : connection ∈ (drain.step move).announcing) :
    connection ∈ drain.announcing ∧ move ≠ .announce connection ∨
      move = .release connection ∧ connection ∈ drain.held ∧ drain.connections.active = 1 := by
  cases move with
  | acquire name =>
      left
      rw [step_acquire, Drain.acquire] at owed
      split at owed
      · exact ⟨owed, nofun⟩
      · exact ⟨owed, nofun⟩
  | release name =>
      rw [step_release, Drain.release] at owed
      split at owed
      · rename_i held
        dsimp only at owed
        split at owed
        · rename_i last
          rcases List.mem_cons.mp owed with rfl | before
          · exact Or.inr ⟨rfl, held, last⟩
          · exact Or.inl ⟨before, nofun⟩
        · exact Or.inl ⟨owed, nofun⟩
      · exact Or.inl ⟨owed, nofun⟩
  | announce name =>
      left
      rw [step_announce, Drain.announce] at owed
      split at owed
      · have owing : drain.announcing.Nodup := sound.distinct.of_append_right
        obtain ⟨other, before⟩ := (owing.mem_erase_iff).mp owed
        exact ⟨before, fun same => other (Move.announce.inj same).symm⟩
      · rename_i absent
        exact ⟨owed, fun same => absent (Move.announce.inj same ▸ owed)⟩
  | call name =>
      left
      rw [step_call, (sameConnections_call drain name).announcing] at owed
      exact ⟨owed, nofun⟩
  | listen name | look name | wake name =>
      left
      change connection ∈ (drain.change name _).announcing at owed
      rw [(sameConnections_change drain name _).announcing] at owed
      exact ⟨owed, nofun⟩
  | leave name => exact Or.inl ⟨owed, nofun⟩

theorem sawNone_of_returned
    (moves : List Move) {name : String}
    (returned : (fresh.after moves).waiters.find? name = some .returned) : SawNone moves name := by
  induction moves using List.reverseRecOn with
  | nil => cases returned
  | append_singleton moves move ih =>
      rw [after_concat] at returned
      rcases returned_of_step returned with ⟨before, stays⟩ | ⟨rfl, none, told, listens⟩
      · exact (ih before).concat stays
      · exact ⟨moves, [], told, rfl, listens, none, List.not_mem_nil⟩

theorem owes_of_announcing
    (moves : List Move) {connection : String}
    (owed : connection ∈ (fresh.after moves).announcing) : Owes moves connection := by
  induction moves using List.reverseRecOn with
  | nil => cases owed
  | append_singleton moves move ih =>
      rw [after_concat] at owed
      rcases announcing_of_step (Sound.fresh.after moves) owed with ⟨before, other⟩ | ⟨rfl, held, last⟩
      · exact (ih before).concat other
      · exact ⟨moves, [], rfl, held, last, List.not_mem_nil⟩

/-! ## What becomes of waiters -/

/-- A waiter that does not sleep untold has returned after its turn, if no connection is open. -/
theorem hasReturned_turn
    {name : String} {waiter : Waiter} (found : drain.waiters.find? name = some waiter)
    (none : drain.connections.active = 0) (heard : waiter ≠ .sleeps false) :
    (drain.after (turn name)).hasReturned name = true := by
  have idle : drain.connections.isIdle = true := decide_eq_true none
  let woken := drain.change name Waiter.wake
  let listening := woken.change name Waiter.listen
  have count : listening.connections = drain.connections :=
    (sameConnections_change woken name _).connections.trans
      (sameConnections_change drain name _).connections
  have ended : (drain.after (turn name)).waiters.find? name =
      some ((waiter.wake.listen).look drain.connections) := by
    change (listening.change name (Waiter.look listening.connections)).waiters.find? name = _
    rw [count]
    simp only [listening, woken, find?_change, if_pos, found, Option.map_some]
  rw [hasReturned, ended, decide_eq_true_iff]
  cases waiter with
  | returned => rfl
  | begins | listens told => simp [Waiter.wake, Waiter.listen, Waiter.look, idle]
  | sleeps told =>
      cases told with
      | false => exact absurd rfl heard
      | true => simp [Waiter.wake, Waiter.listen, Waiter.look, idle]

/-- What holds of connections and waiters after any steps. -/
structure Drained (moves : List Move) (drain : Drain) : Prop where
  /-- The count is that of the open connections, which have different names. -/
  counted : drain.connections.active = drain.held.length ∧ drain.held.Nodup
  /-- Who has returned has looked while no connection was open. -/
  returned : ∀ name, drain.waiters.find? name = some .returned → SawNone moves name
  /-- Who sleeps untold sleeps for an open connection, or for one that still owes the news. -/
  awaited : ∀ name, drain.waiters.find? name = some (.sleeps false) →
    0 < drain.connections.active ∨ ∃ connection ∈ drain.announcing, Owes moves connection
  /-- Once no connection is open and none owes the news, every waiter returns in its next turn. -/
  returns : drain.connections.active = 0 → drain.announcing = [] →
    ∀ name ∈ drain.waiters.keys, (drain.after (turn name)).hasReturned name = true

/-- Whatever the order of the steps, the news that no connection is open reaches every waiter. -/
theorem drained_after (moves : List Move) : Drained moves (fresh.after moves) := by
  have sound := Sound.fresh.after moves
  constructor
  case counted => exact ⟨sound.counted, sound.distinct.of_append_left⟩
  case returned => exact fun _ => sawNone_of_returned moves
  case awaited =>
    intro name asleep
    refine (sound.awaited name asleep).imp_right fun owing => ?_
    obtain ⟨connection, owed⟩ := List.exists_mem_of_ne_nil _ owing
    exact ⟨connection, owed, owes_of_announcing moves owed⟩
  case returns =>
    intro none silent name member
    rw [Names.mem_keys_iff, Names.contains, Option.isSome_iff_exists] at member
    obtain ⟨waiter, found⟩ := member
    refine hasReturned_turn found none ?_
    rintro rfl
    rcases sound.awaited name found with open' | owing
    · exact absurd none (Nat.ne_of_gt open')
    · exact owing silent

/-- A waiter that looks while the last connection is closed sleeps until it is told. -/
example :
    (fresh.after [.acquire "a", .call "w", .listen "w", .release "a"]).announcing = ["a"] ∧
      (fresh.after ([.acquire "a", .call "w", .listen "w", .look "w"] ++ closing "a" ++
        turn "w")).hasReturned "w" = true := by
  decide

end Drain

end RequestHub
