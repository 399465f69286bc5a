import DeviceHttp.Proofs.Books

/-!
# The counters of failures

A server counts failed requests in a row and checks in a row that find the link down. This module
says what "in a row" means, over every history of a server: a counter is about the events of its
kind since the latest event that starts it anew.

## Histories

A history is a list of calls on a server that was bound: cycles, restarts, and what others do in
between. What the link, the source and the peers do is part of the server they are made on, for all
of its future. Handlers are functions of the request there, but others may exchange the routes
between two calls; in this way the handlers of every cycle may behave as they like.

`Server.entries` is what such a history shows from outside: the finding about the link, whether
accepting or handling the connection failed, and the answer of the call. The counters do not occur
in it. `Entry.failuresInRow` and `Entry.linkDownsInRow` count its events.

## Counting in words

The counters are words. Over every history they hold the numbers of events in a row modulo the size
of a word, and whether a restart is tried is decided by the words. They are the numbers themselves
as long as these fit (`Entry.Fits`): in a history with fewer entries than a word can count, and in
a history of any length in which no restart has failed, because there a restart comes before a
counter has gone through all the words.
-/

namespace DeviceHttp

/-! ## Events in a row -/

section Count

variable {α : Type}

/-- How many counted entries follow the latest one that starts anew. The latest entry is the last
one. -/
def countSince (startsAnew counted : α → Bool) (entries : List α) : Nat :=
  (entries.reverse.takeWhile (!startsAnew ·)).countP counted

theorem countSince_concat (startsAnew counted : α → Bool) (entries : List α) (entry : α) :
    countSince startsAnew counted (entries ++ [entry]) =
      if startsAnew entry then 0
      else countSince startsAnew counted entries + if counted entry then 1 else 0 := by
  rw [countSince, List.reverse_append, List.reverse_singleton, List.singleton_append,
    List.takeWhile_cons]
  cases startsAnew entry with
  | true => rfl
  | false =>
    simp only [Bool.not_false, if_true, Bool.false_eq_true, if_false, List.countP_cons]
    rfl

theorem countSince_le_length (startsAnew counted : α → Bool) (entries : List α) :
    countSince startsAnew counted entries ≤ entries.length := by
  calc (entries.reverse.takeWhile (!startsAnew ·)).countP counted
      ≤ (entries.reverse.takeWhile (!startsAnew ·)).length := List.countP_le_length
    _ ≤ entries.reverse.length := (List.takeWhile_prefix _).length_le
    _ = entries.length := List.length_reverse

/-- A counter that starts anew and is raised as the entries say has counted them. -/
theorem counts_concat {startsAnew counted : α → Bool} {entries : List α} {entry : α}
    {c later : Counter} (counts : c.Counts (countSince startsAnew counted entries))
    (next : later = if startsAnew entry then 0 else if counted entry then c.raise else c) :
    later.Counts (countSince startsAnew counted (entries ++ [entry])) := by
  rw [countSince_concat, next]
  cases startsAnew entry with
  | true => exact Counter.counts_zero
  | false =>
    cases counted entry with
    | true => exact counts.raise
    | false => exact counts

theorem countSince_concat_le (startsAnew counted : α → Bool) (entries : List α) (entry : α) :
    countSince startsAnew counted (entries ++ [entry]) ≤
      countSince startsAnew counted entries + 1 := by
  rw [countSince_concat]
  split
  · exact Nat.zero_le _
  · split
    · exact Nat.le_refl _
    · exact Nat.le_succ _

end Count

/-! ## What a history shows -/

/-- What a call shows. -/
inductive Entry where
  /-- A cycle: whether the link was up, whether accepting or handling a connection failed, and the
  answer. -/
  | cycle (linkUp requestFailed : Bool) (answer : Except Error Cycle)
  | restart (answer : Except Error Unit)

namespace Entry

/-- A request failed. -/
def isFailure : Entry → Bool
  | cycle _ requestFailed _ => requestFailed
  | restart _ => false

/-- A peer was served, got its 404, or made no request. -/
def isSuccess : Entry → Bool
  | cycle _ _ (.ok outcome) => outcome.succeeded
  | _ => false

/-- The link was found down. -/
def isLinkDown : Entry → Bool
  | cycle linkUp _ _ => !linkUp
  | restart _ => false

/-- The link was found up. -/
def isLinkUp : Entry → Bool
  | cycle linkUp _ _ => linkUp
  | restart _ => false

/-- A restart succeeded. -/
def isRestart : Entry → Bool
  | cycle _ _ (.ok .restarted) => true
  | restart (.ok ()) => true
  | _ => false

/-- A restart failed. -/
def isFailedRestart : Entry → Bool
  | cycle _ _ (.error _) => true
  | restart (.error _) => true
  | _ => false

/-- The entries after which no request has failed in a row. -/
def endsFailures (entry : Entry) : Bool := entry.isSuccess || entry.isRestart

/-- The entries after which no check in a row has found the link down. -/
def endsLinkDown (entry : Entry) : Bool := entry.isLinkUp || entry.isRestart

/-- How many requests have failed in a row. -/
def failuresInRow (entries : List Entry) : Nat := countSince endsFailures isFailure entries

/-- How many checks in a row have found the link down. -/
def linkDownsInRow (entries : List Entry) : Nat := countSince endsLinkDown isLinkDown entries

/-- The numbers of events in a row fit a word, and so will the next ones: there are not too many
entries, or no restart has failed and the limits are words. -/
def Fits (settings : Settings) (entries : List Entry) : Prop :=
  entries.length + 1 < UInt32.size ∨
    (∀ entry ∈ entries, entry.isFailedRestart = false) ∧
      settings.failureLimit < UInt32.size ∧ settings.linkDownLimit < UInt32.size

end Entry

namespace Server

/-- What a call shows. What others do does not show. -/
def shows (s : Server) : Call → List Entry
  | .step => [.cycle s.device.checkLink.1 (s.device.checkLink.1 && s.requestFails) s.step.1]
  | .restart => [.restart s.restart.1]
  | .influence _ => []

/-- What a history shows. -/
def entries (s : Server) : List Call → List Entry
  | [] => []
  | call :: history => s.shows call ++ (s.perform call).entries history

/-- The counter that the next cycle raises reaches its limit by that. -/
def reachesLimit (s : Server) : Bool :=
  if s.device.checkLink.1 then
    s.requestFails && decide (s.settings.failureLimit ≤ s.failures.raise.value)
  else decide (s.settings.linkDownLimit ≤ s.linkDown.raise.value)

end Server

/-! ## What one call preserves -/

/-- The counters have counted the events in a row. -/
structure Counted (b : Books) (entries : List Entry) : Prop where
  failures : b.failures.Counts (Entry.failuresInRow entries)
  linkDown : b.linkDown.Counts (Entry.linkDownsInRow entries)

/-- The counters are below their limits. A limit of zero is a limit of one. -/
structure BelowLimits (b : Books) : Prop where
  failures : b.failures.value < max 1 b.settings.failureLimit
  linkDown : b.linkDown.value < max 1 b.settings.linkDownLimit

theorem zero_lt_limit (limit : Nat) : (0 : Counter).value < max 1 limit :=
  Nat.lt_of_lt_of_le Nat.zero_lt_one (Nat.le_max_left _ _)

/-- Counters at zero are below their limits. -/
theorem BelowLimits.of_zero {b : Books} (failures : b.failures = 0) (linkDown : b.linkDown = 0) :
    BelowLimits b where
  failures := failures ▸ zero_lt_limit _
  linkDown := linkDown ▸ zero_lt_limit _

namespace Counted

variable {b : Books} {past : List Entry} {entry : Entry}

theorem nil {b : Books} (failures : b.failures = 0) (linkDown : b.linkDown = 0) :
    Counted b [] where
  failures := failures ▸ Counter.counts_zero
  linkDown := linkDown ▸ Counter.counts_zero

/-- One more entry: a counter starts anew, or is raised for the entry. -/
theorem concat {later : Books} (counted : Counted b past)
    (failures : later.failures =
      if entry.endsFailures then 0 else if entry.isFailure then b.failures.raise else b.failures)
    (linkDown : later.linkDown =
      if entry.endsLinkDown then 0 else if entry.isLinkDown then b.linkDown.raise else b.linkDown) :
    Counted later (past ++ [entry]) where
  failures := counts_concat counted.failures failures
  linkDown := counts_concat counted.linkDown linkDown

end Counted

namespace Server

theorem counted_step {s : Server} {past : List Entry} (counted : Counted s.books past) :
    Counted s.step.2.books (past ++ s.shows .step) := by
  have effect := s.cycleEffect_step
  rw [shows]
  generalize s.step.1 = answer, s.step.2.books = b at effect ⊢
  cases effect with
  | linkDown down below =>
    rw [down]
    exact counted.concat rfl rfl
  | linkDownLimit down reached effect =>
    rw [down]
    cases effect with
    | restarted => exact counted.concat rfl rfl
    | stuck => exact counted.concat rfl rfl
  | idle up fine =>
    rw [up, fine]
    exact counted.concat rfl rfl
  | @succeeded cycle up fine succeeded =>
    rw [up, fine]
    have ends : (Entry.cycle true (true && false) (.ok cycle)).endsFailures = true := by
      rw [Entry.endsFailures, Entry.isSuccess, succeeded]
      rfl
    exact counted.concat (by rw [if_pos ends]) rfl
  | failed up fails below =>
    rw [up, fails]
    exact counted.concat rfl rfl
  | failureLimit up fails reached effect =>
    rw [up, fails]
    cases effect with
    | restarted => exact counted.concat rfl rfl
    | stuck => exact counted.concat rfl rfl

theorem counted_restart {s : Server} {past : List Entry} (counted : Counted s.books past) :
    Counted s.restart.2.books (past ++ s.shows .restart) := by
  have effect := s.restartEffect_restart
  rw [shows]
  generalize s.restart.1 = answer, s.restart.2.books = b at effect ⊢
  cases effect with
  | restarted => exact counted.concat rfl rfl
  | stuck => exact counted.concat rfl rfl

/-- Every call keeps the counters to the numbers of events in a row. -/
theorem counted_perform {s : Server} {past : List Entry} (counted : Counted s.books past)
    (call : Call) : Counted (s.perform call).books (past ++ s.shows call) := by
  cases call with
  | step => exact counted_step counted
  | restart => exact counted_restart counted
  | influence influence =>
    rw [shows, List.append_nil, perform, books_under]
    exact counted

/-- Every history keeps the counters to the numbers of events in a row. -/
theorem counted_after {s : Server} {past : List Entry} (counted : Counted s.books past)
    (history : List Call) : Counted (s.after history).books (past ++ s.entries history) := by
  induction history generalizing s past with
  | nil =>
    rw [entries, List.append_nil]
    exact counted
  | cons call history ih =>
    rw [entries, ← List.append_assoc]
    exact ih (counted_perform counted call)

/-! ## Restarts -/

theorem reachesLimit_of_up {s : Server} (up : s.device.checkLink.1 = true) :
    s.reachesLimit =
      (s.requestFails && decide (s.settings.failureLimit ≤ s.failures.raise.value)) := by
  rw [reachesLimit, if_pos up]

theorem reachesLimit_of_down {s : Server} (down : s.device.checkLink.1 = false) :
    s.reachesLimit = decide (s.settings.linkDownLimit ≤ s.linkDown.raise.value) := by
  rw [reachesLimit, if_neg (by rw [down]; exact Bool.false_ne_true)]

/-- What a cycle can return and enter, told by whether a counter reaches its limit. -/
inductive LimitEffect (s : Server) : Except Error Cycle → Books → Prop where
  /-- Otherwise only the counters change. -/
  | below {cycle : Cycle} {failures linkDown : Counter} : s.reachesLimit = false → cycle ≠ .restarted →
      LimitEffect s (.ok cycle) { s.books with failures, linkDown }
  /-- A request that fails is counted before the restart. -/
  | reached {linkDown : Counter} {answer : Except Error Unit} {b : Books} : s.reachesLimit = true →
      RestartEffect
        { s.books with
          failures := if s.device.checkLink.1 then s.failures.raise else s.failures
          linkDown } answer b →
        LimitEffect s (answer.map fun () => .restarted) b

/-- A cycle restarts the server exactly if a counter reaches its limit. -/
theorem limitEffect_step (s : Server) : s.LimitEffect s.step.1 s.step.2.books := by
  have effect := s.cycleEffect_step
  generalize s.step.1 = answer, s.step.2.books = b at effect ⊢
  cases effect with
  | linkDown down below =>
    refine .below ?_ nofun
    rw [reachesLimit_of_down down, decide_eq_false (Nat.not_le.2 below)]
  | linkDownLimit down limit effect =>
    refine @LimitEffect.reached _ s.linkDown.raise _ _ ?_ ?_
    · rw [reachesLimit_of_down down, decide_eq_true limit]
    · rw [down]
      exact effect
  | idle up fine =>
    refine .below ?_ nofun
    rw [reachesLimit_of_up up, fine, Bool.false_and]
  | @succeeded cycle up fine succeeded =>
    refine .below ?_ ?_
    · rw [reachesLimit_of_up up, fine, Bool.false_and]
    · rintro rfl
      cases succeeded
  | failed up fails below =>
    refine .below ?_ nofun
    rw [reachesLimit_of_up up, decide_eq_false (Nat.not_le.2 below), Bool.and_false]
  | failureLimit up fails limit effect =>
    refine @LimitEffect.reached _ 0 _ _ ?_ ?_
    · rw [reachesLimit_of_up up, fails, decide_eq_true limit, Bool.and_true]
    · rw [up]
      exact effect

end Server

/-- A cycle with a given answer and the books after it tries a restart exactly if a counter reaches
its limit, and says so exactly if that succeeds. -/
structure RestartsAtLimit (s : Server) (answer : Except Error Cycle) (later : Books) : Prop where
  binds : later.bindCalls = s.source.bindCalls + if s.reachesLimit then 1 else 0
  closes : later.closeCalls = s.source.closeCalls + if s.reachesLimit then 1 else 0
  restarted : answer = .ok .restarted ↔ s.reachesLimit = true ∧ s.source.bind.1 = .ok ()
  cleared : answer = .ok .restarted → later.failures = 0 ∧ later.linkDown = 0

namespace RestartsAtLimit

variable {s : Server} {b : Books}

/-- A cycle without a restart. -/
theorem of_not_reached {cycle : Cycle} (h : s.reachesLimit = false) (other : cycle ≠ .restarted)
    (binds : b.bindCalls = s.source.bindCalls) (closes : b.closeCalls = s.source.closeCalls) :
    RestartsAtLimit s (.ok cycle) b where
  binds := by rw [h]; exact binds
  closes := by rw [h]; exact closes
  restarted := by
    rw [h]
    constructor
    · intro eq
      cases eq
      exact absurd rfl other
    · rintro ⟨eq, -⟩
      cases eq
  cleared eq := by
    cases eq
    exact absurd rfl other

/-- A cycle with a restart. -/
theorem of_reached {answer : Except Error Unit} {before : Books} (h : s.reachesLimit = true)
    (effect : Server.RestartEffect before answer b) (binds : before.binds = s.source.binds)
    (bindCalls : before.bindCalls = s.source.bindCalls)
    (closeCalls : before.closeCalls = s.source.closeCalls) :
    RestartsAtLimit s (answer.map fun () => .restarted) b := by
  have same : before.bindAnswer = s.source.bind.1 := by
    rw [Books.bindAnswer, binds]
    rfl
  cases effect with
  | restarted bound =>
    refine ⟨?_, ?_, ?_, fun _ => ⟨rfl, rfl⟩⟩
    · rw [h, ← bindCalls]
      rfl
    · rw [h, ← closeCalls]
      rfl
    · exact ⟨fun _ => ⟨h, same ▸ bound⟩, fun _ => rfl⟩
  | stuck failed =>
    refine ⟨?_, ?_, ?_, nofun⟩
    · rw [h, ← bindCalls]
      rfl
    · rw [h, ← closeCalls]
      rfl
    · rw [← same, failed]
      exact ⟨nofun, nofun⟩

end RestartsAtLimit

namespace Server

theorem restartsAtLimit_step (s : Server) : RestartsAtLimit s s.step.1 s.step.2.books := by
  have effect := s.limitEffect_step
  generalize s.step.1 = answer, s.step.2.books = b at effect ⊢
  cases effect with
  | below unreached other => exact .of_not_reached unreached other rfl rfl
  | reached reached effect => exact .of_reached reached effect rfl rfl rfl

/-! ## Limits -/

theorem belowLimits_step {s : Server} (below : BelowLimits s.books)
    (unfailed : ∀ entry ∈ s.shows .step, entry.isFailedRestart = false) :
    BelowLimits s.step.2.books := by
  have answered := unfailed _ (List.mem_singleton.2 rfl)
  have effect := s.cycleEffect_step
  generalize s.step.1 = answer, s.step.2.books = b at effect answered ⊢
  cases effect with
  | linkDown _ less => exact ⟨below.failures, Nat.lt_of_lt_of_le less (Nat.le_max_right _ _)⟩
  | linkDownLimit _ _ effect =>
    cases effect with
    | restarted => exact .of_zero rfl rfl
    | stuck => cases answered
  | idle => exact ⟨below.failures, zero_lt_limit _⟩
  | succeeded => exact .of_zero rfl rfl
  | failed _ _ less => exact ⟨Nat.lt_of_lt_of_le less (Nat.le_max_right _ _), zero_lt_limit _⟩
  | failureLimit _ _ _ effect =>
    cases effect with
    | restarted => exact .of_zero rfl rfl
    | stuck => cases answered

theorem belowLimits_restart {s : Server}
    (unfailed : ∀ entry ∈ s.shows .restart, entry.isFailedRestart = false) :
    BelowLimits s.restart.2.books := by
  have answered := unfailed _ (List.mem_singleton.2 rfl)
  have effect := s.restartEffect_restart
  generalize s.restart.1 = answer, s.restart.2.books = b at effect answered ⊢
  cases effect with
  | restarted => exact .of_zero rfl rfl
  | stuck => cases answered

theorem belowLimits_perform {s : Server} (below : BelowLimits s.books) {call : Call}
    (unfailed : ∀ entry ∈ s.shows call, entry.isFailedRestart = false) :
    BelowLimits (s.perform call).books := by
  cases call with
  | step => exact belowLimits_step below unfailed
  | restart => exact belowLimits_restart unfailed
  | influence influence =>
    rw [perform, books_under]
    exact below

/-- As long as no restart fails, the counters stay below their limits. -/
theorem belowLimits_after {s : Server} (below : BelowLimits s.books) {history : List Call}
    (unfailed : ∀ entry ∈ s.entries history, entry.isFailedRestart = false) :
    BelowLimits (s.after history).books := by
  induction history generalizing s with
  | nil => exact below
  | cons call history ih =>
    rw [entries] at unfailed
    have now := fun entry mem => unfailed entry (List.mem_append_left _ mem)
    exact ih (belowLimits_perform below now) fun entry mem =>
      unfailed entry (List.mem_append_right _ mem)

theorem settings_perform (s : Server) (call : Call) : (s.perform call).settings = s.settings := by
  cases call with
  | step =>
    have effect := s.cycleEffect_step
    show s.step.2.books.settings = s.settings
    generalize s.step.1 = answer, s.step.2.books = b at effect ⊢
    cases effect with
    | linkDown | idle | succeeded | failed => rfl
    | linkDownLimit _ _ effect => cases effect <;> rfl
    | failureLimit _ _ _ effect => cases effect <;> rfl
  | restart =>
    have effect := s.restartEffect_restart
    show s.restart.2.books.settings = s.settings
    generalize s.restart.1 = answer, s.restart.2.books = b at effect ⊢
    cases effect <;> rfl
  | influence influence => exact congrArg Books.settings (s.books_under influence)

theorem settings_after (s : Server) (history : List Call) :
    (s.after history).settings = s.settings := by
  induction history generalizing s with
  | nil => rfl
  | cons call history ih => rw [after, List.foldl_cons, ← after, ih, settings_perform]

end Server

/-! ## Numbers that fit -/

/-- The numbers of events in a row fit a word, and so will the next ones. -/
structure LeavesRoom (entries : List Entry) : Prop where
  failures : Entry.failuresInRow entries + 1 < UInt32.size
  linkDown : Entry.linkDownsInRow entries + 1 < UInt32.size

namespace LeavesRoom

theorem of_length {entries : List Entry} (short : entries.length + 1 < UInt32.size) :
    LeavesRoom entries where
  failures := Nat.lt_of_le_of_lt (Nat.succ_le_succ (countSince_le_length _ _ _)) short
  linkDown := Nat.lt_of_le_of_lt (Nat.succ_le_succ (countSince_le_length _ _ _)) short

theorem succ_lt_of_lt_max {n limit : Nat} (below : n < max 1 limit) (word : limit < UInt32.size) :
    n + 1 < UInt32.size := by
  have one : 1 < UInt32.size := by decide
  omega

/-- Counters that are below their limits after another entry leave room for the next one: the entry
was counted in a word that had room, so they are the numbers of events in a row. -/
theorem concat {b : Books} {past : List Entry} {entry : Entry} (room : LeavesRoom past)
    (counted : Counted b (past ++ [entry])) (below : BelowLimits b)
    (failureLimit : b.settings.failureLimit < UInt32.size)
    (linkDownLimit : b.settings.linkDownLimit < UInt32.size) : LeavesRoom (past ++ [entry]) where
  failures := by
    have most := countSince_concat_le Entry.endsFailures Entry.isFailure past entry
    have value := counted.failures.value_eq (Nat.lt_of_le_of_lt most room.failures)
    exact succ_lt_of_lt_max (value ▸ below.failures) failureLimit
  linkDown := by
    have most := countSince_concat_le Entry.endsLinkDown Entry.isLinkDown past entry
    have value := counted.linkDown.value_eq (Nat.lt_of_le_of_lt most room.linkDown)
    exact succ_lt_of_lt_max (value ▸ below.linkDown) linkDownLimit

end LeavesRoom

namespace Server

/-- As long as no restart fails, the counters leave room if their limits are words. -/
theorem leavesRoom_after {s : Server} {past : List Entry} (counted : Counted s.books past)
    (below : BelowLimits s.books) (failureLimit : s.settings.failureLimit < UInt32.size)
    (linkDownLimit : s.settings.linkDownLimit < UInt32.size) (room : LeavesRoom past)
    {history : List Call}
    (unfailed : ∀ entry ∈ s.entries history, entry.isFailedRestart = false) :
    LeavesRoom (past ++ s.entries history) := by
  induction history generalizing s past with
  | nil =>
    rw [entries, List.append_nil]
    exact room
  | cons call history ih =>
    rw [entries] at unfailed
    have now := fun entry mem => unfailed entry (List.mem_append_left _ mem)
    have counted := counted_perform counted call
    have below := belowLimits_perform below now
    rw [← settings_perform s call] at failureLimit linkDownLimit
    rw [entries, ← List.append_assoc]
    refine ih counted below failureLimit linkDownLimit ?_ fun entry mem =>
      unfailed entry (List.mem_append_right _ mem)
    cases call with
    | step => exact room.concat counted below failureLimit linkDownLimit
    | restart => exact room.concat counted below failureLimit linkDownLimit
    | influence influence =>
      rw [shows, List.append_nil]
      exact room

end Server

/-- The counters of a server with given settings, after a history that has shown the given
entries. -/
structure ExactCounters (settings : Settings) (s : Server) (entries : List Entry) : Prop where
  /-- Over every history the counters hold the numbers of events in a row, as far as words can. -/
  failures : s.failures.value = Entry.failuresInRow entries % UInt32.size
  linkDown : s.linkDown.value = Entry.linkDownsInRow entries % UInt32.size
  /-- They are these numbers as long as they fit. -/
  exact : Entry.Fits settings entries →
    s.failures.value = Entry.failuresInRow entries ∧
      s.linkDown.value = Entry.linkDownsInRow entries
  /-- A restart is tried exactly if the counter that is raised reaches its limit. -/
  next : RestartsAtLimit s s.step.1 s.step.2.books
  /-- With the link up this means that another request fails and the number of failed requests in a
  row reaches its limit. A limit of zero is a limit of one. -/
  failureLimit : Entry.Fits settings entries → s.device.checkLink.1 = true →
    (s.reachesLimit = true ↔
      s.requestFails = true ∧ max 1 settings.failureLimit ≤ Entry.failuresInRow entries + 1)
  /-- With the link down it means that the number of checks in a row that found it so reaches its
  limit. -/
  linkDownLimit : Entry.Fits settings entries → s.device.checkLink.1 = false →
    (s.reachesLimit = true ↔
      max 1 settings.linkDownLimit ≤ Entry.linkDownsInRow entries + 1)
  /-- As long as no restart has failed, the counters are below their limits. -/
  below : (∀ entry ∈ entries, entry.isFailedRestart = false) →
    s.failures.value < max 1 settings.failureLimit ∧
      s.linkDown.value < max 1 settings.linkDownLimit

namespace Server

variable {source : ConnectionSource} {device : Device} {routes : RouteTable} {settings : Settings}
  {s : Server}

/-- The counters of a server count from its binding on. -/
theorem counted_bind (bound : bind source device routes settings = .ok s) : Counted s.books [] := by
  rw [books_bind bound]
  exact .nil rfl rfl

theorem belowLimits_bind (bound : bind source device routes settings = .ok s) :
    BelowLimits s.books := by
  rw [books_bind bound]
  exact .of_zero rfl rfl

theorem leavesRoom_after_bind (bound : bind source device routes settings = .ok s)
    {history : List Call} (fits : Entry.Fits settings (s.entries history)) :
    LeavesRoom (s.entries history) := by
  rcases fits with short | ⟨unfailed, failureLimit, linkDownLimit⟩
  · exact .of_length short
  · have kept : s.settings = settings := congrArg Books.settings (books_bind bound)
    rw [← kept] at failureLimit linkDownLimit
    exact leavesRoom_after (counted_bind bound) (belowLimits_bind bound) failureLimit linkDownLimit
      (.of_length (by decide)) unfailed

/-- Reaching a limit, told by the number of events in a row. -/
theorem limit_le_raise_iff {c : Counter} {events limit : Nat} (counts : c.Counts events)
    (room : events + 1 < UInt32.size) : limit ≤ c.raise.value ↔ max 1 limit ≤ events + 1 := by
  rw [counts.raise.value_eq room]
  omega

/-- **The counters count what they claim, over whole histories.** -/
theorem exactCounters_after_bind {source : ConnectionSource} {device : Device}
    {routes : RouteTable} {settings : Settings} {s : Server}
    (bound : bind source device routes settings = .ok s) (history : List Call) :
    ExactCounters settings (s.after history) (s.entries history) := by
  have counted : Counted (s.after history).books (s.entries history) :=
    counted_after (counted_bind bound) history
  have kept : (s.after history).settings = settings :=
    (s.settings_after history).trans (congrArg Books.settings (books_bind bound))
  refine ⟨counted.failures, counted.linkDown, fun fits => ?_, restartsAtLimit_step _,
    fun fits up => ?_, fun fits down => ?_, fun unfailed => ?_⟩
  · have room := leavesRoom_after_bind bound fits
    exact ⟨counted.failures.value_eq (Nat.lt_of_succ_lt room.failures),
      counted.linkDown.value_eq (Nat.lt_of_succ_lt room.linkDown)⟩
  · have room := leavesRoom_after_bind bound fits
    rw [reachesLimit_of_up up, Bool.and_eq_true, decide_eq_true_iff, kept]
    exact and_congr_right fun _ => limit_le_raise_iff counted.failures room.failures
  · have room := leavesRoom_after_bind bound fits
    rw [reachesLimit_of_down down, decide_eq_true_iff, kept]
    exact limit_le_raise_iff counted.linkDown room.linkDown
  · have later := belowLimits_after (belowLimits_bind bound) unfailed
    rw [← kept]
    exact ⟨later.failures, later.linkDown⟩

/-- A restart may fail and leave a counter at its limit, and a limit may be zero. -/
theorem exactCounters_after_stuck_restart :
    let settings : Settings := { failureLimit := 2, linkDownLimit := 0 }
    let source : ConnectionSource :=
      { accepts := [.fault .connectionAborted, .fault .timedOut, .fault .connectionReset]
        binds := [none, some .addrInUse] }
    let device : Device := { links := [true, true, true, false] }
    let history : List Call := [.step, .step, .step, .step]
    ∃ s, bind source device [] settings = .ok s ∧
      ExactCounters settings (s.after history) (s.entries history) := by
  intro settings source device history
  have binds : ∃ s, bind source device [] settings = .ok s := ⟨_, rfl⟩
  obtain ⟨s, bound⟩ := binds
  exact ⟨s, bound, exactCounters_after_bind bound history⟩

end Server

end DeviceHttp
