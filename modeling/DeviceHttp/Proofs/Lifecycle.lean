import DeviceHttp.Proofs.Counters
import DeviceHttp.Proofs.Running

/-!
# The life of a server

Between two operations a server listens or it does not, and what it has asked of its source and of
its device so far can be told from a few events. These are its milestones: every restart that was
tried, with the answer of the source to binding, and every run that returned.

## Main statements

* `Server.exists_passesAll_iff` — a history of operations passes its milestones on the way to the
  server that the operations lead to
* `Server.bookkept_after_bind` — over every history, the calls of bind and close, the counter of
  restarts, as far as a word can count, and the phase are those that the milestones tell, and what
  the next cycle or restart does to the device hangs on whether its own milestone is a failure

## How

The milestones of a cycle are told by `Server.reachesLimit`, which looks at the counters. That a
cycle restarts the server exactly then is what `Server.limitEffect_step` says, so there are two
cases for a cycle (`Server.booked_step`), and a cycle inside a run is no different from others.
Histories are an induction on their operations. The books do not show the device: what a cycle does
to it is followed along the definition of a cycle (`Server.paced_step`).
-/

namespace DeviceHttp

/-! ## Milestones -/

/-- What decides the phase of a server. -/
inductive Milestone where
  /-- A restart was tried. Binding the listener again went like this. -/
  | restart (bound : Except FaultKind Unit)
  /-- A run returned. -/
  | runReturned

namespace Milestone

/-- A restart was tried. -/
def isRestart : Milestone → Bool
  | restart _ => true
  | runReturned => false

/-- A restart succeeded. -/
def isSuccess : Milestone → Bool
  | restart (.ok ()) => true
  | _ => false

/-- A run returned. -/
def isReturn : Milestone → Bool
  | restart _ => false
  | runReturned => true

/-- The phase that a milestone leaves behind. -/
def phase (milestone : Milestone) : Phase := if milestone.isSuccess then .running else .stopped

/-- The phase of a server that was bound and has passed some milestones, the latest one last. -/
def phaseAfter (milestones : List Milestone) : Phase :=
  (milestones.getLast?.map phase).getD .running

theorem phaseAfter_concat (milestones : List Milestone) (milestone : Milestone) :
    phaseAfter (milestones ++ [milestone]) = milestone.phase := by
  rw [phaseAfter, List.getLast?_concat]
  rfl

/-- No milestone leaves a server that drains. -/
theorem phaseAfter_ne_draining (milestones : List Milestone) :
    phaseAfter milestones ≠ .draining := by
  have settled (milestone : Milestone) : milestone.phase ≠ .draining := by
    rw [phase]
    split <;> exact nofun
  rw [phaseAfter]
  cases milestones.getLast? with
  | none => exact nofun
  | some milestone => exact settled milestone

end Milestone

/-- The books agree with the milestones of a server that was bound to the source. -/
structure Booked (source : ConnectionSource) (b : Books) (milestones : List Milestone) : Prop where
  bindCalls : b.bindCalls = source.bindCalls + 1 + milestones.countP Milestone.isRestart
  closeCalls : b.closeCalls = source.closeCalls + milestones.countP Milestone.isRestart +
    milestones.countP Milestone.isReturn
  /-- The restarts that succeeded are counted, in a word. -/
  restarts : b.restarts.Counts (milestones.countP Milestone.isSuccess)
  phase : b.phase = Milestone.phaseAfter milestones

namespace Booked

variable {source : ConnectionSource} {b later : Books} {milestones : List Milestone}

/-- The counters in a row are no part of what is booked. -/
theorem recount (booked : Booked source b milestones) (failures linkDown : Counter) :
    Booked source { b with failures, linkDown } milestones :=
  ⟨booked.bindCalls, booked.closeCalls, booked.restarts, booked.phase⟩

/-- A restart is booked together with its milestone. -/
theorem restart {answer : Except Error Unit} (booked : Booked source b milestones)
    (effect : Server.RestartEffect b answer later) :
    Booked source later (milestones ++ [.restart b.bindAnswer]) := by
  cases effect with
  | restarted bound =>
    rw [bound]
    constructor
    · simp [Books.restarted, booked.bindCalls, Milestone.isRestart, Nat.add_assoc]
    · simp [Books.restarted, booked.closeCalls, Milestone.isRestart, Milestone.isReturn]
      omega
    · rw [List.countP_append]
      exact booked.restarts.raise
    · rw [Milestone.phaseAfter_concat]
      rfl
  | stuck failed =>
    rw [failed]
    constructor
    · simp [Books.stuck, booked.bindCalls, Milestone.isRestart, Nat.add_assoc]
    · simp [Books.stuck, booked.closeCalls, Milestone.isRestart, Milestone.isReturn]
      omega
    · rw [List.countP_append]
      exact booked.restarts
    · rw [Milestone.phaseAfter_concat]
      rfl

/-- The stop at the end of a run is booked together with its return. -/
theorem stop (booked : Booked source b milestones) :
    Booked source { b with phase := .stopped, closeCalls := b.closeCalls + 1 }
      (milestones ++ [.runReturned]) := by
  constructor
  · simp [booked.bindCalls, Milestone.isRestart]
  · simp [booked.closeCalls, Milestone.isRestart, Milestone.isReturn, Nat.add_assoc]
  · rw [List.countP_append]
    exact booked.restarts
  · rw [Milestone.phaseAfter_concat]
    rfl

end Booked

namespace Server

variable {s t : Server} {source : ConnectionSource} {past : List Milestone}
  {meanwhile : Nat → List Influence}

/-- The milestones of a cycle: the restart that it tries if a counter reaches its limit. -/
def milestones (s : Server) : List Milestone :=
  if s.reachesLimit then [.restart s.source.bind.1] else []

/-- A cycle is booked together with its milestones. -/
theorem booked_step (booked : Booked source s.books past) :
    Booked source s.step.2.books (past ++ s.milestones) := by
  have effect := s.limitEffect_step
  rw [milestones]
  generalize s.step.1 = answer, s.step.2.books = b at effect ⊢
  cases effect with
  | below unreached =>
    rw [unreached, if_neg Bool.false_ne_true, List.append_nil]
    exact booked.recount _ _
  | reached reached effect =>
    rw [if_pos reached]
    exact (booked.recount _ _).restart effect

theorem booked_restart (booked : Booked source s.books past) :
    Booked source s.restart.2.books (past ++ [.restart s.source.bind.1]) :=
  booked.restart s.restartEffect_restart

/-- The milestones of a call. -/
def callMilestones (s : Server) : Call → List Milestone
  | .step => s.milestones
  | .restart => [.restart s.source.bind.1]
  | .influence _ => []

theorem booked_perform (booked : Booked source s.books past) (call : Call) :
    Booked source (s.perform call).books (past ++ s.callMilestones call) := by
  cases call with
  | step => exact booked_step booked
  | restart => exact booked_restart booked
  | influence influence =>
    rw [callMilestones, List.append_nil, perform, books_under]
    exact booked

/-- Stopping closes the listener. -/
theorem books_stop (s : Server) :
    s.stop.books = { s.books with phase := .stopped, closeCalls := s.books.closeCalls + 1 } := by
  have closed := s.books_close "Close failed: "
  rw [stop, books_note]
  exact congrArg (fun b : Books => { b with phase := .stopped }) closed

/-! ## What is passed -/

/-- The milestones of the first cycles of a run. -/
def runMilestones (s : Server) (meanwhile : Nat → List Influence) : Nat → List Milestone
  | 0 => []
  | n + 1 => s.runMilestones meanwhile n ++ (s.cycles meanwhile n).milestones

theorem booked_cycles (booked : Booked source s.books past) (meanwhile : Nat → List Influence)
    (n : Nat) :
    Booked source (s.cycles meanwhile n).books (past ++ s.runMilestones meanwhile n) := by
  induction n with
  | zero =>
    rw [runMilestones, List.append_nil]
    exact booked
  | succ n ih =>
    rw [cycles, books_amid, runMilestones, ← List.append_assoc]
    exact booked_step ih

/-- An operation leads a server past some milestones to another server. -/
inductive Passes (s : Server) : Operation → List Milestone → Server → Prop where
  | call (call : Call) : Passes s (.call call) (s.callMilestones call) (s.perform call)
  /-- A run that returns at once. -/
  | atRest (meanwhile : Nat → List Influence) : s.phase ≠ .running →
      Passes s (.run meanwhile) [.runReturned] s.stop
  /-- A run that returns after some cycles. -/
  | drained {meanwhile : Nat → List Influence} {n : Nat} : s.phase = .running →
      (∀ i < n, (s.cycles meanwhile i).GoesOn) → (s.cycles meanwhile n).shutdown = true →
        Passes s (.run meanwhile) (s.runMilestones meanwhile n ++ [.runReturned])
          (s.cycles meanwhile n).drain.stop
  /-- A run that does not return: the last of its cycles makes it reset the device. -/
  | reset {meanwhile : Nat → List Influence} {n : Nat} {e : Error} : s.phase = .running →
      (∀ i < n, (s.cycles meanwhile i).GoesOn) → (s.cycles meanwhile n).shutdown = false →
        (s.cycles meanwhile n).step.1 = .error e →
          Passes s (.run meanwhile) (s.runMilestones meanwhile (n + 1))
            ((s.cycles meanwhile (n + 1)).note .error (e.message ++ ", resetting device"))

/-- Every operation that comes to an end passes its milestones. -/
theorem exists_passes_iff {operation : Operation} :
    (∃ passed, s.Passes operation passed t) ↔ s.undergo? operation = some t := by
  constructor
  · rintro ⟨passed, passes⟩
    have run {meanwhile : Nat → List Influence} {ending : RunEnd}
        (outcome : s.RunOutcome meanwhile ending t) : s.undergo? (.run meanwhile) = some t := by
      rw [undergo?, runAmid?_eq_some_iff.2 outcome]
      rfl
    cases passes with
    | call => rfl
    | atRest meanwhile atRest => exact run (.atRest atRest)
    | drained running goOn asked => exact run (.drained running goOn asked)
    | reset running goOn unasked failed => exact run (.reset running goOn unasked failed)
  · intro next
    cases operation with
    | call call =>
      cases next
      exact ⟨_, .call call⟩
    | run meanwhile =>
      obtain ⟨⟨ending, t'⟩, ended, rfl⟩ := Option.map_eq_some_iff.1 next
      cases runAmid?_eq_some_iff.1 ended with
      | atRest atRest => exact ⟨_, .atRest meanwhile atRest⟩
      | drained running goOn asked => exact ⟨_, .drained running goOn asked⟩
      | reset running goOn unasked failed => exact ⟨_, .reset running goOn unasked failed⟩

/-- What an operation passes is booked. -/
theorem booked_passes (booked : Booked source s.books past) {operation : Operation}
    {passed : List Milestone} (passes : s.Passes operation passed t) :
    Booked source t.books (past ++ passed) := by
  cases passes with
  | call call => exact booked_perform booked call
  | atRest meanwhile atRest =>
    rw [books_stop]
    exact booked.stop
  | @drained meanwhile n running goOn asked =>
    rw [books_stop, ← List.append_assoc]
    exact (booked_cycles booked meanwhile n).stop
  | @reset meanwhile n => exact booked_cycles booked meanwhile (n + 1)

/-- A history of operations leads a server past some milestones. -/
inductive PassesAll : Server → List Operation → List Milestone → Server → Prop where
  | nil (s : Server) : PassesAll s [] [] s
  | cons {s t u : Server} {operation : Operation} {operations : List Operation}
      {passed later : List Milestone} : s.Passes operation passed t →
        PassesAll t operations later u → PassesAll s (operation :: operations) (passed ++ later) u

/-- A history passes its milestones exactly if each of its operations comes to an end. -/
theorem exists_passesAll_iff {operations : List Operation} :
    (∃ passed, s.PassesAll operations passed t) ↔ s.afterAll? operations = some t := by
  induction operations generalizing s with
  | nil =>
    constructor
    · rintro ⟨_, ⟨⟩⟩
      rfl
    · intro same
      cases same
      exact ⟨_, .nil _⟩
  | cons operation operations ih =>
    rw [afterAll?, List.foldlM_cons, Option.bind_eq_bind, Option.bind_eq_some_iff]
    constructor
    · rintro ⟨_, passes⟩
      cases passes with
      | cons next later => exact ⟨_, exists_passes_iff.1 ⟨_, next⟩, ih.1 ⟨_, later⟩⟩
    · rintro ⟨middle, next, later⟩
      obtain ⟨passed, next⟩ := exists_passes_iff.2 next
      obtain ⟨more, later⟩ := ih.2 later
      exact ⟨_, .cons next later⟩

/-- What a history passes is booked. -/
theorem booked_passesAll (booked : Booked source s.books past) {operations : List Operation}
    {passed : List Milestone} (passes : s.PassesAll operations passed t) :
    Booked source t.books (past ++ passed) := by
  induction passes generalizing past with
  | nil =>
    rw [List.append_nil]
    exact booked
  | cons next _ ih =>
    rw [← List.append_assoc]
    exact ih (booked_passes booked next)

/-! ## The device -/

@[simp] theorem device_handle (s : Server) (c : Connection) :
    (s.handle c).2.1.device = s.device := by
  rw [handle]
  split <;> rfl

@[simp] theorem device_disconnect (s : Server) (c : Connection) :
    (s.disconnect c).device = s.device := by
  rw [disconnect]
  simp only
  split <;> rfl

/-- Accepting and serving a connection leaves the device alone. -/
@[simp] theorem device_serveNext (s : Server) : s.serveNext.2.device = s.device := by
  rw [serveNext]
  split
  next c =>
    rw [serve, device_disconnect, device_handle]
    rfl
  next => rfl

@[simp] theorem device_close (s : Server) (complaint : String) :
    (s.close complaint).device = s.device := by
  rw [close]
  simp only
  split <;> rfl

@[simp] theorem device_rebind (s : Server) : s.rebind.2.device = s.device := by
  rw [rebind]
  simp only
  split <;> rfl

/-- A restart makes one pause, whether or not it succeeds. -/
theorem device_restart (s : Server) :
    s.restart.2.device = s.device.delay s.settings.restartPause := by
  rw [restart, device_rebind, delay, device_close]

/-- What a cycle does to the device: it pauses for a restart that it tries, and unless that fails,
once more at the end, with the watchdog kept if the link is up. -/
structure Paced (s : Server) (answer : Except Error Cycle) (later : Device) : Prop where
  failed : ∀ e, answer = .error e → later.ticks = s.device.ticks ∧
    later.delays = s.device.delays ++ [s.settings.restartPause]
  linkUp : s.device.checkLink.1 = true → ∀ cycle, answer = .ok cycle →
    later.ticks = s.device.ticks + 1 ∧
      later.delays = s.device.delays ++
        (if s.reachesLimit then [s.settings.restartPause] else []) ++ [s.settings.cyclePause]
  linkDown : s.device.checkLink.1 = false → ∀ cycle, answer = .ok cycle →
    later.ticks = s.device.ticks ∧
      later.delays = s.device.delays ++
        (if s.reachesLimit then [s.settings.restartPause] else []) ++ [s.settings.linkPause]

/-- The device in a cycle after the check of the link and the pause for a restart, if one is
tried. -/
def pausedIf (s : Server) (tried : Bool) : Device :=
  if tried then s.device.checkLink.2.delay s.settings.restartPause else s.device.checkLink.2

theorem ticks_pausedIf (s : Server) (tried : Bool) :
    (s.pausedIf tried).ticks = s.device.ticks := by
  cases tried <;> rfl

theorem delays_pausedIf (s : Server) (tried : Bool) :
    (s.pausedIf tried).delays =
      s.device.delays ++ if tried then [s.settings.restartPause] else [] := by
  cases tried with
  | false => exact (List.append_nil _).symm
  | true => rfl

theorem paced_pauseLinkUp (up : s.device.checkLink.1 = true) (cycle : Cycle)
    (settings : t.settings = s.settings) (device : t.device = s.pausedIf s.reachesLimit) :
    s.Paced (.ok cycle) t.pauseLinkUp.device := by
  refine ⟨nofun, fun _ _ _ => ?_, fun down => ?_⟩
  · rw [pauseLinkUp, delay, tick, settings, device]
    exact ⟨congrArg (· + 1) (s.ticks_pausedIf _), congrArg (· ++ _) (s.delays_pausedIf _)⟩
  · rw [up] at down
    cases down

theorem paced_pauseLinkDown (down : s.device.checkLink.1 = false) (cycle : Cycle)
    (settings : t.settings = s.settings) (device : t.device = s.pausedIf s.reachesLimit) :
    s.Paced (.ok cycle) t.pauseLinkDown.device := by
  refine ⟨nofun, fun up => ?_, fun _ _ _ => ?_⟩
  · rw [down] at up
    cases up
  · rw [pauseLinkDown, delay, settings, device]
    exact ⟨s.ticks_pausedIf _, congrArg (· ++ _) (s.delays_pausedIf _)⟩

theorem paced_error {e : Error} (device : t.device = s.pausedIf true) :
    s.Paced (.error e) t.device := by
  refine ⟨fun _ _ => ?_, fun _ _ => nofun, fun _ _ => nofun⟩
  rw [device]
  exact ⟨s.ticks_pausedIf true, s.delays_pausedIf true⟩

/-- The end of a cycle that restarts the server if a limit is reached. After a restart that fails
there is no other pause. -/
theorem paced_finish_restartIf (settings : t.settings = s.settings)
    (device : t.device = s.device.checkLink.2) {limitReached : Bool}
    (limit : limitReached = s.reachesLimit) (reason : String) (otherwise : Cycle)
    {last : Server → Server}
    (lasts : ∀ {u : Server} (cycle : Cycle), u.settings = s.settings →
      u.device = s.pausedIf s.reachesLimit → s.Paced (.ok cycle) (last u).device) :
    s.Paced (finish (t.restartIf limitReached reason otherwise) last).1
      (finish (t.restartIf limitReached reason otherwise) last).2.device := by
  subst limit
  cases reached : s.reachesLimit with
  | false =>
    refine lasts otherwise settings ?_
    rw [reached, device]
    rfl
  | true =>
    have paused : (t.note .error reason).restart.2.device = s.pausedIf s.reachesLimit := by
      rw [device_restart, reached, pausedIf, if_pos rfl, ← device, ← settings]
      rfl
    have kept := (t.note .error reason).settings_perform .restart
    simp only [restartIf, if_true, perform] at kept ⊢
    generalize (t.note .error reason).restart = outcome at paused kept ⊢
    obtain ⟨answer, u⟩ := outcome
    cases answer with
    | ok => exact lasts .restarted (kept.trans settings) paused
    | error e =>
      rw [reached] at paused
      exact paced_error (t := u) paused

theorem paced_stepLinkDown (down : s.device.checkLink.1 = false) :
    s.Paced s.checkedLink.stepLinkDown.1 s.checkedLink.stepLinkDown.2.device :=
  paced_finish_restartIf (s := s) (t := s.checkedLink.countLinkDown) rfl rfl
    (reachesLimit_of_down down).symm _ _ (paced_pauseLinkDown down)

theorem paced_stepLinkUp (up : s.device.checkLink.1 = true) :
    s.Paced s.checkedLink.stepLinkUp.1 s.checkedLink.stepLinkUp.2.device := by
  have served := s.checkedLink.clearLinkDown.serveEffect_serveNext
  have entered := s.checkedLink.clearLinkDown.books_serveNext
  have device := s.checkedLink.clearLinkDown.device_serveNext
  have reaches := reachesLimit_of_up up
  rw [← requestFails_clearLinkDown] at reaches
  rw [stepLinkUp]
  generalize s.checkedLink.clearLinkDown.serveNext = outcome at served entered device ⊢
  obtain ⟨result, u⟩ := outcome
  have device : u.device = s.device.checkLink.2 := device
  have settings : u.settings = s.settings := congrArg Books.settings entered
  have failures : u.failures = s.failures := congrArg Books.failures entered
  cases served with
  | idle fine =>
    rw [fine, Bool.false_and] at reaches
    exact paced_pauseLinkUp (t := u) up .idle settings (by rw [reaches, device]; rfl)
  | @succeeded cycle fine succeeded =>
    rw [fine, Bool.false_and] at reaches
    have settled : finish (u.settle (.ok cycle)) pauseLinkUp =
        (.ok cycle, u.clearFailures.pauseLinkUp) := by
      cases cycle <;> first | rfl | cases succeeded
    simp only [settled]
    exact paced_pauseLinkUp (t := u.clearFailures) up cycle settings (by rw [reaches]; exact device)
  | @failed e fails =>
    rw [fails, Bool.true_and, ← settings, ← failures] at reaches
    exact paced_finish_restartIf (t := u.countFailure e) settings device reaches.symm _ _
      (paced_pauseLinkUp up)

/-- **What every cycle does to the device.** -/
theorem paced_step (s : Server) : s.Paced s.step.1 s.step.2.device := by
  rw [step]
  cases link : s.device.checkLink.1 with
  | true => exact paced_stepLinkUp link
  | false => exact paced_stepLinkDown link

/-! ## Over every history -/

/-- What a cycle makes of the restart that it tries, and of everything else. -/
structure StepKept (s : Server) : Prop where
  /-- The answer tells whether a restart was tried. -/
  tries_iff : s.reachesLimit = true ↔ s.step.1 = .ok .restarted ∨ ∃ e, s.step.1 = .error e
  /-- Nothing but a restart that fails is an error, and the error is that of binding. -/
  fails_iff : ∀ e, s.step.1 = .error e ↔ s.reachesLimit = true ∧
    ∃ kind, s.source.bind.1 = .error kind ∧ e = .rebindFailed (.plain kind)
  /-- After an error the request that failed stays counted. -/
  failed : ∀ e, s.step.1 = .error e →
    s.step.2.failures = (if s.device.checkLink.1 then s.failures.raise else s.failures) ∧
      s.step.2.restarts = s.restarts
  paced : s.Paced s.step.1 s.step.2.device

/-- What a restart makes of the answer to binding. -/
structure RestartKept (s : Server) : Prop where
  fails_iff : ∀ e, s.restart.1 = .error e ↔
    ∃ kind, s.source.bind.1 = .error kind ∧ e = .rebindFailed (.plain kind)
  failed : ∀ e, s.restart.1 = .error e →
    s.restart.2.failures = s.failures ∧ s.restart.2.restarts = s.restarts
  paced : s.restart.2.device.ticks = s.device.ticks ∧
    s.restart.2.device.delays = s.device.delays ++ [s.settings.restartPause]

theorem restartEffect_eq_error_iff {b later : Books} {answer : Except Error Unit}
    (effect : RestartEffect b answer later) (e : Error) :
    answer = .error e ↔ ∃ kind, b.bindAnswer = .error kind ∧ e = .rebindFailed (.plain kind) := by
  cases effect with
  | restarted bound =>
    rw [bound]
    exact ⟨nofun, nofun⟩
  | stuck failed =>
    rw [failed]
    constructor
    · rintro ⟨⟩
      exact ⟨_, rfl, rfl⟩
    · rintro ⟨kind, ⟨⟩, rfl⟩
      rfl

theorem restartKept (s : Server) : s.RestartKept := by
  have effect := s.restartEffect_restart
  refine ⟨restartEffect_eq_error_iff effect, fun e answer => ?_, ?_⟩
  · have failures : s.restart.2.failures = s.restart.2.books.failures := rfl
    have restarts : s.restart.2.restarts = s.restart.2.books.restarts := rfl
    rw [failures, restarts]
    generalize s.restart.1 = result, s.restart.2.books = b at effect answer ⊢
    cases effect with
    | restarted => cases answer
    | stuck => exact ⟨rfl, rfl⟩
  · rw [device_restart]
    exact ⟨rfl, rfl⟩

theorem stepKept (s : Server) : s.StepKept := by
  have effect := s.limitEffect_step
  have failures : s.step.2.failures = s.step.2.books.failures := rfl
  have restarts : s.step.2.restarts = s.step.2.books.restarts := rfl
  refine ⟨?_, fun e => ?_, fun e answer => ?_, s.paced_step⟩
  · generalize s.step.1 = result, s.step.2.books = b at effect ⊢
    cases effect with
    | below unreached other => simp [unreached, other]
    | reached reached effect => cases effect <;> simp [reached, Except.map]
  · generalize s.step.1 = result, s.step.2.books = b at effect ⊢
    cases effect with
    | below unreached other => simp [unreached]
    | @reached _ answer _ reached effect =>
      have fails := restartEffect_eq_error_iff effect e
      have mapped : (answer.map fun () => Cycle.restarted) = .error e ↔ answer = .error e := by
        cases answer <;> simp [Except.map]
      rw [mapped, fails, and_iff_right reached]
      rfl
  · rw [failures, restarts]
    generalize s.step.1 = result, s.step.2.books = b at effect answer ⊢
    cases effect with
    | below => cases answer
    | reached reached effect =>
      cases effect with
      | restarted => cases answer
      | stuck => exact ⟨rfl, rfl⟩

/-- What is true of a server that was bound to a source and has passed some milestones since. -/
structure Bookkept (source : ConnectionSource) (passed : List Milestone) (t : Server) : Prop where
  booked : Booked source t.books passed
  /-- The counter is the number of restarts that succeeded, as long as that fits a word. -/
  restarts : passed.countP Milestone.isSuccess < UInt32.size →
    t.restarts.value = passed.countP Milestone.isSuccess
  /-- Draining is over when a run returns. -/
  settled : t.phase ≠ .draining
  step : t.StepKept
  restart : t.RestartKept

/-- **The books are exact over every history.** -/
theorem bookkept_after_bind {source : ConnectionSource} {device : Device} {routes : RouteTable}
    {settings : Settings} {s t : Server} (bound : bind source device routes settings = .ok s)
    {operations : List Operation} (later : s.afterAll? operations = some t) :
    (∃ passed, s.PassesAll operations passed t) ∧
      ∀ passed, s.PassesAll operations passed t → Bookkept source passed t := by
  refine ⟨exists_passesAll_iff.2 later, fun passed passes => ?_⟩
  have start : Booked source s.books [] := by
    rw [books_bind bound]
    exact ⟨rfl, rfl, rfl, rfl⟩
  have booked := booked_passesAll start passes
  rw [List.nil_append] at booked
  have settled : t.phase ≠ .draining := by
    have phase : t.phase = _ := booked.phase
    rw [phase]
    exact Milestone.phaseAfter_ne_draining passed
  exact ⟨booked, booked.restarts.value_eq, settled, t.stepKept, t.restartKept⟩

/-- A run resets the device, since its restart fails. A restart makes up for that, and the run after
it returns. -/
theorem bookkept_after_reset :
    let source : ConnectionSource :=
      { accepts := [.fault .timedOut, .fault .connectionReset], binds := [none, some .addrInUse] }
    let left : Nat → List Influence := fun _ => []
    let operations : List Operation :=
      [.call .step, .run left, .call .restart, .call (.influence .shutdown), .run left]
    ∃ s t passed, bind source {} [] { failureLimit := 1 } = .ok s ∧
      s.afterAll? operations = some t ∧ s.PassesAll operations passed t ∧
        Bookkept source passed t := by
  intro source left operations
  have lives (s : Server) (bound : bind source {} [] { failureLimit := 1 } = .ok s)
      (running : s.step.2.phase = .running) (unasked : s.step.2.shutdown = false)
      (failed : s.step.2.step.1 = .error (.rebindFailed (.plain .addrInUse))) :
      ∃ t passed, bind source {} [] { failureLimit := 1 } = .ok s ∧
        s.afterAll? operations = some t ∧ s.PassesAll operations passed t ∧
          Bookkept source passed t := by
    have reset := runAmid?_of_error running unasked failed left
    generalize (s.step.2.step.2.amid (left 0)).note .error _ = u at reset
    obtain ⟨t, returned, -⟩ := exists_stopsAs (s := u.restart.2.requestShutdown) (.inr rfl) left
    have later : s.afterAll? operations = some t := by
      simp only [afterAll?, operations, List.foldlM_cons, List.foldlM_nil, undergo?, perform, under, reset,
        returned, Option.map_some, Option.bind_eq_bind, Option.bind_some, Option.pure_def]
    obtain ⟨⟨passed, passes⟩, kept⟩ := bookkept_after_bind bound later
    exact ⟨t, passed, bound, later, passes, kept passed passes⟩
  exact ⟨_, lives _ rfl (by decide +kernel) (by decide +kernel) (by decide +kernel)⟩

end Server

end DeviceHttp
