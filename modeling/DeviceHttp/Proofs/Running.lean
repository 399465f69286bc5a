import DeviceHttp.Proofs.Books

/-!
# What a run does

A run goes through cycles and does nothing in between. `Server.cycles` is the server after some
cycles, each followed by what others did while it was under way, and `Server.RunOutcome` tells from
these servers alone how a run ends: **at rest** if it is not running, **drained** by the first cycle
after which shutdown is requested, or **reset** by a cycle whose restart failed.

## Main statements

* `Server.runAmid?_eq_some_iff` — a run ends in one of these three ways, and
  `Server.runAmid?_eq_none_iff` — it does not end if there is no such cycle
* `Server.step_requestShutdown` — asking for shutdown leaves the cycle that is under way as it is,
  so it makes no difference at what moment of a cycle it is asked for
* `Server.runsByCycles` — what all of this means for one run and for those after it

A longer history is a list of operations (`Server.Operation`), each of them a call or a run. Without
runs it is a history of calls (`Server.afterAll?_map_call`).

## How

A cycle that succeeds leaves a running server running, whether or not it restarts it
(`Server.phase_step_of_ok`). So the phase is looked at only before the first cycle. Cycles that go
on lead a run to a later server, by induction on their number (`Server.runAmid?_of_cycles`).
Conversely, a run that ends has an outcome by induction along the run (`Server.Ends.induct`): after
its first cycle it is a run of another server, amid what others do from then on.
-/

namespace DeviceHttp

/-! ## Asking during a cycle -/

namespace Server

section Asking

/-- The same answer, by a server that is asked to shut down. -/
def asked {α : Type} (result : α × Server) : α × Server := (result.1, result.2.requestShutdown)

variable (s : Server)

theorem handle_requestShutdown (c : Connection) :
    s.requestShutdown.handle c =
      ((s.handle c).1, (s.handle c).2.1.requestShutdown, (s.handle c).2.2) := by
  simp only [handle, requestShutdown]
  split
  · rfl
  · rfl
  next request _ => rw [s.routes.answer_true _ s.shutdown request]

theorem disconnect_requestShutdown (c : Connection) :
    s.requestShutdown.disconnect c = (s.disconnect c).requestShutdown := by
  simp only [disconnect]
  split <;> rfl

theorem source_requestShutdown : s.requestShutdown.source = s.source := rfl

theorem serveNext_requestShutdown : s.requestShutdown.serveNext = asked s.serveNext := by
  have accepting : s.requestShutdown.accepting = s.accepting.requestShutdown := rfl
  rw [serveNext, serveNext, accepting, source_requestShutdown]
  split
  next c => simp only [serve, handle_requestShutdown, disconnect_requestShutdown, asked]
  next => rfl

theorem close_requestShutdown (complaint : String) :
    s.requestShutdown.close complaint = (s.close complaint).requestShutdown := by
  simp only [close, source_requestShutdown]
  split <;> rfl

theorem rebind_requestShutdown : s.requestShutdown.rebind = asked s.rebind := by
  simp only [rebind, source_requestShutdown]
  split <;> rfl

theorem restart_requestShutdown : s.requestShutdown.restart = asked s.restart := by
  have stopped : { s.requestShutdown with phase := .stopped } =
      { s with phase := .stopped }.requestShutdown := rfl
  have pause (t : Server) (milliseconds : Nat) :
      t.requestShutdown.delay milliseconds = (t.delay milliseconds).requestShutdown := rfl
  rw [restart, stopped, close_requestShutdown, pause, rebind_requestShutdown]
  rfl

theorem restartIf_requestShutdown (limitReached : Bool) (reason : String) (otherwise : Cycle) :
    s.requestShutdown.restartIf limitReached reason otherwise =
      asked (s.restartIf limitReached reason otherwise) := by
  have note (t : Server) (level : Level) (text : String) :
      t.requestShutdown.note level text = (t.note level text).requestShutdown := rfl
  cases limitReached with
  | false => rfl
  | true =>
    simp only [restartIf, note, restart_requestShutdown]
    rfl

theorem settle_requestShutdown (outcome : Except Error Cycle) :
    s.requestShutdown.settle outcome = asked (s.settle outcome) := by
  unfold settle
  split
  · rfl
  · rfl
  next e => exact (s.countFailure e).restartIf_requestShutdown _ _ _

theorem finish_requestShutdown (cycle : Except Error Cycle × Server) {last : Server → Server}
    (commutes : ∀ t, last t.requestShutdown = (last t).requestShutdown) :
    finish (asked cycle) last = asked (finish cycle last) := by
  obtain ⟨answer, t⟩ := cycle
  cases answer with
  | ok cycle => exact congrArg (Prod.mk _) (commutes t)
  | error e => rfl

/-- **A cycle goes the same way if shutdown is asked for before it.** -/
theorem step_requestShutdown : s.requestShutdown.step = asked s.step := by
  have checked : s.requestShutdown.checkedLink = s.checkedLink.requestShutdown := rfl
  have up (t : Server) : t.requestShutdown.stepLinkUp = asked t.stepLinkUp := by
    have cleared : t.requestShutdown.clearLinkDown = t.clearLinkDown.requestShutdown := rfl
    simp only [stepLinkUp, cleared, serveNext_requestShutdown, asked, settle_requestShutdown]
    exact finish_requestShutdown _ fun _ => rfl
  have down (t : Server) : t.requestShutdown.stepLinkDown = asked t.stepLinkDown := by
    have settled : t.requestShutdown.countLinkDown.settleLinkDown =
        asked t.countLinkDown.settleLinkDown :=
      t.countLinkDown.restartIf_requestShutdown _ _ _
    rw [stepLinkDown, settled]
    exact finish_requestShutdown _ fun _ => rfl
  rw [step, step, checked, up, down]
  show (if s.device.checkLink.1 = true then _ else _) = _
  split <;> rfl

end Asking

/-! ## Cycle by cycle -/

variable {s t u : Server} {meanwhile : Nat → List Influence}

/-- The server after some cycles, each with what others did during it. -/
def cycles (s : Server) (meanwhile : Nat → List Influence) : Nat → Server
  | 0 => s
  | n + 1 => (cycles s meanwhile n).step.2.amid (meanwhile n)

/-- What follows the first cycle are the cycles of the server after it. -/
theorem cycles_succ (s : Server) (meanwhile : Nat → List Influence) (n : Nat) :
    s.cycles meanwhile (n + 1) =
      (s.step.2.amid (meanwhile 0)).cycles (fun i => meanwhile (i + 1)) n := by
  induction n with
  | zero => rfl
  | succ n ih => rw [cycles, ih, cycles]

/-- A run goes on with a cycle, and after it. -/
structure GoesOn (s : Server) : Prop where
  unasked : s.shutdown = false
  succeeds : ∃ cycle, s.step.1 = .ok cycle

/-- The next cycles of a run go on exactly if the next one does and the others follow. -/
theorem goesOn_succ {n : Nat} (first : s.GoesOn)
    (others : ∀ i < n,
      ((s.step.2.amid (meanwhile 0)).cycles (fun i => meanwhile (i + 1)) i).GoesOn) :
    ∀ i < n + 1, (s.cycles meanwhile i).GoesOn := by
  intro i below
  cases i with
  | zero => exact first
  | succ i =>
    rw [cycles_succ]
    exact others i (Nat.lt_of_succ_lt_succ below)

theorem phase_amid (s : Server) (influences : List Influence) :
    (s.amid influences).phase = s.phase := by
  induction influences generalizing s with
  | nil => rfl
  | cons influence influences ih =>
    rw [amid, List.foldl_cons, ← amid, ih]
    cases influence <;> rfl

/-- **A cycle that succeeds leaves a running server running.** -/
theorem phase_step_of_ok {cycle : Cycle} (running : s.phase = .running)
    (ok : s.step.1 = .ok cycle) : s.step.2.phase = .running := by
  have effect := s.cycleEffect_step
  show s.step.2.books.phase = .running
  generalize s.step.1 = answer, s.step.2.books = b at effect ok ⊢
  cases effect with
  | linkDown | idle | succeeded | failed => exact running
  | linkDownLimit _ _ effect =>
    cases effect with
    | restarted => rfl
    | stuck => cases ok
  | failureLimit _ _ _ effect =>
    cases effect with
    | restarted => rfl
    | stuck => cases ok

theorem GoesOn.phase (goesOn : s.GoesOn) (running : s.phase = .running)
    (influences : List Influence) : (s.step.2.amid influences).phase = .running := by
  obtain ⟨cycle, ok⟩ := goesOn.succeeds
  rw [phase_amid]
  exact phase_step_of_ok running ok

/-! ## How a run ends -/

/-- The end of a run, told from the cycles that the server would go through. -/
inductive RunOutcome (s : Server) (meanwhile : Nat → List Influence) : RunEnd → Server → Prop where
  /-- A server that is not running is stopped. -/
  | atRest : s.phase ≠ .running → RunOutcome s meanwhile .stopped s.stop
  /-- After some cycles shutdown is requested. -/
  | drained {n : Nat} : s.phase = .running → (∀ i < n, (s.cycles meanwhile i).GoesOn) →
      (s.cycles meanwhile n).shutdown = true →
        RunOutcome s meanwhile .stopped (s.cycles meanwhile n).drain.stop
  /-- After some cycles there is one whose restart fails. -/
  | reset {n : Nat} {e : Error} : s.phase = .running → (∀ i < n, (s.cycles meanwhile i).GoesOn) →
      (s.cycles meanwhile n).shutdown = false → (s.cycles meanwhile n).step.1 = .error e →
        RunOutcome s meanwhile .deviceReset
          ((s.cycles meanwhile (n + 1)).note .error (e.message ++ ", resetting device"))

/-- What a run can do next. -/
inductive Advance (s : Server) (influences : List Influence) : Option RunEnd × Server → Prop where
  | atRest : s.phase ≠ .running → Advance s influences (some .stopped, s.stop)
  | drained : s.phase = .running → s.shutdown = true →
      Advance s influences (some .stopped, s.drain.stop)
  | goesOn : s.phase = .running → s.GoesOn → Advance s influences (none, s.step.2.amid influences)
  | reset {e : Error} : s.phase = .running → s.shutdown = false → s.step.1 = .error e →
      Advance s influences (some .deviceReset,
        (s.step.2.amid influences).note .error (e.message ++ ", resetting device"))

theorem advance_advance (s : Server) (influences : List Influence) :
    s.Advance influences (s.advance influences) := by
  rw [advance]
  split
  next atRest => exact .atRest atRest
  next running =>
    have running := Decidable.of_not_not running
    split
    next asked => exact .drained running asked
    next unasked =>
      have unasked := eq_false_of_ne_true unasked
      simp only
      split
      next cycle ok => exact .goesOn running ⟨unasked, cycle, ok⟩
      next e failed => exact .reset running unasked failed

/-- A property of all runs that end, if a run has it as soon as what is left of it has. -/
theorem Ends.induct {motive : Server → (Nat → List Influence) → Prop}
    (inherits : ∀ s meanwhile, (∀ later, s.advance (meanwhile 0) = (none, later) →
      motive later fun i => meanwhile (i + 1)) → motive s meanwhile)
    (ends : s.Ends meanwhile) : motive s meanwhile := by
  unfold Ends at ends
  generalize same : (s, meanwhile) = run at ends
  induction ends generalizing s meanwhile with
  | intro run _ ih =>
    subst same
    exact inherits s meanwhile fun later next => ih (_, _) ⟨next, rfl⟩ rfl

/-- A run that has ended ends. -/
theorem ends_of_advance {ending : RunEnd} {last : Server}
    (next : s.advance (meanwhile 0) = (some ending, last)) : s.Ends meanwhile :=
  ⟨_, fun later follows => by cases next.symm.trans follows.1⟩

/-- A run ends if what is left of it does. -/
theorem ends_of_later {later : Server} (next : s.advance (meanwhile 0) = (none, later))
    (ends : later.Ends fun i => meanwhile (i + 1)) : s.Ends meanwhile := by
  refine ⟨_, fun ⟨t, others⟩ ⟨follows, same⟩ => ?_⟩
  cases next.symm.trans follows
  subst same
  exact ends

open Classical in
/-- The result of a run. There is none if the run does not end. -/
noncomputable def runAmid? (s : Server) (meanwhile : Nat → List Influence) :
    Option (RunEnd × Server) :=
  if ends : s.Ends meanwhile then some (s.runAmid meanwhile ends) else none

theorem runAmid?_of_ended {ending : RunEnd} {last : Server}
    (next : s.advance (meanwhile 0) = (some ending, last)) :
    s.runAmid? meanwhile = some (ending, last) := by
  rw [runAmid?, dif_pos (ends_of_advance next), runAmid]
  split
  next ended =>
    cases ended.symm.trans next
    rfl
  next goesOn => cases next.symm.trans goesOn

theorem runAmid?_of_later {later : Server} (next : s.advance (meanwhile 0) = (none, later)) :
    s.runAmid? meanwhile = later.runAmid? fun i => meanwhile (i + 1) := by
  by_cases ends : s.Ends meanwhile
  · rw [runAmid?, dif_pos ends, runAmid?, dif_pos (ends.later next), runAmid]
    split
    next ended => cases next.symm.trans ended
    next goesOn =>
      cases next.symm.trans goesOn
      rfl
  · rw [runAmid?, dif_neg ends, runAmid?, dif_neg fun later => ends (ends_of_later next later)]

theorem runAmid?_of_not_running (atRest : s.phase ≠ .running) (meanwhile : Nat → List Influence) :
    s.runAmid? meanwhile = some (.stopped, s.stop) :=
  runAmid?_of_ended (by rw [advance, if_pos atRest])

theorem runAmid?_of_shutdown (running : s.phase = .running) (asked : s.shutdown = true)
    (meanwhile : Nat → List Influence) :
    s.runAmid? meanwhile = some (.stopped, s.drain.stop) :=
  runAmid?_of_ended (by rw [advance, if_neg (not_not_intro running), if_pos asked])

theorem runAmid?_of_error {e : Error} (running : s.phase = .running) (unasked : s.shutdown = false)
    (failed : s.step.1 = .error e) (meanwhile : Nat → List Influence) :
    s.runAmid? meanwhile =
      some (.deviceReset,
        (s.step.2.amid (meanwhile 0)).note .error (e.message ++ ", resetting device")) := by
  apply runAmid?_of_ended
  rw [advance, if_neg (not_not_intro running), if_neg (by simp [unasked]), failed]

/-- A run that goes on is a run of the server after the cycle. -/
theorem runAmid?_of_goesOn (running : s.phase = .running) (goesOn : s.GoesOn)
    (meanwhile : Nat → List Influence) :
    s.runAmid? meanwhile =
      (s.step.2.amid (meanwhile 0)).runAmid? fun i => meanwhile (i + 1) := by
  obtain ⟨cycle, ok⟩ := goesOn.succeeds
  apply runAmid?_of_later
  rw [advance, if_neg (not_not_intro running), if_neg (by simp [goesOn.unasked]), ok]

/-- Cycles that go on lead a run to a later server, which is running. -/
theorem runAmid?_of_cycles {n : Nat} (running : s.phase = .running)
    (goOn : ∀ i < n, (s.cycles meanwhile i).GoesOn) :
    (s.cycles meanwhile n).phase = .running ∧
      s.runAmid? meanwhile = (s.cycles meanwhile n).runAmid? fun i => meanwhile (n + i) := by
  induction n with
  | zero => exact ⟨running, by simp only [cycles, Nat.zero_add]⟩
  | succ n ih =>
    obtain ⟨later, runs⟩ := ih fun i below => goOn i (Nat.lt_succ_of_lt below)
    have goesOn := goOn n (Nat.lt_succ_self n)
    refine ⟨goesOn.phase later (meanwhile n), ?_⟩
    rw [runs, runAmid?_of_goesOn later goesOn]
    simp only [cycles, Nat.add_zero, Nat.succ_add_eq_add_succ]

theorem runAmid?_of_runOutcome {ending : RunEnd} (outcome : s.RunOutcome meanwhile ending t) :
    s.runAmid? meanwhile = some (ending, t) := by
  cases outcome with
  | atRest atRest => exact runAmid?_of_not_running atRest meanwhile
  | @drained n running goOn asked =>
    obtain ⟨later, runs⟩ := runAmid?_of_cycles running goOn
    rw [runs, runAmid?_of_shutdown later asked]
  | @reset n e running goOn unasked failed =>
    obtain ⟨later, runs⟩ := runAmid?_of_cycles running goOn
    rw [runs, runAmid?_of_error later unasked failed]
    rfl

/-- What the run after a cycle comes to, the whole run comes to. -/
theorem RunOutcome.of_goesOn {ending : RunEnd} (running : s.phase = .running) (goesOn : s.GoesOn)
    (outcome : (s.step.2.amid (meanwhile 0)).RunOutcome (fun i => meanwhile (i + 1)) ending t) :
    s.RunOutcome meanwhile ending t := by
  cases outcome with
  | atRest atRest => exact absurd (goesOn.phase running _) atRest
  | @drained n _ goOn asked =>
    rw [← cycles_succ] at asked ⊢
    exact .drained running (goesOn_succ goesOn goOn) asked
  | @reset n e _ goOn unasked failed =>
    rw [← cycles_succ] at unasked failed ⊢
    exact .reset running (goesOn_succ goesOn goOn) unasked failed

/-- A run that ends has an outcome. -/
theorem exists_runOutcome (ends : s.Ends meanwhile) :
    ∃ ending t, s.RunOutcome meanwhile ending t := by
  refine Ends.induct (motive := fun s meanwhile => ∃ ending t, s.RunOutcome meanwhile ending t)
    (fun s meanwhile ih => ?_) ends
  have next := s.advance_advance (meanwhile 0)
  cases way : s.advance (meanwhile 0) with
  | mk ending later =>
    rw [way] at next
    cases next with
    | atRest atRest => exact ⟨_, _, .atRest atRest⟩
    | drained running asked => exact ⟨_, _, .drained (n := 0) running nofun asked⟩
    | goesOn running goesOn =>
      obtain ⟨ending, t, outcome⟩ := ih _ way
      exact ⟨ending, t, .of_goesOn running goesOn outcome⟩
    | reset running unasked failed =>
      exact ⟨_, _, .reset (n := 0) running nofun unasked failed⟩

/-- **A run ends in one of three ways.** -/
theorem runAmid?_eq_some_iff {ending : RunEnd} :
    s.runAmid? meanwhile = some (ending, t) ↔ s.RunOutcome meanwhile ending t := by
  refine ⟨fun ended => ?_, runAmid?_of_runOutcome⟩
  have ends : s.Ends meanwhile := by
    apply Classical.byContradiction
    intro endless
    rw [runAmid?, dif_neg endless] at ended
    cases ended
  obtain ⟨ending', t', outcome⟩ := exists_runOutcome ends
  rw [runAmid?_of_runOutcome outcome] at ended
  cases ended
  exact outcome

/-- A run does not end exactly if every cycle goes on. -/
theorem runAmid?_eq_none_iff : s.runAmid? meanwhile = none ↔
    s.phase = .running ∧ ∀ n, (s.cycles meanwhile n).GoesOn := by
  constructor
  · intro endless
    have running : s.phase = .running := by
      apply Decidable.byContradiction
      intro atRest
      rw [runAmid?_of_not_running atRest] at endless
      cases endless
    refine ⟨running, fun n => ?_⟩
    induction n using Nat.strongRecOn with
    | ind n before =>
      obtain ⟨later, runs⟩ := runAmid?_of_cycles running before
      rw [runs] at endless
      have unasked : (s.cycles meanwhile n).shutdown = false := by
        apply eq_false_of_ne_true
        intro asked
        rw [runAmid?_of_shutdown later asked] at endless
        cases endless
      refine ⟨unasked, ?_⟩
      cases answer : (s.cycles meanwhile n).step.1 with
      | ok cycle => exact ⟨cycle, rfl⟩
      | error e =>
        rw [runAmid?_of_error later unasked answer] at endless
        cases endless
  · rintro ⟨running, goOn⟩
    cases ended : s.runAmid? meanwhile with
    | none => rfl
    | some result =>
      obtain ⟨ending, t⟩ := result
      cases runAmid?_eq_some_iff.1 ended with
      | atRest atRest => exact absurd running atRest
      | @drained n _ _ asked => exact absurd asked (by simp [(goOn n).unasked])
      | @reset n e _ _ _ failed =>
        obtain ⟨cycle, ok⟩ := (goOn n).succeeds
        rw [ok] at failed
        cases failed

/-! ## Stopping -/

/-- The second server is the first one, stopped: its listener was closed once more, and nothing but
the log differs besides. -/
def StopsAs (s t : Server) : Prop :=
  t = { s with
    phase := .stopped
    source := { s.source with
      closes := s.source.closes.drop 1
      closeCalls := s.source.closeCalls + 1 }
    log := t.log }

theorem stopsAs_stop (s : Server) : s.StopsAs s.stop := by
  unfold StopsAs stop close
  simp only
  split <;> rfl

theorem stopsAs_drain_stop (s : Server) : s.StopsAs s.drain.stop := by
  unfold StopsAs stop close
  simp only
  split <;> rfl

/-- A run that finds the server at rest or shutdown requested stops it at once. -/
theorem exists_stopsAs (finished : s.phase ≠ .running ∨ s.shutdown = true)
    (meanwhile : Nat → List Influence) :
    ∃ t, s.runAmid? meanwhile = some (.stopped, t) ∧ s.StopsAs t := by
  by_cases running : s.phase = .running
  · have asked := finished.resolve_left (not_not_intro running)
    exact ⟨_, runAmid?_of_shutdown running asked meanwhile, s.stopsAs_drain_stop⟩
  · exact ⟨_, runAmid?_of_not_running running meanwhile, s.stopsAs_stop⟩

/-! ## Requests for shutdown stand -/

/-- What is done with a server: a call, or a run. -/
inductive Operation where
  | call (call : Call)
  /-- A run, with what others do during its cycles. -/
  | run (meanwhile : Nat → List Influence)

/-- The server after an operation. There is none after a run that does not end. -/
noncomputable def undergo? (s : Server) : Operation → Option Server
  | .call call => some (s.perform call)
  | .run meanwhile => (s.runAmid? meanwhile).map Prod.snd

/-- The server after some operations. -/
noncomputable def afterAll? (s : Server) (operations : List Operation) : Option Server :=
  operations.foldlM undergo? s

theorem requestShutdown_eq_self (asked : s.shutdown = true) : s.requestShutdown = s := by
  rw [requestShutdown, ← asked]

/-- Operations without a run among them are a history of calls. -/
theorem afterAll?_map_call (s : Server) (history : List Call) :
    s.afterAll? (history.map .call) = some (s.after history) := by
  induction history generalizing s with
  | nil => rfl
  | cons call history ih => exact ih (s.perform call)

/-- No call takes a request for shutdown back. -/
theorem shutdown_perform (asked : s.shutdown = true) (call : Call) :
    (s.perform call).shutdown = true := by
  cases call with
  | step =>
    have same := s.step_requestShutdown
    rw [requestShutdown_eq_self asked] at same
    exact congrArg (fun result => result.2.shutdown) same
  | restart =>
    have same := s.restart_requestShutdown
    rw [requestShutdown_eq_self asked] at same
    exact congrArg (fun result => result.2.shutdown) same
  | influence influence => exact (keeps_under s influence).shutdown asked

/-- No operation takes a request for shutdown back, and a run ends at once. -/
theorem exists_undergo? (asked : s.shutdown = true) (operation : Operation) :
    ∃ t, s.undergo? operation = some t ∧ t.shutdown = true := by
  cases operation with
  | call call => exact ⟨_, rfl, shutdown_perform asked call⟩
  | run meanwhile =>
    obtain ⟨t, ended, stops⟩ := exists_stopsAs (.inr asked) meanwhile
    refine ⟨t, ?_, ?_⟩
    · rw [undergo?, ended]
      rfl
    · rw [stops]
      exact asked

theorem exists_afterAll? (asked : s.shutdown = true) (operations : List Operation) :
    ∃ t, s.afterAll? operations = some t ∧ t.shutdown = true := by
  induction operations generalizing s with
  | nil => exact ⟨s, rfl, asked⟩
  | cons operation operations ih =>
    obtain ⟨t, next, stands⟩ := exists_undergo? asked operation
    obtain ⟨u, later, stands⟩ := ih stands
    refine ⟨u, ?_, stands⟩
    rw [afterAll?, List.foldlM_cons, next]
    exact later

/-! ## One run and those after it -/

theorem runAmid?_closingWhenIdle (s : Server) :
    ∃ t, (s.closingWhenIdle true).runAmid? (fun _ => []) = some (s.run.1, t) ∧
      s.run.2 = t.closingWhenIdle s.source.closesWhenIdle := by
  have ends : (s.closingWhenIdle true).Ends fun _ => [] := ends_of_closesWhenIdle rfl _
  refine ⟨((s.closingWhenIdle true).runAmid (fun _ => []) ends).2, ?_, rfl⟩
  rw [runAmid?, dif_pos ends]
  rfl

/-- What a run does, amid what others do. -/
structure RunsByCycles (s : Server) (meanwhile : Nat → List Influence) : Prop where
  /-- A server at rest, or one that was asked before, is stopped without a cycle. -/
  atOnce : s.phase ≠ .running ∨ s.shutdown = true →
    ∃ t, s.runAmid? meanwhile = some (.stopped, t) ∧ s.StopsAs t
  /-- Otherwise the first cycle after which shutdown is requested is the last one, and the source is
  left as it was after this cycle, but for the close. -/
  drains : ∀ {n : Nat}, s.phase = .running →
    (∀ i < n, (s.cycles meanwhile i).shutdown = false) →
      (s.cycles meanwhile n).shutdown = true →
        (∀ i < n, ∃ cycle, (s.cycles meanwhile i).step.1 = .ok cycle) →
          ∃ t, s.runAmid? meanwhile = some (.stopped, t) ∧ (s.cycles meanwhile n).StopsAs t
  /-- A cycle that fails before shutdown was seen to be requested is followed by a reset. Besides
  the log this is the server after the cycle: there was no cycle after it, and no close. -/
  resets : ∀ {n : Nat} {e : Error}, s.phase = .running →
    (∀ i ≤ n, (s.cycles meanwhile i).shutdown = false) →
      (∀ i < n, ∃ cycle, (s.cycles meanwhile i).step.1 = .ok cycle) →
        (s.cycles meanwhile n).step.1 = .error e →
          s.runAmid? meanwhile = some (.deviceReset,
            (s.cycles meanwhile (n + 1)).note .error (e.message ++ ", resetting device"))
  /-- There is no reset without such a cycle. -/
  onlyThen : ∀ {t : Server}, s.runAmid? meanwhile = some (.deviceReset, t) →
    s.phase = .running ∧ ∃ n e, (∀ i ≤ n, (s.cycles meanwhile i).shutdown = false) ∧
      (∀ i < n, ∃ cycle, (s.cycles meanwhile i).step.1 = .ok cycle) ∧
        (s.cycles meanwhile n).step.1 = .error e
  /-- A run without an end goes through cycles forever. -/
  endless : s.runAmid? meanwhile = none ↔ s.phase = .running ∧
    ∀ n, (s.cycles meanwhile n).shutdown = false ∧
      ∃ cycle, (s.cycles meanwhile n).step.1 = .ok cycle
  /-- It makes no difference for a cycle that shutdown is requested before its end. -/
  anytime : s.requestShutdown.step = asked s.step
  /-- A request stands, whatever is done afterwards, so that every later run stops at once. -/
  stands : s.shutdown = true → ∀ operations : List Operation,
    ∃ t, s.afterAll? operations = some t ∧ t.shutdown = true ∧
      ∀ meanwhile, ∃ u, t.runAmid? meanwhile = some (.stopped, u) ∧ t.StopsAs u
  /-- A run that is left to itself, by a source that closes when idle, is one of these and ends. -/
  alone : ∃ t, (s.closingWhenIdle true).runAmid? (fun _ => []) = some (s.run.1, t) ∧
    s.run.2 = t.closingWhenIdle s.source.closesWhenIdle

/-- **A run is a sequence of cycles with a clean stop.** -/
theorem runsByCycles (s : Server) (meanwhile : Nat → List Influence) :
    s.RunsByCycles meanwhile where
  atOnce finished := exists_stopsAs finished meanwhile
  drains {n} running unasked asked succeed := by
    refine ⟨_, ?_, stopsAs_drain_stop _⟩
    exact runAmid?_of_runOutcome
      (.drained running (fun i below => ⟨unasked i below, succeed i below⟩) asked)
  resets {n e} running unasked succeed failed := by
    refine runAmid?_of_runOutcome
      (.reset running (fun i below => ?_) (unasked n (Nat.le_refl n)) failed)
    exact ⟨unasked i (Nat.le_of_lt below), succeed i below⟩
  onlyThen {t} ended := by
    cases runAmid?_eq_some_iff.1 ended with
    | @reset n e running goOn unasked failed =>
      refine ⟨running, n, e, fun i most => ?_, fun i below => (goOn i below).succeeds, failed⟩
      rcases Nat.lt_or_eq_of_le most with below | rfl
      · exact (goOn i below).unasked
      · exact unasked
  endless := by
    rw [runAmid?_eq_none_iff]
    exact and_congr_right fun _ =>
      ⟨fun goOn n => ⟨(goOn n).unasked, (goOn n).succeeds⟩, fun goOn n => ⟨(goOn n).1, (goOn n).2⟩⟩
  anytime := s.step_requestShutdown
  stands asked operations := by
    obtain ⟨t, later, stands⟩ := exists_afterAll? asked operations
    exact ⟨t, later, stands, fun meanwhile => exists_stopsAs (.inr stands) meanwhile⟩
  alone := s.runAmid?_closingWhenIdle

/-- A handler asks for shutdown in the second cycle, and the third connection is not accepted. A
restart fails in the second cycle, in which shutdown is requested as well, and the device is
reset. -/
theorem runsByCycles_asked_and_stuck :
    let bye : Handler := fun _ =>
      .requestShutdown (.respond (.ok MediaType.plainText (Utf8.encode "bye")))
    let c : Connection := { arrivals := [.data (Utf8.encode "GET / HTTP/1.1\r\n\r\n")] }
    let calm : ConnectionSource := { accepts := [.fault .timedOut, .connection c, .connection c] }
    let rough : ConnectionSource :=
      { accepts := [.fault .timedOut, .fault .connectionReset, .connection c]
        binds := [none, some .addrInUse] }
    let asking : Nat → List Influence := fun i => if i = 1 then [.shutdown] else []
    (∃ s t, bind calm {} [.any "/" bye] {} = .ok s ∧
      s.runAmid? (fun _ => []) = some (.stopped, t) ∧
        t.source.accepts = [.connection c] ∧ t.source.closeCalls = 1) ∧
      ∃ s t, bind rough {} [.any "/" bye] { failureLimit := 1 } = .ok s ∧
        s.runAmid? asking = some (.deviceReset, t) ∧
          t.source.accepts = [.connection c] ∧ t.source.closeCalls = 1 := by
  intro bye c calm rough asking
  have drains (s : Server) (bound : bind calm {} [.any "/" bye] {} = .ok s)
      (running : s.phase = .running)
      (unasked : ∀ i < 2, (s.cycles (fun _ => []) i).shutdown = false)
      (answers : s.step.1 = .ok .idle ∧ (s.cycles (fun _ => []) 1).step.1 = .ok .served)
      (later : (s.cycles (fun _ => []) 2).shutdown = true ∧
        (s.cycles (fun _ => []) 2).source.accepts = [.connection c] ∧
          (s.cycles (fun _ => []) 2).source.closeCalls = 0) :
      ∃ s t, bind calm {} [.any "/" bye] {} = .ok s ∧
        s.runAmid? (fun _ => []) = some (.stopped, t) ∧
          t.source.accepts = [.connection c] ∧ t.source.closeCalls = 1 := by
    obtain ⟨t, ended, stops⟩ := (runsByCycles s fun _ => []).drains running unasked later.1 fun
      | 0, _ => ⟨_, answers.1⟩
      | 1, _ => ⟨_, answers.2⟩
    refine ⟨s, t, bound, ended, ?_⟩
    rw [stops]
    exact ⟨later.2.1, congrArg (· + 1) later.2.2⟩
  have resets (s : Server) (bound : bind rough {} [.any "/" bye] { failureLimit := 1 } = .ok s)
      (running : s.phase = .running) (unasked : ∀ i ≤ 1, (s.cycles asking i).shutdown = false)
      (answers : s.step.1 = .ok .idle ∧
        (s.cycles asking 1).step.1 = .error (.rebindFailed (.plain .addrInUse)))
      (later : (s.cycles asking 2).source.accepts = [.connection c] ∧
        (s.cycles asking 2).source.closeCalls = 1) :
      ∃ s t, bind rough {} [.any "/" bye] { failureLimit := 1 } = .ok s ∧
        s.runAmid? asking = some (.deviceReset, t) ∧
          t.source.accepts = [.connection c] ∧ t.source.closeCalls = 1 := by
    refine ⟨s, _, bound, (runsByCycles s asking).resets running unasked ?_ answers.2, later⟩
    exact fun | 0, _ => ⟨_, answers.1⟩
  refine ⟨drains _ rfl rfl ?_ ?_ ?_, resets _ rfl rfl ?_ ?_ ?_⟩
  all_goals decide +kernel

end Server

end DeviceHttp
