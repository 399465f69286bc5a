import DeviceHttp.Server.Run

/-!
# What a cycle enters into the books

A server keeps books about itself: its phase, its counters, and what it has asked of its source.
Most of what a server does leaves them alone. This module collects them in one view,
`Server.books`, and says once what a restart and a cycle enter there.

## Main statements

* `Server.restartEffect_restart` — a restart asks the source to close and to bind, and starts the
  counters anew if that succeeds
* `Server.cycleEffect_step` — every cycle is one of eight, told apart by the link, by whether the
  request failed, by the limits, and by the source's answer to binding

Whether the request of a cycle fails is said by `Server.requestFails`, without the counters.

A history is a list of calls on a server (`Server.Call`): cycles, restarts, and what others do in
between.
-/

namespace DeviceHttp

/-- The books of a server, with the settings and the answers to binding that its entries hang on. -/
structure Books where
  settings : Settings
  phase : Phase
  failures : Counter
  linkDown : Counter
  restarts : Counter
  binds : List (Option FaultKind)
  bindCalls : Nat
  closeCalls : Nat

namespace Books

/-- The books after a restart. -/
def restarted (b : Books) : Books :=
  { b with
    phase := .running
    failures := 0
    linkDown := 0
    restarts := b.restarts.raise
    binds := b.binds.drop 1
    bindCalls := b.bindCalls + 1
    closeCalls := b.closeCalls + 1 }

/-- The books after a restart that failed. -/
def stuck (b : Books) : Books :=
  { b with
    phase := .stopped
    binds := b.binds.drop 1
    bindCalls := b.bindCalls + 1
    closeCalls := b.closeCalls + 1 }

/-- How the next binding goes. -/
def bindAnswer (b : Books) : Except FaultKind Unit := succeedOrFail (b.binds.headD none)

end Books

namespace Server

/-- The books of a server. -/
def books (s : Server) : Books where
  settings := s.settings
  phase := s.phase
  failures := s.failures
  linkDown := s.linkDown
  restarts := s.restarts
  binds := s.source.binds
  bindCalls := s.source.bindCalls
  closeCalls := s.source.closeCalls

/-- The books of a server that has just been bound. -/
theorem books_bind {source : ConnectionSource} {device : Device} {routes : RouteTable}
    {settings : Settings} {s : Server} (bound : bind source device routes settings = .ok s) :
    s.books =
      { settings, phase := .running, failures := 0, linkDown := 0, restarts := 0,
        binds := source.binds.drop 1, bindCalls := source.bindCalls + 1,
        closeCalls := source.closeCalls } := by
  rw [bind, ConnectionSource.bind] at bound
  cases answer : succeedOrFail (source.binds.headD none) with
  | ok =>
    rw [answer] at bound
    cases bound
    rfl
  | error kind =>
    rw [answer] at bound
    cases bound

/-! ## What leaves the books alone -/

@[simp] theorem books_note (s : Server) (level : Level) (text : String) :
    (s.note level text).books = s.books := rfl

@[simp] theorem books_delay (s : Server) (milliseconds : Nat) :
    (s.delay milliseconds).books = s.books := rfl

@[simp] theorem books_checkedLink (s : Server) : s.checkedLink.books = s.books := rfl

@[simp] theorem books_pauseLinkUp (s : Server) : s.pauseLinkUp.books = s.books := rfl

@[simp] theorem books_pauseLinkDown (s : Server) : s.pauseLinkDown.books = s.books := rfl

@[simp] theorem books_accepting (s : Server) : s.accepting.books = s.books := rfl

@[simp] theorem books_handle (s : Server) (c : Connection) : (s.handle c).2.1.books = s.books := by
  rw [handle]
  split <;> rfl

@[simp] theorem books_disconnect (s : Server) (c : Connection) :
    (s.disconnect c).books = s.books := by
  rw [disconnect]
  simp only
  split <;> rfl

/-- Accepting and serving a connection leaves the books alone. -/
@[simp] theorem books_serveNext (s : Server) : s.serveNext.2.books = s.books := by
  rw [serveNext]
  split
  next c => rw [serve, books_disconnect, books_handle, books_accepting]
  next kind => exact books_accepting s

/-! ## What is entered -/

@[simp] theorem books_clearLinkDown (s : Server) :
    s.clearLinkDown.books = { s.books with linkDown := 0 } := rfl

@[simp] theorem books_clearFailures (s : Server) :
    s.clearFailures.books = { s.books with failures := 0 } := rfl

@[simp] theorem books_countLinkDown (s : Server) :
    s.countLinkDown.books = { s.books with linkDown := s.books.linkDown.raise } := rfl

@[simp] theorem books_countFailure (s : Server) (e : Error) :
    (s.countFailure e).books = { s.books with failures := s.books.failures.raise } := rfl

/-- What a restart can return and enter. -/
inductive RestartEffect (b : Books) : Except Error Unit → Books → Prop where
  | restarted : b.bindAnswer = .ok () → RestartEffect b (.ok ()) b.restarted
  | stuck {kind : FaultKind} : b.bindAnswer = .error kind →
      RestartEffect b (.error (.rebindFailed (.plain kind))) b.stuck

@[simp] theorem books_close (s : Server) (complaint : String) :
    (s.close complaint).books = { s.books with closeCalls := s.books.closeCalls + 1 } := by
  rw [close]
  simp only
  split <;> rfl

theorem rebind_of_ok {s : Server} (h : s.books.bindAnswer = .ok ()) :
    s.rebind.1 = .ok () ∧
      s.rebind.2.books = { s.books.restarted with closeCalls := s.books.closeCalls } := by
  have answer : s.source.bind.1 = .ok () := h
  simp only [rebind, answer]
  exact ⟨trivial, rfl⟩

theorem rebind_of_error {s : Server} {kind : FaultKind} (h : s.books.bindAnswer = .error kind) :
    s.rebind.1 = .error (.rebindFailed (.plain kind)) ∧
      s.rebind.2.books =
        { s.books.stuck with phase := s.phase, closeCalls := s.books.closeCalls } := by
  have answer : s.source.bind.1 = .error kind := h
  simp only [rebind, answer]
  exact ⟨trivial, rfl⟩

theorem restartEffect_restart (s : Server) :
    RestartEffect s.books s.restart.1 s.restart.2.books := by
  have closed : (({ s with phase := .stopped }.close "Close failed during restart: ").delay
      s.settings.restartPause).books =
        { s.books with phase := .stopped, closeCalls := s.books.closeCalls + 1 } := by
    rw [books_delay, books_close]
    rfl
  rw [restart]
  generalize ({ s with phase := .stopped }.close "Close failed during restart: ").delay
    s.settings.restartPause = t at closed ⊢
  have phase : t.phase = .stopped := congrArg Books.phase closed
  cases answer : s.books.bindAnswer with
  | ok =>
    have later : t.books.bindAnswer = .ok () := by rw [closed]; exact answer
    obtain ⟨result, entered⟩ := rebind_of_ok later
    rw [result, entered, closed]
    exact .restarted answer
  | error kind =>
    have later : t.books.bindAnswer = .error kind := by rw [closed]; exact answer
    obtain ⟨result, entered⟩ := rebind_of_error later
    rw [result, entered, closed, phase]
    exact .stuck answer

/-! ## Requests that fail -/

/-- Whether the next accept fails other than by a timeout, or brings a connection whose request
fails. -/
def requestFails (s : Server) : Bool :=
  match s.source.upcoming with
  | .fault kind => !kind.isTimeout
  | .connection c =>
    match (s.accepting.handle c).1 with
    | .ok _ => false
    | .error _ => true

end Server

/-- Whether a cycle brought the server together with a peer, and nothing failed. -/
def Cycle.succeeded : Cycle → Bool
  | served | notFound | noRequest => true
  | _ => false

namespace Server

theorem succeeded_of_handle {s : Server} {c : Connection} {cycle : Cycle}
    (h : (s.handle c).1 = .ok cycle) : cycle.succeeded = true := by
  rw [handle] at h
  split at h
  · cases h
  · cases h
    rfl
  next request _ =>
    simp only at h
    generalize (s.routes.answer _ s.shutdown request).outcome = outcome at h
    cases outcome with
    | error e => cases h
    | ok routing =>
      cases routing with
      | handled => cases h; rfl
      | notFound => cases h; rfl

/-- What serving the next connection can return. -/
inductive ServeEffect (s : Server) : Except Error Cycle → Prop where
  | idle : s.requestFails = false → ServeEffect s (.ok .idle)
  | succeeded {cycle : Cycle} : s.requestFails = false → cycle.succeeded = true →
      ServeEffect s (.ok cycle)
  | failed {e : Error} : s.requestFails = true → ServeEffect s (.error e)

theorem serveEffect_serveNext (s : Server) : s.ServeEffect s.serveNext.1 := by
  rw [serveNext]
  cases upcoming : s.source.upcoming with
  | fault kind =>
    have fails : s.requestFails = !kind.isTimeout := by rw [requestFails, upcoming]
    cases timeout : kind.isTimeout with
    | true =>
      simp only [timeout, if_true]
      exact .idle (by rw [fails, timeout]; rfl)
    | false =>
      simp only [timeout, Bool.false_eq_true, if_false]
      exact .failed (by rw [fails, timeout]; rfl)
  | connection c =>
    simp only [serve]
    cases outcome : (s.accepting.handle c).1 with
    | ok cycle =>
      exact .succeeded (by simp only [requestFails, upcoming, outcome])
        (succeeded_of_handle outcome)
    | error e => exact .failed (by simp only [requestFails, upcoming, outcome])

/-! ## Cycles -/

/-- What a cycle can return and enter. -/
inductive CycleEffect (s : Server) : Except Error Cycle → Books → Prop where
  | linkDown : s.device.checkLink.1 = false → s.linkDown.raise.value < s.settings.linkDownLimit →
      CycleEffect s (.ok .linkDown) { s.books with linkDown := s.linkDown.raise }
  | linkDownLimit {answer : Except Error Unit} {b : Books} : s.device.checkLink.1 = false →
      s.settings.linkDownLimit ≤ s.linkDown.raise.value →
        RestartEffect { s.books with linkDown := s.linkDown.raise } answer b →
          CycleEffect s (answer.map fun () => .restarted) b
  | idle : s.device.checkLink.1 = true → s.requestFails = false →
      CycleEffect s (.ok .idle) { s.books with linkDown := 0 }
  | succeeded {cycle : Cycle} : s.device.checkLink.1 = true → s.requestFails = false →
      cycle.succeeded = true →
        CycleEffect s (.ok cycle) { s.books with linkDown := 0, failures := 0 }
  | failed : s.device.checkLink.1 = true → s.requestFails = true →
      s.failures.raise.value < s.settings.failureLimit →
        CycleEffect s (.ok .failed) { s.books with linkDown := 0, failures := s.failures.raise }
  | failureLimit {answer : Except Error Unit} {b : Books} : s.device.checkLink.1 = true →
      s.requestFails = true → s.settings.failureLimit ≤ s.failures.raise.value →
        RestartEffect { s.books with linkDown := 0, failures := s.failures.raise } answer b →
          CycleEffect s (answer.map fun () => .restarted) b

/-- Settling a limit that is not reached changes nothing. -/
theorem finish_restartIf_of_not (s : Server) {limitReached : Bool} (h : limitReached = false)
    (reason : String) (otherwise : Cycle) (last : Server → Server) :
    finish (s.restartIf limitReached reason otherwise) last = (.ok otherwise, last s) := by
  rw [restartIf, h]
  rfl

/-- Settling a limit that is reached is a restart, and the pause after it is not entered. -/
theorem restartEffect_finish_restartIf (s : Server) {limitReached : Bool} (h : limitReached = true)
    (reason : String) (otherwise : Cycle) {last : Server → Server}
    (pause : ∀ t : Server, (last t).books = t.books) :
    ∃ answer, (finish (s.restartIf limitReached reason otherwise) last).1 =
        Except.map (fun () => .restarted) answer ∧
      RestartEffect s.books answer
        (finish (s.restartIf limitReached reason otherwise) last).2.books := by
  have effect := (s.note .error reason).restartEffect_restart
  rw [books_note] at effect
  refine ⟨(s.note .error reason).restart.1, ?_⟩
  rw [restartIf, if_pos h]
  simp only
  generalize (s.note .error reason).restart = outcome at effect ⊢
  obtain ⟨answer, t⟩ := outcome
  cases answer with
  | ok =>
    refine ⟨rfl, ?_⟩
    show RestartEffect s.books (.ok ()) (last t).books
    rw [pause]
    exact effect
  | error e => exact ⟨rfl, effect⟩

theorem cycleEffect_stepLinkDown {s : Server} (down : s.device.checkLink.1 = false) :
    s.CycleEffect s.checkedLink.stepLinkDown.1 s.checkedLink.stepLinkDown.2.books := by
  by_cases reached : s.settings.linkDownLimit ≤ s.linkDown.raise.value
  · obtain ⟨answer, result, effect⟩ := s.checkedLink.countLinkDown.restartEffect_finish_restartIf
      (decide_eq_true reached) ("Link down " ++ toString s.linkDown.raise ++
        " times, restarting server") .linkDown books_pauseLinkDown
    exact result ▸ .linkDownLimit down reached effect
  · have settled : s.checkedLink.stepLinkDown =
        (.ok .linkDown, s.checkedLink.countLinkDown.pauseLinkDown) :=
      finish_restartIf_of_not _ (decide_eq_false reached) _ _ _
    rw [settled]
    exact .linkDown down (Nat.lt_of_not_le reached)

/-- How a request ends hangs on the buffers, the routes and the request for shutdown alone. -/
theorem outcome_handle_congr {s t : Server} (receiveBuffer : s.receiveBuffer = t.receiveBuffer)
    (headerBuffer : s.headerBuffer = t.headerBuffer) (routes : s.routes = t.routes)
    (shutdown : s.shutdown = t.shutdown) (c : Connection) : (s.handle c).1 = (t.handle c).1 := by
  simp only [handle, receiveBuffer, headerBuffer, routes, shutdown]
  split <;> rfl

/-- Whether the next request fails is the same after the check of the link. -/
theorem requestFails_clearLinkDown (s : Server) :
    s.checkedLink.clearLinkDown.requestFails = s.requestFails := by
  have same (c : Connection) :
      (s.checkedLink.clearLinkDown.accepting.handle c).1 = (s.accepting.handle c).1 := by
    apply outcome_handle_congr <;> rfl
  simp only [requestFails, same]
  rfl

theorem cycleEffect_stepLinkUp {s : Server} (up : s.device.checkLink.1 = true) :
    s.CycleEffect s.checkedLink.stepLinkUp.1 s.checkedLink.stepLinkUp.2.books := by
  have served := s.checkedLink.clearLinkDown.serveEffect_serveNext
  have entered := s.checkedLink.clearLinkDown.books_serveNext
  rw [books_clearLinkDown, books_checkedLink] at entered
  rw [stepLinkUp]
  generalize s.checkedLink.clearLinkDown.serveNext = outcome at served entered ⊢
  obtain ⟨result, t⟩ := outcome
  simp only at served entered ⊢
  cases served with
  | idle fine =>
    rw [requestFails_clearLinkDown] at fine
    show s.CycleEffect (.ok .idle) t.pauseLinkUp.books
    rw [books_pauseLinkUp, entered]
    exact .idle up fine
  | @succeeded cycle fine succeeded =>
    rw [requestFails_clearLinkDown] at fine
    have settled : finish (t.settle (.ok cycle)) pauseLinkUp =
        (.ok cycle, t.clearFailures.pauseLinkUp) := by
      cases cycle <;> first | rfl | cases succeeded
    rw [settled, books_pauseLinkUp, books_clearFailures, entered]
    exact .succeeded up fine succeeded
  | @failed e fails =>
    rw [requestFails_clearLinkDown] at fails
    have failures : t.failures = s.failures := congrArg Books.failures entered
    have settings : t.settings = s.settings := congrArg Books.settings entered
    have counted : (t.countFailure e).books =
        { s.books with linkDown := 0, failures := s.failures.raise } := by
      rw [books_countFailure, entered]
      rfl
    by_cases reached : s.settings.failureLimit ≤ s.failures.raise.value
    · rw [← settings, ← failures] at reached
      obtain ⟨answer, result, effect⟩ := (t.countFailure e).restartEffect_finish_restartIf
        (decide_eq_true reached) (toString t.failures.raise ++
          " failed requests in a row, restarting server") .failed books_pauseLinkUp
      rw [settings, failures] at reached
      rw [counted] at effect
      exact result ▸ .failureLimit up fails reached effect
    · have below : ¬ t.settings.failureLimit ≤ t.failures.raise.value := by rwa [settings, failures]
      have settled : finish (t.settle (.error e)) pauseLinkUp =
          (.ok .failed, (t.countFailure e).pauseLinkUp) :=
        finish_restartIf_of_not _ (decide_eq_false below) _ _ _
      rw [settled, books_pauseLinkUp, counted]
      exact .failed up fails (Nat.lt_of_not_le reached)

/-- **Every cycle is one of these.** -/
theorem cycleEffect_step (s : Server) : s.CycleEffect s.step.1 s.step.2.books := by
  rw [step]
  cases link : s.device.checkLink.1 with
  | true => exact cycleEffect_stepLinkUp link
  | false => exact cycleEffect_stepLinkDown link

/-! ## Histories -/

/-- What is done with a server, and comes to an end by itself. -/
inductive Call where
  /-- One cycle. -/
  | step
  | restart
  /-- Something that others do. -/
  | influence (influence : Influence)

/-- The server after a call. -/
def perform (s : Server) : Call → Server
  | .step => s.step.2
  | .restart => s.restart.2
  | .influence influence => s.under influence

/-- The server after a history. -/
def after (s : Server) (history : List Call) : Server := history.foldl perform s

/-- Nobody else makes entries. -/
@[simp] theorem books_under (s : Server) (influence : Influence) :
    (s.under influence).books = s.books := by
  cases influence <;> rfl

@[simp] theorem books_amid (s : Server) (influences : List Influence) :
    (s.amid influences).books = s.books := by
  induction influences generalizing s with
  | nil => rfl
  | cons influence influences ih => rw [amid, List.foldl_cons, ← amid, ih, books_under]

end Server

end DeviceHttp
