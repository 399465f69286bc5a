import DeviceHttp.Proofs.Counters
import DeviceHttp.Proofs.Serving
import Mathlib.Data.List.Forall2

/-!
# Every connection is ended once

A server hands every connection back that it has accepted, and in between it does nothing else. The
connection is ended once, after everything that was done to receive its request and to answer it,
however that went. A connection without a request, or with one that could not be received, gets no
answer at all.

## Main statements

* `Server.disposes_step` — what one cycle does to the connections
* `Server.connections_ended_once` — the same with what a failure to end a connection can change, and
  over all histories: the connections of the source are ended in order, none twice and none skipped

## How

`Connection.Used` lists the operations that lead from one connection to another without ending it.
Handling a connection is such a use, because every read, write and flush is one
(`Connection.Simulation.ofInvariant`). That the failure of an end shows nowhere in the answer and
the books holds because no read, write or flush looks at it, which is a simulation as well.

A history is a sequence of calls. One call disposes of some accepts, and what two of them do one
after the other adds up (`Server.Disposes.trans`).
-/

namespace DeviceHttp

namespace Connection

/-- An operation on a connection that does not end it. -/
inductive Uses : Operation → Connection → Connection → Prop where
  | read (c : Connection) (room : Nat) : Uses (.read room) c (c.read room).2
  | write (c : Connection) (bytes : Bytes) : Uses (.write bytes.length) c (c.write bytes).2
  | flush (c : Connection) : Uses .flush c c.flush.2

/-- A connection before and after such operations, made one after another. -/
inductive Used (c : Connection) : List Operation → Connection → Prop where
  | none : Used c [] c
  | concat {ops : List Operation} {op : Operation} {d e : Connection} :
      Used c ops d → Uses op d e → Used c (ops ++ [op]) e

/-- A connection was used, ended once, and nothing was done to it after that. -/
def EndedOnce (c ended : Connection) : Prop :=
  ∃ ops last, Used c ops last ∧ ended = last.disconnect.2 ∧
    ended.history = c.history ++ ops ++ [.disconnect] ∧ .disconnect ∉ ops

/-- A connection was read and ended. Nothing was written to it, and it was not flushed. -/
def Unanswered (c ended : Connection) : Prop :=
  ended.written = c.written ∧
    ∃ ops, ended.history = c.history ++ ops ++ [.disconnect] ∧ ∀ op ∈ ops, ∃ room, op = .read room

/-- A connection that fails to end, or does not, as given. -/
def endingAs (fault : Option FaultKind) (c : Connection) : Connection :=
  { c with disconnectFault := fault }

variable {c d e : Connection} {ops : List Operation} {op : Operation}

theorem Uses.history (uses : Uses op d e) : e.history = d.history ++ [op] := by
  cases uses <;> rfl

theorem Uses.ne_disconnect (uses : Uses op d e) : op ≠ .disconnect := by
  cases uses <;> exact nofun

theorem Used.history (used : Used c ops d) : d.history = c.history ++ ops := by
  induction used with
  | none => exact (List.append_nil _).symm
  | concat _ uses ih => rw [uses.history, ih, List.append_assoc]

theorem Used.disconnect_notMem (used : Used c ops d) : .disconnect ∉ ops := by
  induction used with
  | none => exact List.not_mem_nil
  | concat _ uses ih =>
    intro mem
    rcases List.mem_append.1 mem with before | last
    · exact ih before
    · exact uses.ne_disconnect (List.mem_singleton.1 last).symm

/-- Using a connection and ending it ends it once. -/
theorem Used.endedOnce (used : Used c ops d) : c.EndedOnce d.disconnect.2 :=
  ⟨ops, d, used, rfl, congrArg (· ++ _) used.history, used.disconnect_notMem⟩

/-- All that is done before the end of a connection is use. -/
theorem simulation_used (c : Connection) :
    Simulation fun d e => d = e ∧ ∃ ops, Used c ops d :=
  .ofInvariant
    (fun d room ⟨_, used⟩ => ⟨_, used.concat (.read d room)⟩)
    (fun d bytes ⟨_, used⟩ => ⟨_, used.concat (.write d bytes)⟩)
    (fun d ⟨_, used⟩ => ⟨_, used.concat (.flush d)⟩)

/-- Reads add reads to the history. -/
theorem readSimulation_history (c : Connection) :
    ReadSimulation fun d e =>
      d = e ∧ ∃ ops, d.history = c.history ++ ops ∧ ∀ op ∈ ops, ∃ room, op = .read room := by
  refine .ofInvariant fun d room ⟨ops, history, reads⟩ => ⟨ops ++ [.read room], ?_, fun op mem => ?_⟩
  · exact (congrArg (· ++ _) history).trans (List.append_assoc _ _ _)
  · rcases List.mem_append.1 mem with before | last
    · exact reads op before
    · exact ⟨room, List.mem_singleton.1 last⟩

/-- No operation before the end looks at how the end will go. -/
theorem simulation_endingAs (fault : Option FaultKind) :
    Simulation fun c d => d = c.endingAs fault where
  read := by
    rintro c _ rfl room
    exact ⟨rfl, rfl⟩
  write := by
    rintro c _ rfl bytes
    exact ⟨rfl, rfl⟩
  flush := by
    rintro c _ rfl
    exact ⟨rfl, rfl⟩

end Connection

namespace Accept

/-- The connection that an accept brings. -/
def connection? : Accept → Option Connection
  | connection c => some c
  | fault _ => none

/-- An accept whose connection fails to end, or does not, as given. -/
def endingAs (fault : Option FaultKind) : Accept → Accept
  | connection c => connection (c.endingAs fault)
  | .fault kind => .fault kind

end Accept

/-- The connection of the next accept is the upcoming one. -/
theorem ConnectionSource.filterMap_take_one (source : ConnectionSource) :
    (source.accepts.take 1).filterMap Accept.connection? = source.upcoming.connection?.toList := by
  rw [upcoming]
  cases source.accepts with
  | nil => rfl
  | cons first rest => cases first <;> rfl

namespace Server

variable {s t u : Server} {c : Connection}

/-! ## One connection -/

theorem endedOnce_attend (s : Server) (c : Connection) : c.EndedOnce (s.attend c).2 := by
  obtain ⟨-, -, ops, used⟩ :=
    related_handle (t := s) (Connection.simulation_used c) rfl (c := c) ⟨rfl, [], .none⟩
  exact used.endedOnce

/-- Without a request there is no answer. -/
theorem unanswered_attend
    (failed : ∀ request, (Reception.receive s.receiveBuffer c).outcome ≠ .ok (some request)) :
    c.Unanswered (s.attend c).2 := by
  have same : (s.handle c).2.2 = (Reception.receive s.receiveBuffer c).connection := by
    rw [handle]
    simp only
    cases outcome : (Reception.receive s.receiveBuffer c).outcome with
    | error e => rfl
    | ok received =>
      cases received with
      | none => rfl
      | some request => exact absurd outcome (failed request)
  obtain ⟨-, -, -, ops, history, reads⟩ :=
    Reception.related_resume (Connection.readSimulation_history c) (c := c)
      ⟨rfl, [], (List.append_nil _).symm, List.forall_mem_nil _⟩ s.receiveBuffer.reset
  have written := Reception.written_resume s.receiveBuffer.reset c
  rw [attend, same]
  exact ⟨written, ops, congrArg (· ++ _) history, reads⟩

/-! ## One cycle -/

/-- The server whose next connection fails to end, or does not, as given. -/
def nextEndingAs (s : Server) (fault : Option FaultKind) : Server :=
  { s with source := { s.source with
    accepts := s.source.accepts.modifyHead (Accept.endingAs fault) } }

theorem upcoming_nextEndingAs (s : Server) (fault : Option FaultKind) :
    (s.nextEndingAs fault).source.upcoming = s.source.upcoming.endingAs fault := by
  rw [ConnectionSource.upcoming, ConnectionSource.upcoming, nextEndingAs]
  cases s.source.accepts <;> rfl

/-- What came of the next `n` accepts of `s` by the time of `t`. -/
structure Disposes (s t : Server) (n : Nat) : Prop where
  acceptCalls : t.source.acceptCalls = s.source.acceptCalls + n
  /-- The connections behind them are as they were. -/
  accepts : t.source.accepts = s.source.accepts.drop n
  /-- Their connections were ended in order, and those that had ended before are as they were. -/
  served : ∃ ended, t.source.served = s.source.served ++ ended ∧
    List.Forall₂ Connection.EndedOnce ((s.source.accepts.take n).filterMap Accept.connection?) ended

namespace Disposes

theorem of_dealings (same : t.dealings = s.dealings) : Disposes s t 0 where
  acceptCalls := congrArg Dealings.acceptCalls same
  accepts := congrArg Dealings.accepts same
  served := ⟨[], (congrArg Dealings.served same).trans (List.append_nil _).symm, .nil⟩

/-- What is disposed of by one and then by another adds up. -/
theorem trans {n m : Nat} (first : Disposes s t n) (second : Disposes t u m) :
    Disposes s u (n + m) where
  acceptCalls := by rw [second.acceptCalls, first.acceptCalls, Nat.add_assoc]
  accepts := by rw [second.accepts, first.accepts, List.drop_drop]
  served := by
    obtain ⟨ended, served, once⟩ := first.served
    obtain ⟨ended', served', once'⟩ := second.served
    refine ⟨ended ++ ended', by rw [served', served, List.append_assoc], ?_⟩
    rw [List.take_add, List.filterMap_append, ← first.accepts]
    exact List.rel_append once once'

end Disposes

theorem source_handle (s : Server) (c : Connection) : (s.handle c).2.1.source = s.source := by
  rw [handle]
  split <;> rfl

theorem source_disconnect (s : Server) (c : Connection) :
    (s.disconnect c).source = s.source.ended c.disconnect.2 := by
  rw [disconnect]
  simp only
  split <;> rfl

theorem source_serveNext_of_connection (upcoming : s.source.upcoming = .connection c) :
    s.serveNext.2.source = s.source.advance.ended (s.accepting.attend c).2 := by
  rw [serveNext, upcoming]
  simp only [serve, source_disconnect, source_handle]
  rfl

theorem source_serveNext_of_fault {kind : FaultKind} (upcoming : s.source.upcoming = .fault kind) :
    s.serveNext.2.source = s.source.advance := by
  rw [serveNext, upcoming]
  rfl

/-- Accepting and serving dispose of one accept. -/
theorem disposes_serveNext (s : Server) : Disposes s s.serveNext.2 1 := by
  have next := s.source.filterMap_take_one
  cases upcoming : s.source.upcoming with
  | connection c =>
    rw [upcoming] at next
    have source := source_serveNext_of_connection upcoming
    refine ⟨by rw [source]; rfl, by rw [source]; rfl, [(s.accepting.attend c).2], ?_, ?_⟩
    · rw [source]
      rfl
    · rw [next]
      exact .cons (endedOnce_attend _ c) .nil
  | fault kind =>
    rw [upcoming] at next
    have source := source_serveNext_of_fault upcoming
    refine ⟨by rw [source]; rfl, by rw [source]; rfl, [], ?_, ?_⟩
    · rw [source, List.append_nil]
      rfl
    · rw [next]
      exact .nil

/-- **A cycle with the link up disposes of one accept, and one with the link down of none.** -/
theorem disposes_step (s : Server) :
    Disposes s s.step.2 (if s.device.checkLink.1 then 1 else 0) := by
  cases link : s.device.checkLink.1 with
  | false => exact .of_dealings (dealings_step_of_down link)
  | true =>
    have accepted : Disposes s s.beforeAccept 0 := .of_dealings rfl
    have settled : Disposes s.beforeAccept.serveNext.2 s.step.2 0 :=
      .of_dealings (dealings_step_of_up link)
    exact (accepted.trans s.beforeAccept.disposes_serveNext).trans settled

/-! ## Histories -/

theorem disposes_perform (s : Server) (call : Call) :
    Disposes s (s.perform call) ((s.shows call).countP Entry.isLinkUp) := by
  cases call with
  | step =>
    have count : (s.shows .step).countP Entry.isLinkUp =
        if s.device.checkLink.1 then 1 else 0 := by
      rw [shows, List.countP_singleton]
      rfl
    rw [count]
    exact s.disposes_step
  | restart => exact .of_dealings s.dealings_restart
  | influence influence =>
    have source : (s.under influence).source = s.source := by cases influence <;> rfl
    rw [perform]
    refine ⟨?_, ?_, [], ?_, .nil⟩
    · rw [source]
      rfl
    · rw [source]
      rfl
    · rw [source, List.append_nil]

/-- **Over a history, the server disposes of as many accepts as there were cycles with the link
up.** -/
theorem disposes_after (s : Server) (history : List Call) :
    Disposes s (s.after history) ((s.entries history).countP Entry.isLinkUp) := by
  induction history generalizing s with
  | nil => exact .of_dealings rfl
  | cons call history ih =>
    rw [entries, List.countP_append]
    exact (s.disposes_perform call).trans (ih (s.perform call))

/-! ## Ends that fail -/

/-- What a restart returns and enters goes by the books. -/
theorem RestartEffect.unique {b c c' : Books} {answer answer' : Except Error Unit}
    (effect : RestartEffect b answer c) (effect' : RestartEffect b answer' c') :
    answer = answer' ∧ c = c' := by
  cases effect with
  | restarted good =>
    cases effect' with
    | restarted => exact ⟨rfl, rfl⟩
    | stuck bad =>
      rw [good] at bad
      cases bad
  | stuck bad =>
    cases effect' with
    | restarted good =>
      rw [good] at bad
      cases bad
    | stuck bad' =>
      rw [bad] at bad'
      cases bad'
      exact ⟨rfl, rfl⟩

/-- Settling a limit goes by the books. -/
theorem finish_restartIf_congr (books : s.books = t.books) (limitReached : Bool)
    (reason reason' : String) (otherwise : Cycle) {last : Server → Server}
    (pause : ∀ u : Server, (last u).books = u.books) :
    (finish (s.restartIf limitReached reason otherwise) last).1 =
        (finish (t.restartIf limitReached reason' otherwise) last).1 ∧
      (finish (s.restartIf limitReached reason otherwise) last).2.books =
        (finish (t.restartIf limitReached reason' otherwise) last).2.books := by
  cases limitReached with
  | false =>
    rw [finish_restartIf_of_not s rfl, finish_restartIf_of_not t rfl, pause, pause]
    exact ⟨rfl, books⟩
  | true =>
    obtain ⟨answer, result, effect⟩ :=
      s.restartEffect_finish_restartIf rfl reason otherwise pause
    obtain ⟨answer', result', effect'⟩ :=
      t.restartEffect_finish_restartIf rfl reason' otherwise pause
    rw [books] at effect
    obtain ⟨same, entered⟩ := effect.unique effect'
    exact ⟨by rw [result, result', same], entered⟩

/-- What a connection means for the counters goes by the books. -/
theorem finish_settle_congr (books : s.books = t.books) (outcome : Except Error Cycle) :
    (finish (s.settle outcome) pauseLinkUp).1 = (finish (t.settle outcome) pauseLinkUp).1 ∧
      (finish (s.settle outcome) pauseLinkUp).2.books =
        (finish (t.settle outcome) pauseLinkUp).2.books := by
  cases outcome with
  | ok cycle =>
    have cleared : s.clearFailures.books = t.clearFailures.books := by
      rw [books_clearFailures, books_clearFailures, books]
    cases cycle <;> first | exact ⟨rfl, books⟩ | exact ⟨rfl, cleared⟩
  | error e =>
    have counted : (s.countFailure e).books = (t.countFailure e).books := by
      rw [books_countFailure, books_countFailure, books]
    have limit : decide ((s.countFailure e).settings.failureLimit ≤ (s.countFailure e).failures) =
        decide ((t.countFailure e).settings.failureLimit ≤ (t.countFailure e).failures) :=
      congrArg (fun b : Books => decide (b.settings.failureLimit ≤ b.failures)) counted
    rw [settle, settle, settleFailure, settleFailure, limit]
    exact finish_restartIf_congr counted _ _ _ _ books_pauseLinkUp

/-- A cycle goes by the books, the link, and what comes of the next accept. -/
theorem step_congr (books : s.books = t.books) (link : s.device.checkLink.1 = t.device.checkLink.1)
    (outcome : s.device.checkLink.1 = true →
      s.beforeAccept.serveNext.1 = t.beforeAccept.serveNext.1) :
    s.step.1 = t.step.1 ∧ s.step.2.books = t.step.2.books := by
  cases up : s.device.checkLink.1 with
  | false =>
    have up' : t.device.checkLink.1 = false := link.symm.trans up
    have counted : s.checkedLink.countLinkDown.books = t.checkedLink.countLinkDown.books := by
      rw [books_countLinkDown, books_countLinkDown, books_checkedLink, books_checkedLink, books]
    have limit : decide (s.checkedLink.countLinkDown.settings.linkDownLimit ≤
          s.checkedLink.countLinkDown.linkDown) =
        decide (t.checkedLink.countLinkDown.settings.linkDownLimit ≤
          t.checkedLink.countLinkDown.linkDown) :=
      congrArg (fun b : Books => decide (b.settings.linkDownLimit ≤ b.linkDown)) counted
    rw [step, step, up, up', if_neg Bool.false_ne_true, if_neg Bool.false_ne_true, stepLinkDown,
      stepLinkDown, settleLinkDown, settleLinkDown, limit]
    exact finish_restartIf_congr counted _ _ _ _ books_pauseLinkDown
  | true =>
    have up' : t.device.checkLink.1 = true := link.symm.trans up
    have served : s.beforeAccept.serveNext.2.books = t.beforeAccept.serveNext.2.books := by
      rw [books_serveNext, books_serveNext, beforeAccept, beforeAccept, books_clearLinkDown,
        books_clearLinkDown, books_checkedLink, books_checkedLink, books]
    have settled := finish_settle_congr served t.beforeAccept.serveNext.1
    rw [step, step, up, up', if_pos rfl, if_pos rfl]
    have start : s.checkedLink.stepLinkUp =
        finish (s.beforeAccept.serveNext.2.settle t.beforeAccept.serveNext.1) pauseLinkUp := by
      rw [← outcome up]
      rfl
    rw [start]
    exact settled

/-- With the next connection failing to end or not, a cycle returns the same and enters the same. -/
theorem step_nextEndingAs (s : Server) (fault : Option FaultKind) :
    (s.nextEndingAs fault).step.1 = s.step.1 ∧
      (s.nextEndingAs fault).step.2.books = s.step.2.books := by
  refine step_congr rfl rfl fun up => ?_
  have next := s.upcoming_nextEndingAs fault
  cases upcoming : s.source.upcoming with
  | connection c =>
    rw [upcoming] at next
    obtain ⟨changed, -⟩ := serveNext_of_accepts (s := s.nextEndingAs fault) ⟨up, next⟩
    obtain ⟨unchanged, -⟩ := serveNext_of_accepts (s := s) ⟨up, upcoming⟩
    obtain ⟨same, -⟩ := related_handle (s := s) (t := s.nextEndingAs fault)
      (Connection.simulation_endingAs fault) rfl (c := c) rfl
    rw [changed, unchanged]
    exact same.symm
  | fault kind =>
    rw [upcoming] at next
    have changed : (s.nextEndingAs fault).beforeAccept.source.upcoming = .fault kind := next
    have unchanged : s.beforeAccept.source.upcoming = .fault kind := upcoming
    rw [serveNext, serveNext, changed, unchanged]

/-! ## Main statements -/

/-- What a cycle does to the connections. -/
structure CycleDisposes (s : Server) : Prop where
  /-- With the link down nothing is accepted, and no connection is touched. -/
  linkDown : s.device.checkLink.1 = false →
    s.step.2.source.acceptCalls = s.source.acceptCalls ∧
      s.step.2.source.accepts = s.source.accepts ∧ s.step.2.source.served = s.source.served
  /-- With the link up one accept is made. -/
  linkUp : s.device.checkLink.1 = true →
    s.step.2.source.acceptCalls = s.source.acceptCalls + 1 ∧
      s.step.2.source.accepts = s.source.accepts.drop 1
  /-- If no connection comes of it, none is touched. -/
  absent : (∀ c, ¬ s.Accepts c) → s.step.2.source.served = s.source.served
  /-- A connection that comes of it is ended once before the cycle returns, whatever it returns. It
  has not been written to if there was no request. -/
  connected : ∀ c, s.Accepts c → ∃ ended,
    s.step.2.source.served = s.source.served ++ [ended] ∧ c.EndedOnce ended ∧
      ((∀ request, (Reception.receive s.receiveBuffer c).outcome ≠ .ok (some request)) →
        c.Unanswered ended)
  /-- Whether the connection fails to end shows neither in the answer nor in the counters. -/
  ending : ∀ fault, (s.nextEndingAs fault).step.1 = s.step.1 ∧
    (s.nextEndingAs fault).step.2.books = s.step.2.books

theorem cycleDisposes (s : Server) : s.CycleDisposes where
  linkDown := by
    intro down
    have same := dealings_step_of_down down
    exact ⟨congrArg Dealings.acceptCalls same, congrArg Dealings.accepts same,
      congrArg Dealings.served same⟩
  linkUp := by
    intro up
    have disposes := s.disposes_step
    rw [if_pos up] at disposes
    exact ⟨disposes.acceptCalls, disposes.accepts⟩
  absent := by
    intro nobody
    have effect := s.serviceEffect_step
    generalize service : s.step.2.service = after at effect
    cases effect with
    | nobody => exact congrArg Service.served service
    | attended accepts => exact absurd accepts (nobody _)
  connected := by
    intro c accepts
    obtain ⟨-, served⟩ := step_of_accepts accepts
    exact ⟨(s.attend c).2, congrArg Service.served served, s.endedOnce_attend c, unanswered_attend⟩
  ending := s.step_nextEndingAs

/-- **Every connection is ended once, in the order of the accepts, and only requests get
answers.** -/
theorem connections_ended_once (s : Server) :
    s.CycleDisposes ∧
      ∀ history, s.Disposes (s.after history) ((s.entries history).countP Entry.isLinkUp) :=
  ⟨s.cycleDisposes, s.disposes_after⟩

/-- A peer breaks off in its request. That makes the server restart, which fails, and still the
connection has been ended. -/
example :
    let s : Server := {
      settings := { failureLimit := 1 }
      routes := []
      source := {
        accepts := [.connection { arrivals := [.data [71, 69], .fault .connectionReset] }]
        binds := [some .addrInUse] }
      device := .host
      receiveBuffer := .new 64
      headerBuffer := .new 64 }
    s.step.1.toBool = false ∧
      s.step.2.source.served.map Connection.history = [[.read 64, .read 62, .disconnect]] := by
  decide +kernel

end Server

end DeviceHttp
