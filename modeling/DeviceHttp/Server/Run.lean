import DeviceHttp.Server

/-!
# Running a server

A running server goes through cycles until shutdown is requested, and then stops. A restart that
fails ends the run at once with a reset of the device.

A server is not alone while it runs. Others may ask it to stop, and its handlers may have learned
something: `Influence` lists what a cycle does not do itself. A run amid such influences need not
end. `Server.runAmid` is one that does, by recursion on the reason for that (`Server.Ends`).

A run ends if the source asks for shutdown when it is idle. Then every cycle uses up an answer of
the link, a connection or, at the latest when both are used up, the absence of a request for
shutdown: `Server.weight` becomes smaller in every cycle. `Server.run` is the run of a server with
such a source that is left to itself.
-/

namespace DeviceHttp

namespace Server

/-- What a server can still meet: answers of the link, connections, and a request for shutdown. -/
def weight (s : Server) : Nat :=
  s.device.links.length + s.source.accepts.length + if s.shutdown then 0 else 1

/-- What is still to come for `s` is still to come for `t`, and a request for shutdown stands. -/
structure Keeps (s t : Server) : Prop where
  links : t.device.links = s.device.links
  accepts : t.source.accepts = s.source.accepts
  closesWhenIdle : t.source.closesWhenIdle = s.source.closesWhenIdle
  shutdown : s.shutdown = true → t.shutdown = true

namespace Keeps

variable {s t u : Server}

theorem refl (s : Server) : Keeps s s := ⟨rfl, rfl, rfl, id⟩

theorem trans (first : Keeps s t) (second : Keeps t u) : Keeps s u where
  links := second.links.trans first.links
  accepts := second.accepts.trans first.accepts
  closesWhenIdle := second.closesWhenIdle.trans first.closesWhenIdle
  shutdown h := second.shutdown (first.shutdown h)

theorem weight_le (keeps : Keeps s t) : t.weight ≤ s.weight := by
  have := keeps.shutdown
  simp only [weight, keeps.links, keeps.accepts]
  split <;> split <;> simp_all

end Keeps

theorem keeps_note (s : Server) (level : Level) (text : String) : Keeps s (s.note level text) :=
  ⟨rfl, rfl, rfl, id⟩

theorem keeps_delay (s : Server) (milliseconds : Nat) : Keeps s (s.delay milliseconds) :=
  ⟨rfl, rfl, rfl, id⟩

theorem keeps_close (s : Server) (complaint : String) : Keeps s (s.close complaint) := by
  unfold close ConnectionSource.close
  simp only
  split <;> exact ⟨rfl, rfl, rfl, id⟩

theorem keeps_rebind (s : Server) : Keeps s s.rebind.2 := by
  unfold rebind ConnectionSource.bind
  simp only
  split <;> exact ⟨rfl, rfl, rfl, id⟩

theorem keeps_restart (s : Server) : Keeps s s.restart.2 := by
  have stopped : Keeps s { s with phase := .stopped } := ⟨rfl, rfl, rfl, id⟩
  exact ((stopped.trans (keeps_close _ _)).trans (keeps_delay _ _)).trans (keeps_rebind _)

theorem keeps_restartIf (s : Server) (limitReached : Bool) (reason : String) (otherwise : Cycle) :
    Keeps s (s.restartIf limitReached reason otherwise).2 := by
  unfold restartIf
  split
  · exact (keeps_note _ _ _).trans (keeps_restart _)
  · exact .refl s

theorem keeps_finish (cycle : Except Error Cycle × Server) {last : Server → Server}
    (h : ∀ s, Keeps s (last s)) : Keeps cycle.2 (finish cycle last).2 := by
  unfold finish
  split
  · exact h _
  · exact .refl _

theorem keeps_settleFailure (s : Server) : Keeps s s.settleFailure.2 := keeps_restartIf s _ _ _

theorem keeps_settleLinkDown (s : Server) : Keeps s s.settleLinkDown.2 := keeps_restartIf s _ _ _

theorem keeps_countFailure (s : Server) (e : Error) : Keeps s (s.countFailure e) :=
  ⟨rfl, rfl, rfl, id⟩

theorem keeps_countLinkDown (s : Server) : Keeps s s.countLinkDown := ⟨rfl, rfl, rfl, id⟩

theorem keeps_settle (s : Server) (outcome : Except Error Cycle) :
    Keeps s (s.settle outcome).2 := by
  unfold settle
  split
  · exact .refl s
  · exact ⟨rfl, rfl, rfl, id⟩
  · exact (keeps_countFailure _ _).trans (keeps_settleFailure _)

theorem keeps_pauseLinkDown (s : Server) : Keeps s s.pauseLinkDown := ⟨rfl, rfl, rfl, id⟩

theorem keeps_pauseLinkUp (s : Server) : Keeps s s.pauseLinkUp := ⟨rfl, rfl, rfl, id⟩

theorem keeps_stepLinkDown (s : Server) : Keeps s s.stepLinkDown.2 :=
  ((keeps_countLinkDown s).trans (keeps_settleLinkDown _)).trans
    (keeps_finish _ keeps_pauseLinkDown)

theorem keeps_stepLinkUp (s : Server) : Keeps s.clearLinkDown.serveNext.2 s.stepLinkUp.2 :=
  (keeps_settle _ _).trans (keeps_finish _ keeps_pauseLinkUp)

theorem keeps_disconnect (s : Server) (c : Connection) : Keeps s (s.disconnect c) := by
  unfold disconnect Connection.disconnect
  simp only
  split <;> exact ⟨rfl, rfl, rfl, id⟩

end Server

/-- A reply is the same if shutdown is requested before it, and the request stands. -/
theorem Reply.run_true (reply : Reply) (x : Exchange) (shutdown : Bool) :
    reply.run x true = { reply.run x shutdown with shutdown := true } := by
  induction reply generalizing x shutdown with
  | finish outcome => rfl
  | send response next ih => exact ih _ _ shutdown
  | requestShutdown next ih => exact ih x true

theorem RouteTable.answer_true (routes : RouteTable) (x : Exchange) (shutdown : Bool)
    (request : Request) :
    routes.answer x true request = { routes.answer x shutdown request with shutdown := true } := by
  unfold RouteTable.answer
  split
  next => rfl
  next route _ =>
    rw [(route.handler request).run_true x shutdown]
    rfl

namespace Server

theorem keeps_handle (s : Server) (c : Connection) : Keeps s (s.handle c).2.1 := by
  unfold handle
  simp only
  split
  · exact ⟨rfl, rfl, rfl, id⟩
  · exact ⟨rfl, rfl, rfl, id⟩
  · refine ⟨rfl, rfl, rfl, fun h => ?_⟩
    simp only [h]
    exact congrArg RouteTable.Ending.shutdown (s.routes.answer_true _ true _)

theorem keeps_serve (s : Server) (c : Connection) : Keeps s (s.serve c).2 :=
  (keeps_handle s c).trans (keeps_disconnect _ _)

/-- Accepting uses up a connection or brings a request for shutdown. -/
theorem weight_accepting_lt {s : Server} (idle : s.source.closesWhenIdle = true)
    (h : s.shutdown = false) : s.accepting.weight < s.weight := by
  simp only [weight, accepting, ConnectionSource.advance, ConnectionSource.asksForShutdown, idle, h]
  cases s.source.accepts with
  | nil => simp
  | cons accept rest => simp

theorem keeps_serveNext (s : Server) : Keeps s.accepting s.serveNext.2 := by
  unfold serveNext
  split
  · exact keeps_serve _ _
  · exact .refl _

/-- A cycle changes nothing about whether the source closes when idle. -/
theorem closesWhenIdle_step (s : Server) :
    s.step.2.source.closesWhenIdle = s.source.closesWhenIdle := by
  unfold step
  split
  · exact (keeps_stepLinkUp s.checkedLink).closesWhenIdle.trans
      (keeps_serveNext s.checkedLink.clearLinkDown).closesWhenIdle
  · exact (keeps_stepLinkDown s.checkedLink).closesWhenIdle

/-- Every cycle lowers what the server can still meet. -/
theorem weight_step_lt {s : Server} (idle : s.source.closesWhenIdle = true)
    (h : s.shutdown = false) : s.step.2.weight < s.weight := by
  unfold step
  split
  · have checked : s.checkedLink.clearLinkDown.weight ≤ s.weight := by
      simp [weight, checkedLink, clearLinkDown, Device.checkLink]
    refine Nat.lt_of_le_of_lt (keeps_stepLinkUp s.checkedLink).weight_le ?_
    refine Nat.lt_of_le_of_lt (keeps_serveNext s.checkedLink.clearLinkDown).weight_le ?_
    exact Nat.lt_of_lt_of_le (weight_accepting_lt idle h) checked
  · next down =>
    refine Nat.lt_of_le_of_lt (keeps_stepLinkDown s.checkedLink).weight_le ?_
    cases links : s.device.links with
    | nil => simp [Device.checkLink, links] at down
    | cons link rest => simp [weight, checkedLink, Device.checkLink, links]

/-! ## Influences -/

/-- What others do to a server between two cycles, or while one is under way. -/
inductive Influence where
  /-- Somebody asks for shutdown. -/
  | shutdown
  /-- From here on the handlers are those of these routes. -/
  | routes (routes : RouteTable)

/-- The server under an influence. -/
def under (s : Server) : Influence → Server
  | .shutdown => s.requestShutdown
  | .routes routes => { s with routes }

/-- The server under several influences, one after the other. -/
def amid (s : Server) (influences : List Influence) : Server := influences.foldl under s

/-- An influence leaves what is still to come, and a request for shutdown stands. -/
theorem keeps_under (s : Server) (influence : Influence) : Keeps s (s.under influence) := by
  cases influence with
  | shutdown => exact ⟨rfl, rfl, rfl, fun _ => rfl⟩
  | routes routes => exact ⟨rfl, rfl, rfl, id⟩

theorem keeps_amid (s : Server) (influences : List Influence) : Keeps s (s.amid influences) := by
  induction influences generalizing s with
  | nil => exact .refl s
  | cons influence influences ih => exact (keeps_under s influence).trans (ih _)

/-! ## Runs -/

/-- How a run ended. -/
inductive RunEnd where
  /-- The server has stopped. -/
  | stopped
  /-- A restart failed and the device was reset. -/
  | deviceReset
deriving DecidableEq, Repr

/-- Notes that a request for shutdown was seen. -/
def drain (s : Server) : Server := { s.note .info "Shutdown requested" with phase := .draining }

/-- What a run does next: it ends somehow, or it goes on after a cycle and what others did during
it. -/
def advance (s : Server) (influences : List Influence) : Option RunEnd × Server :=
  if s.phase ≠ .running then (some .stopped, s.stop)
  else if s.shutdown then (some .stopped, s.drain.stop)
  else
    let later := s.step.2.amid influences
    match s.step.1 with
    | .ok _ => (none, later)
    | .error e => (some .deviceReset, later.note .error (e.message ++ ", resetting device"))

/-- What is left of a run after a cycle, if it goes on. A run is given by the server and by what
others do during the successive cycles. -/
def Follows (later now : Server × (Nat → List Influence)) : Prop :=
  now.1.advance (now.2 0) = (none, later.1) ∧ later.2 = fun i => now.2 (i + 1)

/-- The run comes to an end. -/
def Ends (s : Server) (meanwhile : Nat → List Influence) : Prop := Acc Follows (s, meanwhile)

theorem Ends.later {s t : Server} {meanwhile : Nat → List Influence} (ends : Ends s meanwhile)
    (next : s.advance (meanwhile 0) = (none, t)) : Ends t fun i => meanwhile (i + 1) :=
  ends.inv ⟨next, rfl⟩

/-- Runs that end are ordered by what is left of them. -/
instance : WellFoundedRelation { run // Acc Follows run } where
  rel later now := Follows later.1 now.1
  wf := by
    refine ⟨fun ⟨now, ends⟩ => ?_⟩
    induction ends with
    | intro now _ ih => exact ⟨_, fun ⟨later, _⟩ follows => ih later follows⟩

/-- Goes through cycles until shutdown is requested or a restart fails, amid what others do. -/
def runAmid (s : Server) (meanwhile : Nat → List Influence) (ends : Ends s meanwhile) :
    RunEnd × Server :=
  match next : s.advance (meanwhile 0) with
  | (some ending, last) => (ending, last)
  | (none, later) => later.runAmid (fun i => meanwhile (i + 1)) (ends.later next)
termination_by (⟨(s, meanwhile), ends⟩ : { run // Acc Follows run })
decreasing_by exact ⟨next, rfl⟩

/-- A run that goes on is left with less to meet, if the source asks for shutdown when it is
idle. -/
theorem weight_lt_of_advance {s later : Server} {influences : List Influence}
    (idle : s.source.closesWhenIdle = true) (h : s.advance influences = (none, later)) :
    later.weight < s.weight ∧ later.source.closesWhenIdle = true := by
  rw [advance] at h
  split at h
  · cases h
  · split at h
    · cases h
    next unrequested =>
      simp only at h
      split at h
      · cases h
        have kept := keeps_amid s.step.2 influences
        have step := weight_step_lt idle (by simpa using unrequested)
        exact ⟨Nat.lt_of_le_of_lt kept.weight_le step,
          (kept.closesWhenIdle.trans (closesWhenIdle_step s)).trans idle⟩
      · cases h

/-- A run ends if the source asks for shutdown when it is idle. -/
theorem ends_of_closesWhenIdle {s : Server} (idle : s.source.closesWhenIdle = true)
    (meanwhile : Nat → List Influence) : Ends s meanwhile := by
  induction weight : s.weight using Nat.strongRecOn generalizing s meanwhile with
  | ind n ih =>
    refine ⟨_, fun ⟨later, _⟩ ⟨next, same⟩ => ?_⟩
    subst same
    obtain ⟨less, idle⟩ := weight_lt_of_advance idle next
    exact ih _ (weight ▸ less) idle _ rfl

/-- The server with a source that does or does not close when idle. -/
def closingWhenIdle (s : Server) (closes : Bool) : Server :=
  { s with source := { s.source with closesWhenIdle := closes } }

/-- Serves until shutdown is requested or a restart fails. While the server runs, its source closes
when idle. -/
def run (s : Server) : RunEnd × Server :=
  let (ending, last) := (s.closingWhenIdle true).runAmid (fun _ => [])
    (ends_of_closesWhenIdle rfl _)
  (ending, last.closingWhenIdle s.source.closesWhenIdle)

end Server

end DeviceHttp
