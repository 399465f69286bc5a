import DeviceHttp.Proofs.Books
import DeviceHttp.Proofs.Handling

/-!
# What a cycle does for a peer

A server uses its two buffers again for every connection, and never clears the cells of the header
buffer. This module shows that what becomes of a connection hangs on the routes and on the
capacities of the buffers alone, and says what a cycle does with the connection that it accepts.

## Main statements

* `Server.related_handle` — servers with the same facilities handle related connections alike,
  whatever their buffers hold
* `Server.serviceEffect_step` — a cycle hands back the next connection, as `Server.attend` says, or
  none

The facilities of a server and the connections it has handed back are collected in one view,
`Server.service`, as its counters are in `Server.books`. A wider view, `Server.dealings`, has
everything that limits, pauses and restarts leave alone.
-/

namespace DeviceHttp

/-! ## Facilities -/

/-- What a server has for its peers. -/
structure Facilities where
  routes : RouteTable
  receiveCapacity : Nat
  headerCapacity : Nat

/-- What a server has for its peers, and what it has done for them. -/
structure Service extends Facilities where
  /-- The connections that were handed back, in order. -/
  served : List Connection

namespace Server

variable {s t : Server}

/-- The facilities of a server, and the connections it has handed back. -/
def service (s : Server) : Service where
  routes := s.routes
  receiveCapacity := s.receiveBuffer.capacity
  headerCapacity := s.headerBuffer.capacity
  served := s.source.served

/-- The facilities of a server. -/
def facilities (s : Server) : Facilities := s.service.toFacilities

/-- What becomes of a connection: how its request ends, and the connection when it is handed
back. -/
def attend (s : Server) (c : Connection) : Except Error Cycle × Connection :=
  ((s.handle c).1, (s.handle c).2.2.disconnect.2)

/-- Servers with the same facilities handle related connections alike. Nothing that the buffers hold
from before is visible. -/
theorem related_handle {R : Connection → Connection → Prop} (sim : Connection.Simulation R)
    (same : s.facilities = t.facilities) {c d : Connection} (related : R c d) :
    (s.handle c).1 = (t.handle d).1 ∧ R (s.handle c).2.2 (t.handle d).2.2 := by
  have routes : s.routes = t.routes := congrArg Facilities.routes same
  -- The receive buffer is emptied before it is used, and emptied buffers of one capacity are equal.
  have reset : s.receiveBuffer.reset = t.receiveBuffer.reset :=
    congrArg ReceiveBuffer.new (congrArg Facilities.receiveCapacity same)
  obtain ⟨outcome, -, connection⟩ :=
    Reception.related_resume sim.toReadSimulation related t.receiveBuffer.reset
  rw [handle, handle, Reception.receive, Reception.receive, reset, routes, outcome]
  cases (Reception.resume t.receiveBuffer.reset d).outcome with
  | error e => exact ⟨rfl, connection⟩
  | ok received =>
    cases received with
    | none => exact ⟨rfl, connection⟩
    | some request =>
      -- The header buffers may stay different, so the exchanges are related and not equal.
      have opened : Exchange.Related R
          { connection := (Reception.resume t.receiveBuffer.reset c).connection,
            headerBuffer := s.headerBuffer }
          { connection := (Reception.resume t.receiveBuffer.reset d).connection,
            headerBuffer := t.headerBuffer } :=
        ⟨connection, rfl, congrArg Facilities.headerCapacity same⟩
      obtain ⟨outcome, later⟩ := t.routes.related_answer request sim opened s.shutdown t.shutdown
      exact ⟨by simp only [outcome], later.connection⟩

/-- What becomes of a connection hangs on the facilities alone. -/
theorem attend_congr (same : s.facilities = t.facilities) (c : Connection) :
    s.attend c = t.attend c := by
  obtain ⟨outcome, connection⟩ := related_handle Connection.simulation_eq same (rfl : c = c)
  rw [attend, attend, outcome, connection]

end Server

/-! ## What limits and restarts leave alone -/

/-- Everything of a server that its limits, its pauses and its restarts have no part in. -/
structure Dealings where
  routes : RouteTable
  receiveBuffer : ReceiveBuffer
  headerBuffer : HeaderBuffer
  accepts : List Accept
  acceptCalls : Nat
  served : List Connection

/-- The service of a server with these dealings. -/
def Dealings.service (d : Dealings) : Service where
  routes := d.routes
  receiveCapacity := d.receiveBuffer.capacity
  headerCapacity := d.headerBuffer.capacity
  served := d.served

namespace Server

variable {s : Server}

/-- The dealings of a server with its peers. -/
def dealings (s : Server) : Dealings where
  routes := s.routes
  receiveBuffer := s.receiveBuffer
  headerBuffer := s.headerBuffer
  accepts := s.source.accepts
  acceptCalls := s.source.acceptCalls
  served := s.source.served

@[simp] theorem dealings_delay (s : Server) (milliseconds : Nat) :
    (s.delay milliseconds).dealings = s.dealings := rfl

@[simp] theorem dealings_pauseLinkUp (s : Server) : s.pauseLinkUp.dealings = s.dealings := rfl

@[simp] theorem dealings_pauseLinkDown (s : Server) : s.pauseLinkDown.dealings = s.dealings := rfl

@[simp] theorem dealings_countLinkDown (s : Server) : s.countLinkDown.dealings = s.dealings := rfl

@[simp] theorem dealings_close (s : Server) (complaint : String) :
    (s.close complaint).dealings = s.dealings := by
  rw [close]
  simp only
  split <;> rfl

@[simp] theorem dealings_rebind (s : Server) : s.rebind.2.dealings = s.dealings := by
  rw [rebind]
  simp only
  split <;> rfl

@[simp] theorem dealings_restart (s : Server) : s.restart.2.dealings = s.dealings := by
  rw [restart, dealings_rebind, dealings_delay, dealings_close]
  rfl

@[simp] theorem dealings_restartIf (s : Server) (limitReached : Bool) (reason : String)
    (otherwise : Cycle) : (s.restartIf limitReached reason otherwise).2.dealings = s.dealings := by
  rw [restartIf]
  split
  · exact dealings_restart _
  · rfl

theorem dealings_finish (cycle : Except Error Cycle × Server) {last : Server → Server}
    (pause : ∀ s : Server, (last s).dealings = s.dealings) :
    (finish cycle last).2.dealings = cycle.2.dealings := by
  obtain ⟨answer, t⟩ := cycle
  cases answer with
  | ok cycle => exact pause t
  | error e => rfl

@[simp] theorem dealings_settle (s : Server) (outcome : Except Error Cycle) :
    (s.settle outcome).2.dealings = s.dealings := by
  cases outcome with
  | ok cycle => cases cycle <;> rfl
  | error e => exact dealings_restartIf _ _ _ _

/-- The server when it accepts. -/
def beforeAccept (s : Server) : Server := s.checkedLink.clearLinkDown

/-- With the link down there are no dealings, not even in a restart. -/
theorem dealings_step_of_down (down : s.device.checkLink.1 = false) :
    s.step.2.dealings = s.dealings := by
  rw [step, if_neg (by rw [down]; exact Bool.false_ne_true), stepLinkDown,
    dealings_finish _ dealings_pauseLinkDown, settleLinkDown, dealings_restartIf,
    dealings_countLinkDown]
  rfl

/-- With the link up there are those of accepting and serving, and no other ones. -/
theorem dealings_step_of_up (up : s.device.checkLink.1 = true) :
    s.step.2.dealings = s.beforeAccept.serveNext.2.dealings := by
  rw [step, if_pos up, stepLinkUp, dealings_finish _ dealings_pauseLinkUp, dealings_settle,
    beforeAccept]

@[simp] theorem service_note (s : Server) (level : Level) (text : String) :
    (s.note level text).service = s.service := rfl

@[simp] theorem service_accepting (s : Server) : s.accepting.service = s.service := rfl

@[simp] theorem service_restart (s : Server) : s.restart.2.service = s.service :=
  congrArg Dealings.service s.dealings_restart

/-- The buffers are used, but they stay of their size. -/
@[simp] theorem service_handle (s : Server) (c : Connection) :
    (s.handle c).2.1.service = s.service := by
  have received : (Reception.receive s.receiveBuffer c).buffer.capacity =
      s.receiveBuffer.capacity := Reception.capacity_resume _ _
  rw [handle]
  split <;> simp only [service, received, RouteTable.capacity_answer]

/-! ## What a cycle does -/

@[simp] theorem service_disconnect (s : Server) (c : Connection) :
    (s.disconnect c).service =
      { s.service with served := s.service.served ++ [c.disconnect.2] } := by
  rw [disconnect]
  simp only
  split <;> rfl

/-- The next cycle accepts a connection. -/
structure Accepts (s : Server) (c : Connection) : Prop where
  linkUp : s.device.checkLink.1 = true
  upcoming : s.source.upcoming = .connection c

theorem serveNext_of_accepts {c : Connection} (accepts : s.Accepts c) :
    s.beforeAccept.serveNext.1 = (s.attend c).1 ∧
      s.beforeAccept.serveNext.2.service =
        { s.service with served := s.service.served ++ [(s.attend c).2] } := by
  have next : s.beforeAccept.source.upcoming = .connection c := accepts.upcoming
  have same : s.beforeAccept.accepting.facilities = s.facilities := rfl
  have attended := attend_congr same c
  rw [serveNext, next]
  simp only [serve, service_disconnect, service_handle, service_accepting]
  rw [← attended]
  exact ⟨rfl, rfl⟩

/-- What a cycle can return, and what it does for peers. -/
inductive ServiceEffect (s : Server) : Except Error Cycle → Service → Prop where
  /-- The link was down, or nobody has connected. -/
  | nobody {answer : Except Error Cycle} : (∀ c, ¬ s.Accepts c) →
      (∀ cycle, answer = .ok cycle → cycle.succeeded = false) → ServiceEffect s answer s.service
  /-- A connection was accepted and is handed back. Unless its request has failed, the answer is how
  it has ended. -/
  | attended {c : Connection} {answer : Except Error Cycle} : s.Accepts c →
      (∀ cycle, cycle.succeeded = true → (answer = .ok cycle ↔ (s.attend c).1 = .ok cycle)) →
        ServiceEffect s answer
          { s.service with served := s.service.served ++ [(s.attend c).2] }

/-- Settling a limit is no success for a peer. -/
theorem succeeded_of_restartIf {limitReached : Bool} {reason : String} {otherwise : Cycle}
    {last : Server → Server} (other : otherwise.succeeded = false) {cycle : Cycle}
    (h : (finish (s.restartIf limitReached reason otherwise) last).1 = .ok cycle) :
    cycle.succeeded = false := by
  rw [restartIf] at h
  split at h
  · simp only at h
    generalize (s.note .error reason).restart = outcome at h
    obtain ⟨answer, t⟩ := outcome
    cases answer with
    | ok =>
      cases h
      rfl
    | error e => cases h
  · cases h
    exact other

/-- The answer of a cycle is a success exactly if the request was one. -/
theorem finish_settle_iff {outcome : Except Error Cycle} {last : Server → Server}
    {cycle : Cycle} (succeeded : cycle.succeeded = true) :
    (finish (s.settle outcome) last).1 = .ok cycle ↔ outcome = .ok cycle := by
  cases outcome with
  | ok outcome => cases outcome <;> exact Iff.rfl
  | error e =>
    refine ⟨fun h => ?_, nofun⟩
    have failed : cycle.succeeded = false := succeeded_of_restartIf rfl h
    rw [succeeded] at failed
    cases failed

/-- **A cycle attends to the next connection, or to none.** -/
theorem serviceEffect_step (s : Server) : s.ServiceEffect s.step.1 s.step.2.service := by
  cases link : s.device.checkLink.1 with
  | false =>
    have answer : s.step.1 = s.checkedLink.stepLinkDown.1 := by
      rw [step, if_neg (by rw [link]; exact Bool.false_ne_true)]
    have served : s.step.2.service = s.service :=
      congrArg Dealings.service (dealings_step_of_down link)
    rw [answer, served]
    refine .nobody (fun c accepts => ?_) fun cycle answer => succeeded_of_restartIf rfl answer
    have up := accepts.linkUp
    rw [link] at up
    cases up
  | true =>
    have answer : s.step.1 =
        (finish (s.beforeAccept.serveNext.2.settle s.beforeAccept.serveNext.1) pauseLinkUp).1 := by
      rw [step, if_pos link]
      rfl
    have served : s.step.2.service = s.beforeAccept.serveNext.2.service :=
      congrArg Dealings.service (dealings_step_of_up link)
    rw [answer, served]
    cases upcoming : s.source.upcoming with
    | connection c =>
      obtain ⟨outcome, handedBack⟩ := serveNext_of_accepts ⟨link, upcoming⟩
      rw [outcome, handedBack]
      exact .attended ⟨link, upcoming⟩ fun cycle succeeded => finish_settle_iff succeeded
    | fault kind =>
      have next : s.beforeAccept.source.upcoming = .fault kind := upcoming
      have unused : s.beforeAccept.serveNext.2.service = s.service := by
        rw [serveNext, next]
        rfl
      rw [unused]
      refine .nobody (fun c accepts => ?_) fun cycle answer => ?_
      · have connected := accepts.upcoming
        rw [upcoming] at connected
        cases connected
      · apply Bool.eq_false_iff.2
        intro succeeded
        have outcome := (finish_settle_iff succeeded).1 answer
        rw [serveNext, next] at outcome
        simp only at outcome
        split at outcome
        · cases outcome
          cases succeeded
        · cases outcome

theorem step_of_accepts {s : Server} {c : Connection} (accepts : s.Accepts c) :
    (∀ cycle, cycle.succeeded = true → (s.step.1 = .ok cycle ↔ (s.attend c).1 = .ok cycle)) ∧
      s.step.2.service =
        { s.service with served := s.service.served ++ [(s.attend c).2] } := by
  have effect := s.serviceEffect_step
  generalize s.step.1 = answer, s.step.2.service = service at effect ⊢
  cases effect with
  | nobody none => exact absurd accepts (none c)
  | @attended c' _ accepts' answers =>
    -- The connection that was attended to is the one that was accepted.
    have same : c = c' := Accept.connection.inj (accepts.upcoming.symm.trans accepts'.upcoming)
    rw [same]
    exact ⟨answers, rfl⟩

end Server

end DeviceHttp
