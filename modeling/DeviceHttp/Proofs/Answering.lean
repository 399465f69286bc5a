import DeviceHttp.Proofs.Serving
import DeviceHttp.Proofs.Transmission
import DeviceHttp.SetupPortal

/-!
# What an answered request has put on the wire

A handler that succeeds without a response is an error. What is checked for this is whether a
response was accepted, and a response is accepted before its header is put together and before
anything is written. So a handler that makes light of a failed sending passes the check, although
its response is cut off or, if the header has overflowed, was never sent at all.

## Main statements

* `Reply.runEffect_run` — all that a reply can do to an exchange: nothing, or the sending of the one
  response that is accepted
* `RouteTable.answersOnce` — a request that counts as answered, or a cycle that counts as served, has
  put a beginning of one response on the wire; it is always all of it exactly if no handler makes
  light of failures
* `RouteTable.handled_of_failure` — a handler that makes light of a failure counts as having
  answered
* `SetupPortal.complete_of_step` — the portal has no such handler, so its answers are complete

## How

Of the responses of a reply only the first one with complete extra header lines is accepted. What
is answered to those before it and to those after it is known, so a reply is determined by the
answer to this one: `Reply.accepted?` finds it, `Reply.lateOutcome` tells how the reply ends after
it.
-/

namespace DeviceHttp

/-! ## Replies -/

namespace Reply

/-- How a reply ends once a response was accepted: every further one is refused. -/
def lateOutcome : Reply → Except Error Unit
  | finish outcome => outcome
  | send _ next => (next (.error .alreadyAnswered)).lateOutcome
  | requestShutdown next => next.lateOutcome

/-- The response of a reply that is accepted, and how the reply goes on after it. Those before it
are refused for their extra header lines. -/
def accepted? : Reply → Option (Response × (Except Error Unit → Reply))
  | finish _ => none
  | send r next =>
    if r.extraHeadersEnd then some (r, next) else (next (.error .openExtraHeaders)).accepted?
  | requestShutdown next => next.accepted?

/-- After a response was accepted, a reply changes nothing any more. -/
theorem run_of_answered (reply : Reply) {x : Exchange} (answered : x.answered = true)
    (shutdown : Bool) :
    (reply.run x shutdown).outcome = reply.lateOutcome ∧ (reply.run x shutdown).exchange = x := by
  induction reply generalizing shutdown with
  | finish outcome => exact ⟨rfl, rfl⟩
  | send r next ih =>
    rw [run, Exchange.send_of_answered answered, lateOutcome]
    exact ih _ shutdown
  | requestShutdown next ih => exact ih true

theorem extraHeadersEnd_of_accepted {reply : Reply} {r : Response}
    {next : Except Error Unit → Reply} (accepted : reply.accepted? = some (r, next)) :
    r.ExtraHeadersEnd := by
  induction reply with
  | finish outcome => cases accepted
  | requestShutdown later ih => exact ih accepted
  | send r' next' ih =>
    rw [accepted?] at accepted
    split at accepted
    next ends =>
      cases accepted
      exact r.extraHeadersEnd_iff.1 ends
    next => exact ih _ accepted

/-- What a reply can return, and the exchange after it. -/
inductive RunEffect (reply : Reply) (x : Exchange) : Except Error Unit → Exchange → Prop where
  | silent {outcome : Except Error Unit} : reply.accepted? = none → RunEffect reply x outcome x
  | sent {r : Response} {next : Except Error Unit → Reply} : reply.accepted? = some (r, next) →
      RunEffect reply x (next (x.send r).1).lateOutcome (x.send r).2

/-- **A reply sends the one response that is accepted, or nothing.** -/
theorem runEffect_run (reply : Reply) {x : Exchange} (unanswered : x.answered = false)
    (shutdown : Bool) :
    RunEffect reply x (reply.run x shutdown).outcome (reply.run x shutdown).exchange := by
  -- The induction follows the reply up to the response that is accepted. What comes after that one
  -- is settled by `run_of_answered`, so it needs no induction hypothesis.
  induction reply generalizing shutdown with
  | finish outcome => exact .silent rfl
  | requestShutdown next ih =>
    have effect := ih true
    rw [run]
    generalize (next.run x true).outcome = outcome, (next.run x true).exchange = y at effect ⊢
    cases effect with
    | silent none => exact .silent none
    | sent accepted => exact .sent accepted
  | send r next ih =>
    rw [run]
    by_cases ends : r.ExtraHeadersEnd
    · have accepted : (send r next).accepted? = some (r, next) :=
        if_pos (r.extraHeadersEnd_iff.2 ends)
      have answered := (Exchange.sends_send unanswered ends).accepted.answered
      obtain ⟨outcome, exchange⟩ := (next (x.send r).1).run_of_answered answered shutdown
      rw [outcome, exchange]
      exact .sent accepted
    · have later : (send r next).accepted? = (next (.error .openExtraHeaders)).accepted? :=
        if_neg fun h => ends (r.extraHeadersEnd_iff.1 h)
      have effect := ih (.error .openExtraHeaders) shutdown
      rw [Exchange.send_of_open_extraHeaders unanswered ends]
      generalize ((next (.error .openExtraHeaders)).run x shutdown).outcome = outcome,
        ((next (.error .openExtraHeaders)).run x shutdown).exchange = y at effect ⊢
      cases effect with
      | silent none => exact .silent (later.trans none)
      | sent accepted => exact .sent (later.trans accepted)

theorem run_of_accepted {reply : Reply} {r : Response} {next : Except Error Unit → Reply}
    (accepted : reply.accepted? = some (r, next)) {x : Exchange} (unanswered : x.answered = false)
    (shutdown : Bool) :
    (reply.run x shutdown).outcome = (next (x.send r).1).lateOutcome ∧
      (reply.run x shutdown).exchange = (x.send r).2 := by
  have effect := reply.runEffect_run unanswered shutdown
  generalize (reply.run x shutdown).outcome = outcome, (reply.run x shutdown).exchange = y
    at effect ⊢
  cases effect with
  | silent none =>
    rw [none] at accepted
    cases accepted
  | sent accepted' =>
    rw [accepted] at accepted'
    cases accepted'
    exact ⟨rfl, rfl⟩

/-- A reply minds failures if it does not end in success when the response that was accepted could
not be sent: the header has overflowed, or a write has failed for good. -/
structure MindsFailures (reply : Reply) : Prop where
  overflow : ∀ {r : Response} {next : Except Error Unit → Reply},
    reply.accepted? = some (r, next) → (next (.error .headerOverflow)).lateOutcome ≠ .ok ()
  cutOff : ∀ {r : Response} {next : Except Error Unit → Reply},
    reply.accepted? = some (r, next) → ∀ kind : FaultKind, kind ≠ .interrupted →
      (next (.error (.transport (.plain kind)))).lateOutcome ≠ .ok ()

theorem mindsFailures_finish (outcome : Except Error Unit) : (finish outcome).MindsFailures :=
  ⟨nofun, nofun⟩

/-- A reply that ends with the failure of its first response minds failures, whatever it does after
a success. -/
theorem mindsFailures_send {r : Response} {next : Except Error Unit → Reply}
    (passesOn : ∀ e, next (.error e) = finish (.error e)) : (send r next).MindsFailures := by
  have goesOn {r' : Response} {next' : Except Error Unit → Reply}
      (accepted : (send r next).accepted? = some (r', next')) : next' = next := by
    rw [accepted?, passesOn] at accepted
    split at accepted
    · cases accepted
      rfl
    · cases accepted
  constructor
  · intro r' next' accepted
    rw [goesOn accepted, passesOn]
    exact nofun
  · intro r' next' accepted kind _
    rw [goesOn accepted, passesOn]
    exact nofun

theorem mindsFailures_respond (r : Response) : (respond r).MindsFailures :=
  mindsFailures_send fun _ => rfl

end Reply

/-- A sequence of responses none of whose failures is ignored minds failures if its ending does. -/
theorem Handler.mindsFailures_sequence {ending : Reply} (minds : ending.MindsFailures)
    {items : List Handler.Item} (heeded : ∀ item ∈ items, item.ignoreFailure = false) :
    (Handler.sequence ending items).MindsFailures := by
  cases items with
  | nil => exact minds
  | cons item rest =>
    refine Reply.mindsFailures_send fun e => ?_
    simp only [heeded item List.mem_cons_self, Bool.false_eq_true, if_false]

/-! ## Route tables -/

namespace RouteTable

/-- No handler that a request can reach makes light of failures. -/
def MindsFailures (routes : RouteTable) : Prop :=
  ∀ {request : Request} {route : Route}, routes.find? request = some route →
    (route.handler request).MindsFailures

theorem mindsFailures_of_forall {routes : RouteTable}
    (minds : ∀ route ∈ routes, ∀ request, (route.handler request).MindsFailures) :
    routes.MindsFailures :=
  fun found => minds _ (List.mem_of_find?_eq_some found) _

end RouteTable

/-- What a request that counts as answered has put on the wire. -/
structure AnsweredBy (r : Response) (routes : RouteTable) (before : Connection) (routing : Routing)
    (after : Connection) : Prop where
  /-- Nothing but a beginning of the response. -/
  beginning : ∃ sent, sent <+: r.message ∧ after.written = before.written ++ sent
  /-- All of it, unless a handler makes light of failures. -/
  complete : routes.MindsFailures ∨ routing = .notFound →
    after.written = before.written ++ r.message

namespace RouteTable

variable {routes : RouteTable} {request : Request} {c : Connection} {b : HeaderBuffer}
  {shutdown : Bool}

theorem answer_of_notFound (notFound : routes.find? request = none) (x : Exchange)
    (shutdown : Bool) :
    (routes.answer x shutdown request).outcome = (x.send .notFound).1.map (fun () => .notFound) ∧
      (routes.answer x shutdown request).exchange = (x.send .notFound).2 := by
  rw [answer, notFound]
  exact ⟨rfl, rfl⟩

theorem answer_of_found {route : Route} (found : routes.find? request = some route)
    (x : Exchange) (shutdown : Bool) :
    (routes.answer x shutdown request).outcome =
        handled ((route.handler request).run x shutdown) ∧
      (routes.answer x shutdown request).exchange =
        ((route.handler request).run x shutdown).exchange := by
  rw [answer, found]
  exact ⟨rfl, rfl⟩

theorem handled_eq_ok {ending : Reply.Ending} {routing : Routing}
    (ok : handled ending = .ok routing) :
    routing = .handled ∧ ending.outcome = .ok () ∧ ending.exchange.answered = true := by
  rw [handled] at ok
  cases outcome : ending.outcome with
  | error e =>
    rw [outcome] at ok
    cases ok
  | ok =>
    rw [outcome] at ok
    simp only at ok
    split at ok
    next answered =>
      cases ok
      exact ⟨rfl, rfl, answered⟩
    next => cases ok

/-- The 404 that counts as sent was sent. -/
theorem answeredBy_of_notFound (notFound : routes.find? request = none) {routing : Routing}
    (ok : (routes.answer (.opened c b) shutdown request).outcome = .ok routing) :
    AnsweredBy .notFound routes c routing
      (routes.answer (.opened c b) shutdown request).exchange.connection := by
  obtain ⟨outcome, exchange⟩ := answer_of_notFound notFound (.opened c b) shutdown
  have accepted := (Exchange.sends_send (x := .opened c b) (r := .notFound) rfl (.inl rfl)).accepted
  rw [exchange]
  rw [outcome] at ok
  generalize (Exchange.opened c b).send .notFound = sending at accepted ok ⊢
  obtain ⟨answer, y⟩ := sending
  cases answer with
  | error e => cases ok
  | ok => exact ⟨accepted.beginning, fun _ => accepted.complete rfl⟩

/-- A handler that counts as having answered has sent one response, or makes light of a failure. -/
theorem answeredBy_of_found {route : Route} (found : routes.find? request = some route)
    {routing : Routing}
    (ok : (routes.answer (.opened c b) shutdown request).outcome = .ok routing) :
    ∃ r : Response, AnsweredBy r routes c routing
      (routes.answer (.opened c b) shutdown request).exchange.connection := by
  obtain ⟨outcome, exchange⟩ := answer_of_found found (.opened c b) shutdown
  rw [outcome] at ok
  obtain ⟨rfl, success, answered⟩ := handled_eq_ok ok
  rw [exchange]
  have effect := (route.handler request).runEffect_run (x := .opened c b) rfl shutdown
  generalize ((route.handler request).run (.opened c b) shutdown).outcome = outcome,
    ((route.handler request).run (.opened c b) shutdown).exchange = y at effect success answered ⊢
  cases effect with
  | silent none => cases answered
  | @sent r next accepted? =>
    have ends := Reply.extraHeadersEnd_of_accepted accepted?
    have accepted := (Exchange.sends_send (x := .opened c b) rfl ends).accepted
    refine ⟨r, accepted.beginning, ?_⟩
    rintro (minds | impossible)
    · obtain sent | overflow | ⟨fault, failed⟩ := accepted.answers
      · exact accepted.complete sent
      · rw [overflow] at success
        exact absurd success ((minds found).overflow accepted?)
      · obtain ⟨kind, rfl, ⟨obstructs, -⟩ | ⟨-, written⟩⟩ := accepted.failed failed
        · rw [failed] at success
          exact absurd success ((minds found).cutOff accepted? kind obstructs.ne_interrupted)
        -- Only the flush has failed, and then the response has gone out.
        · exact written
    · cases impossible

/-- **A request that counts as answered was answered by one response.** -/
theorem answeredBy_answer {routing : Routing}
    (ok : (routes.answer (.opened c b) shutdown request).outcome = .ok routing) :
    ∃ r : Response, AnsweredBy r routes c routing
      (routes.answer (.opened c b) shutdown request).exchange.connection := by
  cases route : routes.find? request with
  | none => exact ⟨_, answeredBy_of_notFound route ok⟩
  | some => exact answeredBy_of_found route ok

/-- A handler that ends in success although the response that was accepted could not be sent counts
as having answered. -/
theorem handled_of_failure {route : Route} {r : Response} {next : Except Error Unit → Reply}
    {e : Error} (found : routes.find? request = some route)
    (accepted : (route.handler request).accepted? = some (r, next))
    (failed : ((Exchange.opened c b).send r).1 = .error e)
    (ignored : (next (.error e)).lateOutcome = .ok ()) (shutdown : Bool) :
    (routes.answer (.opened c b) shutdown request).outcome = .ok .handled ∧
      (routes.answer (.opened c b) shutdown request).exchange.connection =
        ((Exchange.opened c b).send r).2.connection := by
  have ends := Reply.extraHeadersEnd_of_accepted accepted
  have answered := (Exchange.sends_send (x := .opened c b) rfl ends).accepted.answered
  obtain ⟨outcome, exchange⟩ := answer_of_found found (.opened c b) shutdown
  obtain ⟨success, last⟩ := Reply.run_of_accepted accepted (x := .opened c b) rfl shutdown
  rw [failed, ignored] at success
  rw [outcome, exchange, handled, success, last]
  simp only [answered, if_true]
  exact ⟨trivial, trivial⟩

/-- If nothing counts as handled without any byte being sent, no handler makes light of failures: a
header buffer without cells, or a connection whose first write fails, would tell. -/
theorem mindsFailures_of_written
    (written : ∀ (c : Connection) (b : HeaderBuffer) (request : Request),
      (routes.answer (.opened c b) false request).outcome = .ok .handled →
        (routes.answer (.opened c b) false request).exchange.connection.written ≠ c.written) :
    routes.MindsFailures := by
  intro request route found
  constructor
  · intro r next accepted ignored
    obtain ⟨c, b, failed, unsent⟩ :=
      Exchange.exists_send_overflow (Reply.extraHeadersEnd_of_accepted accepted)
    obtain ⟨handled, connection⟩ := handled_of_failure found accepted failed ignored false
    exact written c b request handled (by rw [connection, unsent])
  · intro r next accepted kind lasting ignored
    obtain ⟨c, b, failed, unsent⟩ :=
      Exchange.exists_send_cutOff (Reply.extraHeadersEnd_of_accepted accepted) lasting
    obtain ⟨handled, connection⟩ := handled_of_failure found accepted failed ignored false
    exact written c b request handled (by rw [connection, unsent])

end RouteTable

/-! ## Cycles -/

/-- The cycle of a request that counts as answered. -/
def Routing.cycle : Routing → Cycle
  | handled => .served
  | notFound => .notFound

theorem Routing.succeeded_cycle (routing : Routing) : routing.cycle.succeeded = true := by
  cases routing <;> rfl

namespace Server

/-- A connection whose request counts as answered was sent one response. -/
theorem answeredBy_attend {s : Server} {c : Connection} {routing : Routing}
    (ok : (s.attend c).1 = .ok routing.cycle) :
    ∃ r : Response, AnsweredBy r s.routes c routing (s.attend c).2 := by
  have received : (Reception.receive s.receiveBuffer c).connection.written = c.written :=
    Reception.written_resume _ _
  rw [attend, handle] at ok ⊢
  generalize Reception.receive s.receiveBuffer c = reception at received ok ⊢
  obtain ⟨outcome, buffer, c'⟩ := reception
  rcases outcome with e | _ | request
  · cases ok
  · -- A peer that made no request was neither served nor told 404.
    cases routing <;> cases ok
  · change (s.routes.answer (.opened c' s.headerBuffer) s.shutdown request).outcome.map _ = _ at ok
    cases outcome : (s.routes.answer (.opened c' s.headerBuffer) s.shutdown request).outcome with
    | error e =>
      rw [outcome] at ok
      cases ok
    | ok answer =>
      have same : answer = routing := by
        rw [outcome] at ok
        cases answer <;> cases routing <;> first | rfl | cases ok
      rw [same] at outcome
      obtain ⟨r, beginning, complete⟩ := RouteTable.answeredBy_answer outcome
      rw [received] at beginning complete
      exact ⟨r, beginning, complete⟩

/-- A cycle that counts as served, or in which the answer was 404, has accepted a connection and
handed it back with one response. -/
theorem answeredBy_step {s : Server} {routing : Routing} (ok : s.step.1 = .ok routing.cycle) :
    ∃ (c ended : Connection) (r : Response), s.Accepts c ∧
      s.step.2.source.served = s.source.served ++ [ended] ∧
        AnsweredBy r s.routes c routing ended := by
  have effect := s.serviceEffect_step
  have served : s.step.2.source.served = s.step.2.service.served := rfl
  rw [served]
  generalize s.step.1 = answer, s.step.2.service = service at effect ok ⊢
  cases effect with
  | nobody _ failed =>
    have := failed _ ok
    rw [routing.succeeded_cycle] at this
    cases this
  | @attended c _ accepts outcome =>
    obtain ⟨r, answered⟩ := answeredBy_attend ((outcome _ routing.succeeded_cycle).1 ok)
    exact ⟨c, _, r, accepts, rfl, answered⟩

end Server

/-- What it means to count as answered, with a table of routes. -/
structure RouteTable.AnswersOnce (routes : RouteTable) : Prop where
  /-- A request that counts as answered was answered by one response. -/
  request : ∀ {c : Connection} {b : HeaderBuffer} {shutdown : Bool} {request : Request}
    {routing : Routing}, (routes.answer (.opened c b) shutdown request).outcome = .ok routing →
      ∃ r : Response, AnsweredBy r routes c routing
        (routes.answer (.opened c b) shutdown request).exchange.connection
  /-- So was the request of a cycle that counts as served, or in which the answer was 404. -/
  cycle : ∀ {s : Server} {routing : Routing}, s.routes = routes → s.step.1 = .ok routing.cycle →
    ∃ (c ended : Connection) (r : Response), s.Accepts c ∧
      s.step.2.source.served = s.source.served ++ [ended] ∧ AnsweredBy r routes c routing ended
  /-- The response is complete, whatever happens, exactly if no handler makes light of failures. -/
  complete_iff :
    (∀ {c : Connection} {b : HeaderBuffer} {shutdown : Bool} {request : Request}
      {routing : Routing}, (routes.answer (.opened c b) shutdown request).outcome = .ok routing →
        ∃ r : Response,
          (routes.answer (.opened c b) shutdown request).exchange.connection.written =
            c.written ++ r.message) ↔ routes.MindsFailures

/-- **What counts as answered was answered by one response**, and completely unless a handler makes
light of failures. -/
theorem RouteTable.answersOnce (routes : RouteTable) : routes.AnswersOnce where
  request ok := RouteTable.answeredBy_answer ok
  cycle same ok := same ▸ Server.answeredBy_step ok
  complete_iff := by
    constructor
    · intro complete
      apply RouteTable.mindsFailures_of_written
      intro c b request handled unsent
      -- No response is empty, so an unchanged connection has none on it.
      obtain ⟨r, written⟩ := complete handled
      rw [unsent, List.self_eq_append_right] at written
      exact r.message_ne_nil written
    · intro minds c b shutdown request routing ok
      obtain ⟨r, answered⟩ := RouteTable.answeredBy_answer ok
      exact ⟨r, answered.complete (.inl minds)⟩

/-- A handler on a connection that takes three bytes at a time, after an interruption, and a 404. -/
theorem RouteTable.answersOnce_in_small_writes :
    let greet : Handler := fun _ => .respond (.ok MediaType.plainText (Utf8.encode "hello"))
    let c : Connection :=
      { arrivals := [.data (Utf8.encode "GET / HTTP/1.1\r\n\r\n")]
        writeAnswers := [.fault .interrupted]
        maxWrite := some 3 }
    (∃ s, Server.bind { accepts := [.connection c] } {} [.get "/" greet] {} = .ok s ∧
      s.step.1 = .ok (Routing.cycle .handled) ∧
        ∃ (ended : Connection) (r : Response),
          s.step.2.source.served = s.source.served ++ [ended] ∧ ended.written = r.message) ∧
      ∃ request, Request.ofBytes (Utf8.encode "GET /none HTTP/1.1\r\n\r\n") = .ok request ∧
        (RouteTable.answer [] (.opened c (.new 256)) false request).outcome = .ok .notFound ∧
          ∃ r : Response,
            (RouteTable.answer [] (.opened c (.new 256)) false
              request).exchange.connection.written = r.message := by
  intro greet c
  have minds : RouteTable.MindsFailures [.get "/" greet] := by
    refine RouteTable.mindsFailures_of_forall fun route mem request => ?_
    rw [List.mem_singleton.1 mem]
    exact Reply.mindsFailures_respond _
  have answered (s : Server) (ok : s.step.1 = .ok (Routing.cycle .handled))
      (routes : s.routes = [.get "/" greet]) (upcoming : s.source.upcoming = .connection c) :
      s.step.1 = .ok (Routing.cycle .handled) ∧ ∃ (ended : Connection) (r : Response),
        s.step.2.source.served = s.source.served ++ [ended] ∧ ended.written = r.message := by
    obtain ⟨c', ended, r, accepts, served, answered⟩ :=
      (RouteTable.answersOnce [.get "/" greet]).cycle routes ok
    have same : c = c' := Accept.connection.inj (upcoming.symm.trans accepts.upcoming)
    refine ⟨ok, ended, r, served, ?_⟩
    rw [answered.complete (.inl minds), ← same]
    exact List.nil_append _
  refine ⟨⟨_, rfl, answered _ (by decide +kernel) rfl rfl⟩, ?_⟩
  have readable :
      (Request.ofBytes (Utf8.encode "GET /none HTTP/1.1\r\n\r\n")).toOption.isSome = true := by
    decide +kernel
  cases reading : Request.ofBytes (Utf8.encode "GET /none HTTP/1.1\r\n\r\n") with
  | error e =>
    rw [reading] at readable
    cases readable
  | ok request =>
    have outcome : (RouteTable.answer [] (.opened c (.new 256)) false request).outcome =
        .ok .notFound := by
      rw [(RouteTable.answer_of_notFound rfl _ _).1]
      decide +kernel
    obtain ⟨r, sent⟩ := (RouteTable.answersOnce []).request outcome
    refine ⟨request, rfl, outcome, r, ?_⟩
    rw [sent.complete (.inr rfl)]
    exact List.nil_append _

/-- A handler that makes light of an overflow: the cycle counts as served, the failures before it
are forgotten, and the peer was sent nothing. -/
theorem served_without_response :
    let careless : Handler := fun _ =>
      .send (.ok MediaType.html (Utf8.encode "hello")) fun _ => .done
    let request := Utf8.encode "GET / HTTP/1.1\r\n\r\n"
    let source : ConnectionSource :=
      { accepts := [.fault .connectionReset, .connection { arrivals := [.data request] }] }
    ∃ s, Server.bind source {} [.get "/" careless] { headerCapacity := 32 } = .ok s ∧
      s.step.1 = .ok .failed ∧ s.step.2.failures = 1 ∧
        s.step.2.step.1 = .ok .served ∧ s.step.2.step.2.failures = 0 ∧
          s.step.2.step.2.source.served.map Connection.written = [[]] := by
  intro careless request source
  refine ⟨_, rfl, ?_⟩
  decide +kernel

namespace SetupPortal

/-- No handler of the portal makes light of failures. -/
theorem mindsFailures_routes : routes.MindsFailures := by
  refine RouteTable.mindsFailures_of_forall fun route mem request => ?_
  simp only [routes, List.mem_cons, List.not_mem_nil, or_false] at mem
  rcases mem with rfl | rfl | rfl | rfl | rfl | rfl
  · exact Reply.mindsFailures_respond _
  · show (joinNetwork request).MindsFailures
    rw [joinNetwork]
    split <;> exact Reply.mindsFailures_respond _
  · show (joinNetworkJson request).MindsFailures
    rw [joinNetworkJson]
    split
    · exact Reply.mindsFailures_finish _
    · exact Reply.mindsFailures_respond _
  · exact Reply.mindsFailures_respond _
  · show (receiveFirmware request).MindsFailures
    rw [receiveFirmware]
    split <;> exact Reply.mindsFailures_respond _
  · exact Reply.mindsFailures_respond _

/-- A peer whose request counts as answered by the portal was sent one complete response. -/
theorem complete_of_step {s : Server} (portal : s.routes = routes) {routing : Routing}
    (ok : s.step.1 = .ok routing.cycle) :
    ∃ (c ended : Connection) (r : Response), s.Accepts c ∧
      s.step.2.source.served = s.source.served ++ [ended] ∧
        ended.written = c.written ++ r.message := by
  obtain ⟨c, ended, r, accepts, served, answered⟩ := Server.answeredBy_step ok
  have minds : s.routes.MindsFailures := by
    rw [portal]
    exact mindsFailures_routes
  exact ⟨c, ended, r, accepts, served, answered.complete (.inl minds)⟩

end SetupPortal

end DeviceHttp
