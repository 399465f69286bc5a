import DeviceHttp.Reception
import DeviceHttp.RouteTable
import DeviceHttp.Server.ConnectionSource
import DeviceHttp.Server.Counter
import DeviceHttp.Server.Device
import DeviceHttp.Settings

/-!
# The server

One connection is served per cycle: accept, receive a request, answer it, end the connection. Failed
requests in a row and checks in a row that find the link down are counted. A counter that reaches
its limit makes the server restart: it closes the listener, pauses, and binds it again. If that
fails the device has to be reset.

## Main definitions

* `Server.bind` — a server that listens
* `Server.step` — one cycle
* `Server.restart` — close, pause, bind
* `Server.stop` — the end of serving
-/

namespace DeviceHttp

/-- The phases of a server's life. -/
inductive Phase where
  /-- The server listens. -/
  | running
  /-- Shutdown is requested, the last cycle is over. -/
  | draining
  /-- The server does not listen. -/
  | stopped
deriving DecidableEq, Repr

/-- What a cycle did. -/
inductive Cycle where
  /-- A route answered the request. -/
  | served
  /-- No route accepted the request, the answer was 404. -/
  | notFound
  /-- The peer made no request. -/
  | noRequest
  /-- Nobody connected. -/
  | idle
  /-- The request failed. -/
  | failed
  /-- The link was down. -/
  | linkDown
  /-- A limit was reached and the server has restarted. -/
  | restarted
deriving DecidableEq, Repr

/-- How important a log record is. -/
inductive Level where
  | info
  | warn
  | error
deriving DecidableEq, Repr

/-- A line of the log. -/
structure LogRecord where
  level : Level
  text : String
deriving DecidableEq, Repr

/-- A server with its surroundings. -/
structure Server where
  settings : Settings
  routes : RouteTable
  source : ConnectionSource
  device : Device
  receiveBuffer : ReceiveBuffer
  headerBuffer : HeaderBuffer
  phase : Phase := .running
  /-- Failed requests in a row. -/
  failures : Counter := 0
  /-- Checks in a row that found the link down. -/
  linkDown : Counter := 0
  /-- Restarts that succeeded. -/
  restarts : Counter := 0
  /-- Whether shutdown is requested. A request is never taken back. -/
  shutdown : Bool := false
  /-- The latest record last. -/
  log : List LogRecord := []

namespace Server

/-- Writes a line to the log. -/
def note (s : Server) (level : Level) (text : String) : Server :=
  { s with log := s.log ++ [⟨level, text⟩] }

/-- Asks the server to stop after its cycle. -/
def requestShutdown (s : Server) : Server := { s with shutdown := true }

/-- Pauses for some milliseconds. -/
def delay (s : Server) (milliseconds : Nat) : Server :=
  { s with device := s.device.delay milliseconds }

/-- Keeps the watchdog from acting. -/
def tick (s : Server) : Server := { s with device := s.device.tick }

/-- A server that listens, with its buffers. -/
def bind (source : ConnectionSource) (device : Device) (routes : RouteTable) (settings : Settings) :
    Except Error Server :=
  match source.bind with
  | (.error kind, _) => .error (.transport (.plain kind))
  | (.ok (), source) =>
    let server : Server := {
      settings, routes, source, device
      receiveBuffer := .new settings.receiveCapacity
      headerBuffer := .new settings.headerCapacity }
    .ok (server.note .info ("Server bound, " ++ toString routes.length ++ " routes, " ++
      toString settings.receiveCapacity ++ " byte receive buffer"))

/-! ## One connection -/

/-- Receives a request from a connection and answers it. -/
def handle (s : Server) (c : Connection) : Except Error Cycle × Server × Connection :=
  let reception := Reception.receive s.receiveBuffer c
  let s := { s with receiveBuffer := reception.buffer }
  match reception.outcome with
  | .error e => (.error e, s, reception.connection)
  | .ok none => (.ok .noRequest, s, reception.connection)
  | .ok (some request) =>
    let exchange : Exchange :=
      { connection := reception.connection, headerBuffer := s.headerBuffer }
    let ending := s.routes.answer exchange s.shutdown request
    let s := { s with
      headerBuffer := ending.exchange.headerBuffer
      shutdown := ending.shutdown }
    let outcome := ending.outcome.map fun
      | .handled => Cycle.served
      | .notFound => Cycle.notFound
    (outcome, s, ending.exchange.connection)

/-- Ends a connection. That this fails changes nothing but the log. -/
def disconnect (s : Server) (c : Connection) : Server :=
  let (answer, c) := c.disconnect
  let s := { s with source := s.source.ended c }
  match answer with
  | .ok () => s
  | .error kind => s.note .warn ("Close failed: " ++ kind.message)

/-- Serves a connection from acceptance to end. -/
def serve (s : Server) (c : Connection) : Except Error Cycle × Server :=
  let (outcome, s, c) := s.handle c
  (outcome, s.disconnect c)

/-- The server after an accept. -/
def accepting (s : Server) : Server :=
  { s with
    source := s.source.advance
    shutdown := s.shutdown || s.source.asksForShutdown }

/-- Accepts a connection and serves it. -/
def serveNext (s : Server) : Except Error Cycle × Server :=
  match s.source.upcoming with
  | .connection c => s.accepting.serve c
  | .fault kind =>
    (if kind.isTimeout then .ok .idle else .error (.transport (.plain kind)), s.accepting)

/-! ## Cycles -/

/-- Closes the listener. -/
def close (s : Server) (complaint : String) : Server :=
  let (answer, source) := s.source.close
  let s := { s with source }
  match answer with
  | .ok () => s
  | .error kind => s.note .warn (complaint ++ kind.message)

/-- Binds the listener again. On success the counters start anew. -/
def rebind (s : Server) : Except Error Unit × Server :=
  let (answer, source) := s.source.bind
  let s := { s with source }
  match answer with
  | .error kind => (.error (.rebindFailed (.plain kind)), s)
  | .ok () =>
    let s := { s with
      phase := .running, failures := 0, linkDown := 0, restarts := s.restarts.raise }
    (.ok (), s.note .info ("Server restarted (" ++ toString s.restarts ++ " total)"))

/-- Closes the listener, pauses, and binds it again. -/
def restart (s : Server) : Except Error Unit × Server :=
  (({ s with phase := .stopped }.close "Close failed during restart: ").delay
    s.settings.restartPause).rebind

/-- The server after a check of the link. -/
def checkedLink (s : Server) : Server := { s with device := s.device.checkLink.2 }

/-- Forgets the checks that found the link down. -/
def clearLinkDown (s : Server) : Server := { s with linkDown := 0 }

/-- Forgets the failed requests. -/
def clearFailures (s : Server) : Server := { s with failures := 0 }

/-- Counts a check that found the link down. -/
def countLinkDown (s : Server) : Server :=
  { s with linkDown := s.linkDown.raise }.note .warn
    ("Link down (" ++ toString s.linkDown.raise ++ "/" ++ toString s.settings.linkDownLimit ++ ")")

/-- Counts a failed request. -/
def countFailure (s : Server) (e : Error) : Server :=
  { s with failures := s.failures.raise }.note .warn
    ("Request failed (" ++ toString s.failures.raise ++ "/" ++
      toString s.settings.failureLimit ++ "): " ++ e.message)

/-- Restarts the server for a reason if a limit is reached; otherwise the cycle is as given. -/
def restartIf (s : Server) (limitReached : Bool) (reason : String) (otherwise : Cycle) :
    Except Error Cycle × Server :=
  if limitReached then
    let (answer, s) := (s.note .error reason).restart
    (answer.map fun () => .restarted, s)
  else (.ok otherwise, s)

/-- Finishes a cycle. After a restart that failed nothing more is done. -/
def finish (cycle : Except Error Cycle × Server) (last : Server → Server) :
    Except Error Cycle × Server :=
  match cycle with
  | (.ok cycle, s) => (.ok cycle, last s)
  | (.error e, s) => (.error e, s)

/-- Restarts if too many checks found the link down. -/
def settleLinkDown (s : Server) : Except Error Cycle × Server :=
  s.restartIf (s.settings.linkDownLimit ≤ s.linkDown.value)
    ("Link down " ++ toString s.linkDown ++ " times, restarting server") .linkDown

/-- Restarts if too many requests failed. -/
def settleFailure (s : Server) : Except Error Cycle × Server :=
  s.restartIf (s.settings.failureLimit ≤ s.failures.value)
    (toString s.failures ++ " failed requests in a row, restarting server") .failed

/-- What a connection, or its absence, means for the counter of failures. -/
def settle (s : Server) : Except Error Cycle → Except Error Cycle × Server
  | .ok .idle => (.ok .idle, s)
  | .ok cycle => (.ok cycle, s.clearFailures)
  | .error e => (s.countFailure e).settleFailure

/-- The pause after a cycle with the link down. -/
def pauseLinkDown (s : Server) : Server := s.delay s.settings.linkPause

/-- The watchdog and the pause after a cycle with the link up. -/
def pauseLinkUp (s : Server) : Server := s.tick.delay s.settings.cyclePause

/-- The cycle when the link is down. -/
def stepLinkDown (s : Server) : Except Error Cycle × Server :=
  finish s.countLinkDown.settleLinkDown pauseLinkDown

/-- The cycle when the link is up. -/
def stepLinkUp (s : Server) : Except Error Cycle × Server :=
  let (outcome, s) := s.clearLinkDown.serveNext
  finish (s.settle outcome) pauseLinkUp

/-- One cycle. Only a restart that fails is an error. -/
def step (s : Server) : Except Error Cycle × Server :=
  if s.device.checkLink.1 then s.checkedLink.stepLinkUp else s.checkedLink.stepLinkDown

/-- Stops listening for good. -/
def stop (s : Server) : Server :=
  { s.close "Close failed: " with phase := .stopped }.note .info "Server stopped"

end Server

end DeviceHttp
