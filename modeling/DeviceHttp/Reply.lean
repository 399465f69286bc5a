import DeviceHttp.Exchange
import DeviceHttp.Request

/-!
# Replies

What a handler does with a request: it sends responses, may look at how each sending went, may ask
the server to shut down, and ends with success or an error. A reply that goes on after a failed
sending ignores the failure.
-/

namespace DeviceHttp

/-- The doings of a handler. -/
inductive Reply where
  | finish (outcome : Except Error Unit)
  /-- Sends a response and goes on with how that went. -/
  | send (response : Response) (next : Except Error Unit → Reply)
  /-- Asks the server to stop after this request. -/
  | requestShutdown (next : Reply)

/-- Something that answers requests. -/
abbrev Handler := Request → Reply

namespace Reply

/-- Success without doing anything more. -/
def done : Reply := finish (.ok ())

/-- Gives up. -/
def fail (reason : String) : Reply := finish (.error (.handlerFailed reason))

/-- Sends one response and ends as the sending did. -/
def respond (response : Response) : Reply := send response finish

/-- How a reply ended: its outcome, the exchange, and whether a shutdown is requested. -/
structure Ending where
  outcome : Except Error Unit
  exchange : Exchange
  shutdown : Bool

/-- Carries a reply out. -/
def run (x : Exchange) (shutdown : Bool) : Reply → Ending
  | finish outcome => ⟨outcome, x, shutdown⟩
  | send response next => (next (x.send response).1).run (x.send response).2 shutdown
  | requestShutdown next => next.run x true

end Reply

end DeviceHttp
