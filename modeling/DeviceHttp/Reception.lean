import DeviceHttp.Connection
import DeviceHttp.ReceiveBuffer

/-!
# Receiving a request

One request is received from a connection into an emptied buffer, by reading for as long as the
buffer wants more. A peer that closes its side, or lets the time run out, before it has sent
anything has made no request, which is no failure. Interrupted reads are made again.
-/

namespace DeviceHttp

/-- How the reception of a request ended: its outcome, the buffer, and the connection. -/
structure Reception where
  /-- The request, `none` if the peer made none. -/
  outcome : Except Error (Option Request)
  buffer : ReceiveBuffer
  connection : Connection

namespace Reception

/-- Goes on receiving with what a buffer already holds. -/
def resume (buffer : ReceiveBuffer) (c : Connection) : Reception :=
  match buffer.demand with
  | .complete request => ⟨.ok (some request), buffer, c⟩
  | .refused reason => ⟨.error reason, buffer, c⟩
  | .wants room =>
    match _answer : (c.read room).1 with
    | .ok bytes =>
      if _closed : bytes = [] then
        ⟨if buffer.isEmpty then .ok none else .error .closedEarly, buffer, (c.read room).2⟩
      else resume (buffer.append bytes) (c.read room).2
    | .error kind =>
      if kind = .interrupted then resume buffer (c.read room).2
      else
        ⟨if kind.isTimeout && buffer.isEmpty then .ok none else .error (.transport (.plain kind)),
          buffer, (c.read room).2⟩
termination_by c.weight
decreasing_by
  · exact Connection.weight_read_lt _answer _closed
  · exact Connection.weight_read_lt_of_error _answer

/-- Receives one request. What the buffer held before is forgotten. -/
def receive (buffer : ReceiveBuffer) (c : Connection) : Reception := resume buffer.reset c

end Reception

end DeviceHttp
