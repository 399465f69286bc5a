import DeviceHttp.Connection
import DeviceHttp.Error
import DeviceHttp.HeaderBuffer
import DeviceHttp.Response

/-!
# Exchanges

An exchange is one request and the one response to it. The header of the response is put together in
the header buffer, then header and body are written. A header that does not fit is an error before
anything is written, and the request then counts as answered all the same.
-/

namespace DeviceHttp

/-- The answering side of a connection during one request. -/
structure Exchange where
  connection : Connection
  headerBuffer : HeaderBuffer
  /-- Whether a response was accepted for sending. -/
  answered : Bool := false

namespace Exchange

/-- Writes header and body. An empty body is not written. -/
def transmit (c : Connection) (header body : Bytes) : Except FaultKind Unit × Connection :=
  match c.writeAll header with
  | (.error kind, c) => (.error kind, c)
  | (.ok (), c) =>
    match c.writeAll body with
    | (.error kind, c) => (.error kind, c)
    | (.ok (), c) => c.flush

/-- Sends a response. The first one whose extra header lines are complete is accepted; after that
every further one is refused. -/
def send (x : Exchange) (response : Response) : Except Error Unit × Exchange :=
  if x.answered then (.error .alreadyAnswered, x)
  else if !response.extraHeadersEnd then (.error .openExtraHeaders, x)
  else
    let buffer := x.headerBuffer.fill response.headerPieces
    if buffer.overflowed then
      (.error .headerOverflow, { x with headerBuffer := buffer, answered := true })
    else
      let (answer, connection) := transmit x.connection buffer.bytes response.body
      (answer.mapError fun kind => .transport (.plain kind),
        { connection, headerBuffer := buffer, answered := true })

end Exchange

end DeviceHttp
