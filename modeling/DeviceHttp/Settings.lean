/-!
# Server settings

Buffer sizes, limits and pauses of a server. Buffers are made once and used again for every request.
-/

namespace DeviceHttp

/-- Settings of a server. Sizes are in bytes and pauses in milliseconds. -/
structure Settings where
  /-- Request line, headers and body together must fit into the receive buffer. -/
  receiveCapacity : Nat := 1400
  /-- Status line and headers of a response must fit into the header buffer. -/
  headerCapacity : Nat := 256
  /-- So many failed requests in a row make the server restart. -/
  failureLimit : Nat := 5
  /-- So many checks in a row that find the link down make the server restart. -/
  linkDownLimit : Nat := 3
  /-- The pause between closing the listener and binding it again. -/
  restartPause : Nat := 50
  /-- The pause after a check that found the link down. -/
  linkPause : Nat := 10
  /-- The pause after every other cycle. -/
  cyclePause : Nat := 1
deriving DecidableEq, Repr

end DeviceHttp
