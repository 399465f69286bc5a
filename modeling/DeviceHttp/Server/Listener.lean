import DeviceHttp.Address
import DeviceHttp.Server

/-!
# Listening on an address

A listener holds the address it listens on, once it is bound. An address can be held only once at a
time. Accepting does not wait: as long as nobody has connected it fails at once.
-/

namespace DeviceHttp

/-- A listener on a socket address. -/
structure Listener where
  address : Address
  /-- The most that a read or write on a connection may take, in milliseconds. -/
  timeout : Nat := 2000
  /-- Whether the address is held. -/
  bound : Bool := false
deriving DecidableEq, Repr

namespace Listener

/-- A listener for the first of several addresses. -/
def ofAddresses : List Address → Except Fault Listener
  | [] => .error (.described .invalidInput "no address")
  | address :: _ => .ok { address }

/-- A listener for the address that a text names. -/
def ofText (s : String) : Except Fault Listener := do return { address := ← Address.resolve s }

/-- The listener with another limit for reads and writes. -/
def withTimeout (l : Listener) (milliseconds : Nat) : Listener := { l with timeout := milliseconds }

/-- Starts to hold the address. -/
def bind (l : Listener) : Except Fault Unit × Listener :=
  if l.bound then (.error (.system .addrInUse 98 "Address already in use"), l)
  else (.ok (), { l with bound := true })

/-- What an accept meets as long as nobody has connected. -/
def acceptFault (l : Listener) : Fault :=
  if l.bound then .system .wouldBlock 11 "Resource temporarily unavailable"
  else .described .notConnected "not bound"

/-- Lets the address go. -/
def close (l : Listener) : Listener := { l with bound := false }

/-- The address that is held. -/
def localAddress? (l : Listener) : Option Address := if l.bound then some l.address else none

/-- A server on a host that listens and that nobody has connected to yet. -/
def serve (l : Listener) (routes : RouteTable) (settings : Settings) : Except Error Server :=
  match l.bind.1 with
  | .error e => .error (.transport e)
  | .ok () => Server.bind {} .host routes settings

end Listener

end DeviceHttp
