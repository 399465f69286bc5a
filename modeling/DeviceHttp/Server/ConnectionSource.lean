import DeviceHttp.Connection

/-!
# Where connections come from

A server is handed connections by a source. It is described by what the source will answer, and
records what it was asked.

When the description is used up nobody connects any more. A source that closes when idle then asks
for the shutdown of the server, so that serving comes to an end.
-/

namespace DeviceHttp

/-- What the next accept meets. -/
inductive Accept where
  | connection (c : Connection)
  | fault (kind : FaultKind)
deriving DecidableEq, Repr

/-- A source of connections. -/
structure ConnectionSource where
  accepts : List Accept := []
  /-- What successive binds meet, `none` for success. After the last one they succeed. -/
  binds : List (Option FaultKind) := []
  /-- What successive closes meet, `none` for success. -/
  closes : List (Option FaultKind) := []
  /-- What every close after these meets. -/
  closeFault : Option FaultKind := none
  /-- Whether an accept after the last one asks for shutdown. -/
  closesWhenIdle : Bool := false
  /-- The connections that were handed out and ended, in order. -/
  served : List Connection := []
  /-- How often accepting was tried. -/
  acceptCalls : Nat := 0
  /-- How often binding was tried. -/
  bindCalls : Nat := 0
  /-- How often closing was tried. -/
  closeCalls : Nat := 0
deriving DecidableEq, Repr

namespace ConnectionSource

/-- Starts to listen. -/
def bind (s : ConnectionSource) : Except FaultKind Unit × ConnectionSource :=
  (succeedOrFail (s.binds.headD none),
    { s with binds := s.binds.drop 1, bindCalls := s.bindCalls + 1 })

/-- Stops listening. -/
def close (s : ConnectionSource) : Except FaultKind Unit × ConnectionSource :=
  (succeedOrFail (s.closes.headD s.closeFault),
    { s with closes := s.closes.drop 1, closeCalls := s.closeCalls + 1 })

/-- What an accept meets. At the end nobody connects. -/
def upcoming (s : ConnectionSource) : Accept := s.accepts.headD (.fault .wouldBlock)

/-- The source after an accept. -/
def advance (s : ConnectionSource) : ConnectionSource :=
  { s with accepts := s.accepts.drop 1, acceptCalls := s.acceptCalls + 1 }

/-- Whether an accept asks for shutdown. -/
def asksForShutdown (s : ConnectionSource) : Bool := s.accepts.isEmpty && s.closesWhenIdle

/-- Takes back a connection that has ended. -/
def ended (s : ConnectionSource) (c : Connection) : ConnectionSource :=
  { s with served := s.served ++ [c] }

/-- Every connection of the description, first those that have ended, in order. -/
def connections (s : ConnectionSource) : List Connection :=
  s.served ++ s.accepts.filterMap fun
    | .connection c => some c
    | .fault _ => none

end ConnectionSource

end DeviceHttp
