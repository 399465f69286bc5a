import DeviceHttp.Text.Quoted

/-!
# Failures of the transport

What can go wrong between this device and its peer or its network stack: a kind, and possibly a
message of its own or the number under which the operating system reports it.
-/

namespace DeviceHttp

/-- What kind of thing went wrong. -/
inductive FaultKind where
  | interrupted
  | wouldBlock
  | timedOut
  | connectionReset
  | connectionAborted
  | connectionRefused
  | brokenPipe
  | unexpectedEof
  | addrInUse
  | addrNotAvailable
  | notConnected
  | permissionDenied
  | writeZero
  | invalidInput
  | invalidData
  /-- Any other kind, by its name and message. -/
  | other (name message : String)
deriving DecidableEq, Repr

namespace FaultKind

/-- The kinds that are told apart, each once. -/
def common : List FaultKind :=
  [interrupted, wouldBlock, timedOut, connectionReset, connectionAborted, connectionRefused,
   brokenPipe, unexpectedEof, addrInUse, addrNotAvailable, notConnected, permissionDenied,
   writeZero, invalidInput, invalidData]

/-- The name under which a kind is reported. -/
def name : FaultKind → String
  | interrupted => "Interrupted"
  | wouldBlock => "WouldBlock"
  | timedOut => "TimedOut"
  | connectionReset => "ConnectionReset"
  | connectionAborted => "ConnectionAborted"
  | connectionRefused => "ConnectionRefused"
  | brokenPipe => "BrokenPipe"
  | unexpectedEof => "UnexpectedEof"
  | addrInUse => "AddrInUse"
  | addrNotAvailable => "AddrNotAvailable"
  | notConnected => "NotConnected"
  | permissionDenied => "PermissionDenied"
  | writeZero => "WriteZero"
  | invalidInput => "InvalidInput"
  | invalidData => "InvalidData"
  | other name _ => name

/-- The common kind with a given name. -/
def ofName? (s : String) : Option FaultKind := common.find? fun kind => kind.name == s

/-- The message of a kind when nothing more is known. -/
def message : FaultKind → String
  | interrupted => "operation interrupted"
  | wouldBlock => "operation would block"
  | timedOut => "timed out"
  | connectionReset => "connection reset"
  | connectionAborted => "connection aborted"
  | connectionRefused => "connection refused"
  | brokenPipe => "broken pipe"
  | unexpectedEof => "unexpected end of file"
  | addrInUse => "address in use"
  | addrNotAvailable => "address not available"
  | notConnected => "not connected"
  | permissionDenied => "permission denied"
  | writeZero => "write zero"
  | invalidInput => "invalid input parameter"
  | invalidData => "invalid data"
  | other _ message => message

/-- Whether a wait ended without anything having happened. -/
def isTimeout (kind : FaultKind) : Bool := kind = wouldBlock || kind = timedOut

/-- No two common kinds have the same name. -/
theorem ofName?_name : ∀ kind ∈ common, ofName? kind.name = some kind := by decide

end FaultKind

/-- A failure of the transport. -/
inductive Fault where
  /-- Only the kind is known. -/
  | plain (kind : FaultKind)
  /-- A kind with a message of its own. -/
  | described (kind : FaultKind) (text : String)
  /-- A kind that the operating system reports under a number. -/
  | system (kind : FaultKind) (code : Nat) (text : String)
deriving DecidableEq, Repr

namespace Fault

/-- The kind of a failure. -/
def kind : Fault → FaultKind
  | plain kind => kind
  | described kind _ => kind
  | system kind _ _ => kind

/-- The text that tells a user what failed. -/
def message : Fault → String
  | plain kind => kind.message
  | described _ text => text
  | system _ code text => text ++ " (os error " ++ toString code ++ ")"

/-- The failure with all its fields, as a log shows it. -/
def detailed : Fault → String
  | plain kind => "Kind(" ++ kind.name ++ ")"
  | described kind text => Text.record "Error" [("kind", kind.name), ("message", Text.quoted text)]
  | system kind code text =>
    Text.record "Os" [("code", toString code), ("kind", kind.name), ("message", Text.quoted text)]

end Fault

end DeviceHttp
