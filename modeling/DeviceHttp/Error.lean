import DeviceHttp.Fault

/-!
# Why a request or a response failed

Each constructor is a cause. `Error.message` is the text for a user; `blamesRequest` and
`blamesConnection` say which side is to blame: what the peer has sent, or the way between.
-/

namespace DeviceHttp

/-- Why the strict reading of a header block fails. -/
inductive HeaderFault where
  | badName
  | badValue
  | badNewLine
  | tooMany
deriving DecidableEq, Repr

/-- The text of a header fault. -/
def HeaderFault.message : HeaderFault → String
  | badName => "invalid header name"
  | badValue => "invalid header value"
  | badNewLine => "invalid new line"
  | tooMany => "too many headers"

/-- A cause of failure. -/
inductive Error where
  /-- The request line has fewer than three tokens. -/
  | malformedLine
  /-- The request line is not UTF-8. -/
  | lineNotUtf8
  /-- The version token is not `HTTP/` and two numbers. -/
  | malformedVersion
  /-- The receive buffer is full before the header block has ended. -/
  | headTooLarge
  /-- The announced request is longer than the receive buffer. -/
  | requestTooLarge (needed capacity : Nat)
  /-- Bytes are missing that no one will deliver. -/
  | incomplete
  /-- The peer closed the connection in the middle of a request. -/
  | closedEarly
  /-- A header line is malformed, or there are too many. -/
  | badHeader (fault : HeaderFault)
  /-- The response header does not fit the header buffer. -/
  | headerOverflow
  /-- The extra header lines do not end in CRLF. -/
  | openExtraHeaders
  /-- The request already has its response. -/
  | alreadyAnswered
  /-- A handler succeeded without any response. -/
  | unanswered
  /-- A handler gave up. -/
  | handlerFailed (reason : String)
  /-- The connection or the listener failed. -/
  | transport (cause : Fault)
  /-- The listener could not be bound again. -/
  | rebindFailed (cause : Fault)
deriving DecidableEq, Repr

namespace Error

/-- The text that tells a user what failed. -/
def message : Error → String
  | malformedLine => "malformed request line"
  | lineNotUtf8 => "request line is not valid utf-8"
  | malformedVersion => "unparseable http version"
  | headTooLarge => "headers too big or no terminator"
  | requestTooLarge needed capacity =>
    "body needs " ++ toString needed ++ " bytes, receive buffer holds " ++ toString capacity
  | incomplete => "request is not complete"
  | closedEarly => "connection closed mid-request"
  | badHeader fault => "http parse fail: " ++ fault.message
  | headerOverflow => "output too small to write response header"
  | openExtraHeaders => "extra header lines must end with crlf"
  | alreadyAnswered => "response already sent for this request"
  | unanswered => "handler returned without sending a response"
  | handlerFailed reason => "handler failed: " ++ reason
  | transport cause => cause.message
  | rebindFailed cause => "server restart failed: " ++ cause.message

/-- Whether the request could not be understood or does not fit the receive buffer. -/
def blamesRequest : Error → Bool
  | malformedLine | lineNotUtf8 | malformedVersion | headTooLarge | requestTooLarge _ _
  | incomplete | badHeader _ => true
  | _ => false

/-- Whether the peer went away or the connection failed. -/
def blamesConnection : Error → Bool
  | closedEarly | transport _ => true
  | _ => false

end Error

/-- Outcomes are compared by what they are. -/
instance decidableEqExcept {ε α : Type} [DecidableEq ε] [DecidableEq α] :
    DecidableEq (Except ε α)
  | .error e, .error e' => decidable_of_iff (e = e') ⟨congrArg _, Except.error.inj⟩
  | .ok a, .ok a' => decidable_of_iff (a = a') ⟨congrArg _, Except.ok.inj⟩
  | .error _, .ok _ => isFalse nofun
  | .ok _, .error _ => isFalse nofun

end DeviceHttp
