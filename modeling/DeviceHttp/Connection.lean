import DeviceHttp.Bytes
import DeviceHttp.Fault

/-!
# Connections

A connection is described by how the peer and the network behave: what arrives and in which pieces,
how much each write gets rid of, and which operations fail. Running the server over such a
description gives the bytes that reach the peer and the operations that were made, in order.

A connection whose description is used up is closed by the peer and accepts every write up to
`maxWrite` bytes at a time.

## Main definitions

* `Connection.read`, `Connection.write`, `Connection.flush`, `Connection.disconnect`
* `Connection.writeAll` — writes until everything is accepted
* `Connection.weight` — how much can still arrive; every read that brings something lowers it
-/

namespace DeviceHttp

/-- What the next read meets. -/
inductive Arrival where
  /-- Bytes, handed over as far as the reader has room. The rest waits for the next read. -/
  | data (bytes : Bytes)
  /-- The read fails. -/
  | fault (kind : FaultKind)
  /-- The peer has closed its side. -/
  | close
deriving DecidableEq, Repr

/-- The bytes that an arrival brings. -/
def Arrival.bytes : Arrival → Bytes
  | data bytes => bytes
  | fault _ => []
  | close => []

/-- What a read of at most `room` bytes gives, and what is to come after it. No bytes at all mean
that the peer has closed its side. -/
def Arrival.next (room : Nat) : List Arrival → Except FaultKind Bytes × List Arrival
  | [] => (.ok [], [])
  | close :: rest => (.ok [], rest)
  | fault kind :: rest => (.error kind, rest)
  | data bytes :: rest =>
    if bytes.length ≤ room then (.ok bytes, rest)
    else (.ok (bytes.take room), data (bytes.drop room) :: rest)

/-- What the next write meets. -/
inductive WriteAnswer where
  /-- At most this many bytes are accepted. -/
  | accept (limit : Nat)
  /-- The write fails. -/
  | fault (kind : FaultKind)
deriving DecidableEq, Repr

/-- How many of `size` bytes a write gets rid of, and what later writes meet. Without answers left
it is at most `limit`. -/
def WriteAnswer.next (size : Nat) (limit : Option Nat) :
    List WriteAnswer → Except FaultKind Nat × List WriteAnswer
  | [] => (.ok (min (limit.getD size) size), [])
  | accept limit :: rest => (.ok (min limit size), rest)
  | fault kind :: rest => (.error kind, rest)

/-- An operation on a connection. -/
inductive Operation where
  | read (room : Nat)
  | write (size : Nat)
  | flush
  | disconnect
deriving DecidableEq, Repr

/-- A connection: what is still to come, and what has happened. -/
structure Connection where
  arrivals : List Arrival := []
  writeAnswers : List WriteAnswer := []
  /-- The most that one write accepts once `writeAnswers` is used up. -/
  maxWrite : Option Nat := none
  flushFault : Option FaultKind := none
  disconnectFault : Option FaultKind := none
  /-- The bytes that the peer has been sent. -/
  written : Bytes := []
  /-- The operations so far, the latest one last. -/
  history : List Operation := []
deriving DecidableEq, Repr

/-- Success, or failure with the given kind. -/
def succeedOrFail : Option FaultKind → Except FaultKind Unit
  | none => .ok ()
  | some kind => .error kind

namespace Connection

/-- One read of at most `room` bytes. No bytes at all mean that the peer has closed its side. -/
def read (c : Connection) (room : Nat) : Except FaultKind Bytes × Connection :=
  let answer := Arrival.next room c.arrivals
  (answer.1, { c with arrivals := answer.2, history := c.history ++ [.read room] })

/-- One write. The answer is the number of bytes that were accepted. -/
def write (c : Connection) (bytes : Bytes) : Except FaultKind Nat × Connection :=
  let answer := WriteAnswer.next bytes.length c.maxWrite c.writeAnswers
  (answer.1, { c with
    writeAnswers := answer.2
    written := c.written ++ bytes.take (answer.1.toOption.getD 0)
    history := c.history ++ [.write bytes.length] })

/-- Makes sure that everything written is on its way. -/
def flush (c : Connection) : Except FaultKind Unit × Connection :=
  (succeedOrFail c.flushFault, { c with history := c.history ++ [.flush] })

/-- Ends the connection. -/
def disconnect (c : Connection) : Except FaultKind Unit × Connection :=
  (succeedOrFail c.disconnectFault, { c with history := c.history ++ [.disconnect] })

/-- How often the connection was ended. -/
def disconnects (c : Connection) : Nat := c.history.count .disconnect

/-- The bytes that can still arrive. -/
def unread (c : Connection) : Bytes := c.arrivals.flatMap Arrival.bytes

/-- How much can still arrive: every arrival counts one and each of its bytes one more. -/
def weight (c : Connection) : Nat := c.arrivals.foldr (fun a n => a.bytes.length + 1 + n) 0

/-- What a read hands over is what it takes from the connection. -/
theorem unread_read {c : Connection} {room : Nat} {bytes : Bytes}
    (h : (c.read room).1 = .ok bytes) : c.unread = bytes ++ (c.read room).2.unread := by
  simp only [read, unread] at h ⊢
  cases eq : c.arrivals with
  | nil => simp_all [Arrival.next]
  | cons arrival rest =>
    cases arrival with
    | close => simp_all [Arrival.next, Arrival.bytes]
    | fault kind => simp_all [Arrival.next]
    | data data =>
      simp only [eq, Arrival.next] at h ⊢
      split at h
      next all => simp_all [Arrival.bytes]
      next part =>
        simp only [Except.ok.injEq] at h
        simp [part, ← h, Arrival.bytes, ← List.append_assoc]

/-- A read that fails takes nothing. -/
theorem unread_read_of_error {c : Connection} {room : Nat} {kind : FaultKind}
    (h : (c.read room).1 = .error kind) : (c.read room).2.unread = c.unread := by
  simp only [read, unread] at h ⊢
  cases eq : c.arrivals with
  | nil => simp_all [Arrival.next]
  | cons arrival rest =>
    cases arrival with
    | close => simp_all [Arrival.next]
    | fault kind => simp [Arrival.next, Arrival.bytes]
    | data data =>
      simp only [eq, Arrival.next] at h
      split at h <;> cases h

/-- A read hands over no more than there is room for. -/
theorem length_read_le {c : Connection} {room : Nat} {bytes : Bytes}
    (h : (c.read room).1 = .ok bytes) : bytes.length ≤ room := by
  simp only [read] at h
  cases eq : c.arrivals with
  | nil => simp_all [Arrival.next]
  | cons arrival rest =>
    cases arrival with
    | close => simp_all [Arrival.next]
    | fault kind => simp_all [Arrival.next]
    | data data =>
      simp only [eq, Arrival.next] at h
      split at h
      next all => simp_all
      next part =>
        simp only [Except.ok.injEq] at h
        rw [← h]
        exact List.length_take_le room data

/-- A read that brings something lowers the weight. -/
theorem weight_read_lt {c : Connection} {room : Nat} {bytes : Bytes}
    (h : (c.read room).1 = .ok bytes) (bytes_ne : bytes ≠ []) :
    (c.read room).2.weight < c.weight := by
  simp only [read, weight] at h ⊢
  cases eq : c.arrivals with
  | nil => simp_all [Arrival.next]
  | cons arrival rest =>
    cases arrival with
    | close => simp_all [Arrival.next]
    | fault kind => simp_all [Arrival.next]
    | data data =>
      simp only [eq, Arrival.next] at h ⊢
      split at h
      next all =>
        simp only [all, if_true, List.foldr_cons]
        omega
      next part =>
        have : room ≠ 0 := by
          rintro rfl
          simp_all
        simp only [part, if_false, List.foldr_cons, Arrival.bytes, List.length_drop]
        omega

/-- A read that fails lowers the weight. -/
theorem weight_read_lt_of_error {c : Connection} {room : Nat} {kind : FaultKind}
    (h : (c.read room).1 = .error kind) : (c.read room).2.weight < c.weight := by
  simp only [read, weight] at h ⊢
  cases eq : c.arrivals with
  | nil => simp_all [Arrival.next]
  | cons arrival rest =>
    cases arrival with
    | close => simp_all [Arrival.next]
    | fault kind =>
      simp only [Arrival.next, List.foldr_cons]
      omega
    | data data =>
      simp only [eq, Arrival.next] at h
      split at h <;> simp at h

/-- A write accepts no more than it is given. -/
theorem write_le {c : Connection} {bytes : Bytes} {count : Nat}
    (h : (c.write bytes).1 = .ok count) : count ≤ bytes.length := by
  simp only [write] at h
  cases eq : c.writeAnswers with
  | nil =>
    simp only [eq, WriteAnswer.next, Except.ok.injEq] at h
    omega
  | cons answer rest =>
    cases answer with
    | accept limit =>
      simp only [eq, WriteAnswer.next, Except.ok.injEq] at h
      omega
    | fault kind => simp [eq, WriteAnswer.next] at h

/-- What a write accepts is what reaches the peer. -/
theorem written_write {c : Connection} {bytes : Bytes} {count : Nat}
    (h : (c.write bytes).1 = .ok count) :
    (c.write bytes).2.written = c.written ++ bytes.take count := by
  simp only [write] at h ⊢
  simp [h, Except.toOption]

/-- A write that fails sends nothing. -/
theorem written_write_of_error {c : Connection} {bytes : Bytes} {kind : FaultKind}
    (h : (c.write bytes).1 = .error kind) : (c.write bytes).2.written = c.written := by
  simp only [write] at h ⊢
  simp [h, Except.toOption]

/-- No write makes write answers. -/
theorem length_writeAnswers_write_le (c : Connection) (bytes : Bytes) :
    (c.write bytes).2.writeAnswers.length ≤ c.writeAnswers.length := by
  simp only [write]
  cases c.writeAnswers with
  | nil => simp [WriteAnswer.next]
  | cons answer rest => cases answer <;> simp [WriteAnswer.next]

/-- A write that fails uses up a write answer. -/
theorem length_writeAnswers_write_lt {c : Connection} {bytes : Bytes} {kind : FaultKind}
    (h : (c.write bytes).1 = .error kind) :
    (c.write bytes).2.writeAnswers.length < c.writeAnswers.length := by
  simp only [write] at h ⊢
  cases eq : c.writeAnswers with
  | nil => simp [eq, WriteAnswer.next] at h
  | cons answer rest => cases answer <;> simp [WriteAnswer.next]

/-- Writes until everything is accepted. A write that accepts nothing is a failure, an interrupted
one is made again. -/
def writeAll (c : Connection) (bytes : Bytes) : Except FaultKind Unit × Connection :=
  if bytes = [] then (.ok (), c)
  else
    match _answer : (c.write bytes).1 with
    | .ok count =>
      if count = 0 then (.error .writeZero, (c.write bytes).2)
      else (c.write bytes).2.writeAll (bytes.drop count)
    | .error kind =>
      if kind = .interrupted then (c.write bytes).2.writeAll bytes
      else (.error kind, (c.write bytes).2)
termination_by bytes.length + c.writeAnswers.length
decreasing_by
  · have := write_le _answer
    have := length_writeAnswers_write_le c bytes
    simp only [List.length_drop]
    omega
  · have := length_writeAnswers_write_lt _answer
    omega

end Connection

end DeviceHttp
