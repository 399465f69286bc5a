import DeviceHttp.Exchange

/-!
# What a response puts on the wire

A connection may accept a write in part, not at all, or not now, and the header of a response may be
too long for its buffer. This module says what reaches the peer in every one of these cases.

## Main statements

* `Exchange.sends_send` — all that the sending of an accepted response can do
* `Exchange.oneResponse_sendAll` — of any sequence of responses on one exchange, only the first one
  whose extra header lines are complete is accepted, and only a beginning of it is ever written

What a response looks like is said by `Response.headerText`, without the pieces that its header is
put together from.

## How

Every write takes a beginning of what is left and appends it to what was written, so the bytes that
reached the peer and those that are left make up the whole at any time
(`Connection.writes_writeAll`). A response is two such loops, one for the header and one for the
body, and a flush.
-/

namespace DeviceHttp

/-! ## Writing everything -/

namespace Connection

variable {c : Connection} {bytes : Bytes} {kind : FaultKind} {count : Nat}

/-- What can keep a connection from accepting everything: a write that fails, other than by an
interruption, or one that accepts nothing. -/
inductive Obstructs (c : Connection) : FaultKind → Prop where
  | fault {kind : FaultKind} : .fault kind ∈ c.writeAnswers → kind ≠ .interrupted → Obstructs c kind
  | stall : .accept 0 ∈ c.writeAnswers → Obstructs c .writeZero
  | standstill : c.maxWrite = some 0 → Obstructs c .writeZero

theorem mem_writeAnswers_of_write {answer : WriteAnswer}
    (mem : answer ∈ (c.write bytes).2.writeAnswers) : answer ∈ c.writeAnswers := by
  simp only [write] at mem
  cases eq : c.writeAnswers with
  | nil =>
    rw [eq] at mem
    cases mem
  | cons first rest =>
    rw [eq] at mem
    cases first <;> exact List.mem_cons_of_mem _ mem

/-- Later writes meet no obstruction that was not there before. -/
theorem Obstructs.of_write (h : (c.write bytes).2.Obstructs kind) : c.Obstructs kind := by
  cases h with
  | fault mem lasting => exact .fault (mem_writeAnswers_of_write mem) lasting
  | stall mem => exact .stall (mem_writeAnswers_of_write mem)
  | standstill none => exact .standstill none

/-- An interruption obstructs nothing. -/
theorem Obstructs.ne_interrupted (h : c.Obstructs kind) : kind ≠ .interrupted := by
  cases h with
  | fault _ lasting => exact lasting
  | stall | standstill => exact nofun

theorem obstructs_of_error (answer : (c.write bytes).1 = .error kind)
    (lasting : kind ≠ .interrupted) : c.Obstructs kind := by
  refine .fault ?_ lasting
  simp only [write] at answer
  cases eq : c.writeAnswers with
  | nil =>
    rw [eq] at answer
    cases answer
  | cons first rest =>
    rw [eq] at answer
    cases first with
    | accept limit => cases answer
    | fault kind =>
      cases answer
      exact List.mem_cons_self

theorem obstructs_of_zero (ne_nil : bytes ≠ []) (answer : (c.write bytes).1 = .ok 0) :
    c.Obstructs .writeZero := by
  have pos := List.length_pos_iff.2 ne_nil
  simp only [write] at answer
  cases eq : c.writeAnswers with
  | nil =>
    rw [eq] at answer
    have none := Except.ok.inj answer
    refine .standstill ?_
    cases limit : c.maxWrite with
    | none =>
      rw [limit, Option.getD_none] at none
      omega
    | some limit' =>
      rw [limit, Option.getD_some] at none
      rw [show limit' = 0 by omega]
  | cons first rest =>
    rw [eq] at answer
    cases first with
    | fault kind => cases answer
    | accept limit =>
      have none := Except.ok.inj answer
      obtain rfl : limit = 0 := by omega
      exact .stall (eq ▸ List.mem_cons_self)

theorem writeAll_nil (c : Connection) : c.writeAll [] = (.ok (), c) := by
  rw [writeAll, if_pos rfl]

/-- After a write that succeeds there is less to write, unless it got rid of nothing. -/
theorem writeAll_of_ok (ne_nil : bytes ≠ []) (answer : (c.write bytes).1 = .ok count) :
    c.writeAll bytes =
      if count = 0 then (.error .writeZero, (c.write bytes).2)
      else (c.write bytes).2.writeAll (bytes.drop count) := by
  rw [writeAll, if_neg ne_nil]
  split
  next count' wrote =>
    cases answer.symm.trans wrote
    rfl
  next kind wrote => cases answer.symm.trans wrote

/-- A write that fails is made again or ends the writing. -/
theorem writeAll_of_error (ne_nil : bytes ≠ []) (answer : (c.write bytes).1 = .error kind) :
    c.writeAll bytes =
      if kind = .interrupted then (c.write bytes).2.writeAll bytes
      else (.error kind, (c.write bytes).2) := by
  rw [writeAll, if_neg ne_nil]
  split
  next count wrote => cases answer.symm.trans wrote
  next kind' wrote =>
    cases answer.symm.trans wrote
    rfl

theorem writeAll_of_zero (ne_nil : bytes ≠ []) (answer : (c.write bytes).1 = .ok 0) :
    c.writeAll bytes = (.error .writeZero, (c.write bytes).2) := by
  rw [writeAll_of_ok ne_nil answer, if_pos rfl]

theorem writeAll_of_accept (ne_nil : bytes ≠ []) (answer : (c.write bytes).1 = .ok count)
    (pos : count ≠ 0) : c.writeAll bytes = (c.write bytes).2.writeAll (bytes.drop count) := by
  rw [writeAll_of_ok ne_nil answer, if_neg pos]

theorem writeAll_of_interruption (ne_nil : bytes ≠ [])
    (answer : (c.write bytes).1 = .error .interrupted) :
    c.writeAll bytes = (c.write bytes).2.writeAll bytes := by
  rw [writeAll_of_error ne_nil answer, if_pos rfl]

theorem writeAll_of_fault (ne_nil : bytes ≠ []) (answer : (c.write bytes).1 = .error kind)
    (lasting : kind ≠ .interrupted) : c.writeAll bytes = (.error kind, (c.write bytes).2) := by
  rw [writeAll_of_error ne_nil answer, if_neg lasting]

/-- What writing everything can return and send. -/
inductive Writes (c : Connection) (bytes : Bytes) : Except FaultKind Unit → Bytes → Prop where
  | all : Writes c bytes (.ok ()) bytes
  | part {kind : FaultKind} {sent left : Bytes} : bytes = sent ++ left → left ≠ [] →
      c.Obstructs kind → Writes c bytes (.error kind) sent

/-- A loop that goes on after a write, with what is left. -/
theorem Writes.of_write {left sent : Bytes} {answer : Except FaultKind Unit}
    (h : Writes (c.write bytes).2 left answer sent) (front : Bytes) :
    Writes c (front ++ left) answer (front ++ sent) := by
  cases h with
  | all => exact .all
  | part split ne_nil obstructs =>
    refine .part ?_ ne_nil obstructs.of_write
    rw [split, List.append_assoc]

/-- **Writing everything sends a beginning, and all of it if it succeeds.** The induction is on the
writes that are made. -/
theorem writes_writeAll (c : Connection) (bytes : Bytes) :
    ∃ sent, (c.writeAll bytes).2.written = c.written ++ sent ∧
      Writes c bytes (c.writeAll bytes).1 sent := by
  induction c, bytes using writeAll.induct with
  | case1 c =>
    rw [writeAll_nil]
    exact ⟨[], (List.append_nil _).symm, .all⟩
  | case2 c bytes ne_nil answer =>
    rw [writeAll_of_zero ne_nil answer]
    refine ⟨[], ?_, .part rfl ne_nil (obstructs_of_zero ne_nil answer)⟩
    rw [written_write answer, List.take_zero]
  | case3 c bytes ne_nil count answer pos ih =>
    -- What was accepted and what is left make up the bytes again.
    obtain ⟨sent, written, writes⟩ := ih
    have whole := writes.of_write (bytes.take count)
    rw [List.take_append_drop] at whole
    rw [writeAll_of_accept ne_nil answer pos]
    refine ⟨bytes.take count ++ sent, ?_, whole⟩
    rw [written, written_write answer, List.append_assoc]
  | case4 c bytes ne_nil answer ih =>
    obtain ⟨sent, written, writes⟩ := ih
    rw [writeAll_of_interruption ne_nil answer]
    exact ⟨sent, by rw [written, written_write_of_error answer], writes.of_write []⟩
  | case5 c bytes ne_nil kind answer lasting =>
    rw [writeAll_of_fault ne_nil answer lasting]
    refine ⟨[], ?_, .part rfl ne_nil (obstructs_of_error answer lasting)⟩
    rw [written_write_of_error answer, List.append_nil]

/-- What every single write preserves is preserved by writing everything. -/
theorem writeAll_preserves {P : Connection → Prop}
    (step : ∀ c bytes, P c → P (c.write bytes).2) (h : P c) : P (c.writeAll bytes).2 := by
  induction c, bytes using writeAll.induct with
  | case1 c =>
    rw [writeAll_nil]
    exact h
  | case2 c bytes ne_nil answer =>
    rw [writeAll_of_zero ne_nil answer]
    exact step c bytes h
  | case3 c bytes ne_nil count answer pos ih =>
    rw [writeAll_of_accept ne_nil answer pos]
    exact ih (step c bytes h)
  | case4 c bytes ne_nil answer ih =>
    rw [writeAll_of_interruption ne_nil answer]
    exact ih (step c bytes h)
  | case5 c bytes ne_nil kind answer lasting =>
    rw [writeAll_of_fault ne_nil answer lasting]
    exact step c bytes h

/-- Writing changes nothing about how a flush goes. -/
theorem flushFault_writeAll (c : Connection) (bytes : Bytes) :
    (c.writeAll bytes).2.flushFault = c.flushFault :=
  writeAll_preserves (P := fun c' => c'.flushFault = c.flushFault) (fun _ _ same => same) rfl

/-- After writing, a connection is obstructed only by what obstructed it before. -/
theorem Obstructs.of_writeAll (h : (c.writeAll bytes).2.Obstructs kind) : c.Obstructs kind :=
  writeAll_preserves (P := fun c' => c'.Obstructs kind → c.Obstructs kind)
    (fun _ _ before after => before after.of_write) id h

end Connection

/-! ## Responses -/

namespace Response

/-- The header of a response as one text. -/
def headerText (r : Response) : String :=
  "HTTP/1.1 " ++ toString r.status ++ " " ++ r.reason ++
    "\r\nContent-Type: " ++ r.contentType ++
    "\r\nContent-Length: " ++ toString r.body.length ++ "\r\n" ++
    r.extraHeaders ++ "Connection: close\r\n\r\n"

/-- All that is sent for a response, header and body. -/
def message (r : Response) : Bytes := Utf8.encode r.headerText ++ r.body

/-- The extra header lines are complete: there are none, or the last one has its CRLF. -/
def ExtraHeadersEnd (r : Response) : Prop :=
  r.extraHeaders = "" ∨ Bytes.crlf <:+ Utf8.encode r.extraHeaders

/-- The pieces of a header make up its text. -/
theorem header_eq_encode (r : Response) : r.header = Utf8.encode r.headerText :=
  (Utf8.encode_foldl_append "HTTP/1.1 " [toString r.status, " ", r.reason,
    "\r\nContent-Type: ", r.contentType, "\r\nContent-Length: ", toString r.body.length, "\r\n",
    r.extraHeaders, "Connection: close\r\n\r\n"]).symm

/-- No header is empty. -/
theorem length_headerText_pos (r : Response) : 0 < (Utf8.encode r.headerText).length := by
  have version : 0 < (Utf8.encode "HTTP/1.1 ").length := by decide
  rw [← header_eq_encode, header, headerPieces, List.flatten_cons, List.length_append]
  omega

theorem message_ne_nil (r : Response) : r.message ≠ [] :=
  List.append_ne_nil_of_left_ne_nil (List.length_pos_iff.1 r.length_headerText_pos) _

theorem extraHeadersEnd_iff (r : Response) : r.extraHeadersEnd = true ↔ r.ExtraHeadersEnd := by
  rw [extraHeadersEnd, ExtraHeadersEnd, Bool.or_eq_true, endsWith_iff]
  refine or_congr ?_ ?_
  · rw [List.isEmpty_iff]
    constructor
    · intro empty
      exact Utf8.encode_injective empty
    · rintro empty
      rw [empty]
      rfl
  · constructor
    · rintro ⟨front, eq⟩
      exact ⟨front, eq.symm⟩
    · rintro ⟨front, eq⟩
      exact ⟨front, eq.symm⟩

end Response

namespace Exchange

/-- An exchange over a connection, before any response. -/
def opened (c : Connection) (b : HeaderBuffer) : Exchange where
  connection := c
  headerBuffer := b

/-- What transmitting a message can return and send. -/
inductive Transmits (c : Connection) (message : Bytes) : Except FaultKind Unit → Bytes → Prop where
  | whole : c.flushFault = none → Transmits c message (.ok ()) message
  /-- A write failed, and something was left to send. -/
  | cutOff {kind : FaultKind} {sent left : Bytes} : message = sent ++ left → left ≠ [] →
      c.Obstructs kind → Transmits c message (.error kind) sent
  /-- Everything was sent, and the flush failed. -/
  | unflushed {kind : FaultKind} : c.flushFault = some kind →
      Transmits c message (.error kind) message

theorem transmits_transmit (c : Connection) (header body : Bytes) :
    ∃ sent, (transmit c header body).2.written = c.written ++ sent ∧
      Transmits c (header ++ body) (transmit c header body).1 sent := by
  obtain ⟨sent, written, writes⟩ := c.writes_writeAll header
  have flush := c.flushFault_writeAll header
  have obstructs {kind : FaultKind} : (c.writeAll header).2.Obstructs kind → c.Obstructs kind :=
    Connection.Obstructs.of_writeAll
  rw [transmit]
  generalize c.writeAll header = first at written writes flush obstructs ⊢
  obtain ⟨answer, c₁⟩ := first
  cases writes with
  | @part kind _ left split ne_nil obstruct =>
    -- The body was not begun, so all of it is left.
    refine ⟨sent, written, .cutOff (?_ : _ = sent ++ (left ++ body)) ?_ obstruct⟩
    · rw [split, List.append_assoc]
    · exact fun nil => ne_nil (List.append_eq_nil_iff.1 nil).1
  | all =>
    obtain ⟨sent', written', writes'⟩ := c₁.writes_writeAll body
    have flush' := c₁.flushFault_writeAll body
    simp only at written flush ⊢
    generalize c₁.writeAll body = second at written' writes' flush' ⊢
    obtain ⟨answer', c₂⟩ := second
    simp only at written' flush'
    have reached : c₂.written = c.written ++ (header ++ sent') := by
      rw [written', written, List.append_assoc]
    -- What obstructs the body has obstructed the connection before the header was written.
    cases writes' with
    | @part kind _ left split ne_nil obstruct =>
      exact ⟨header ++ sent', reached,
        .cutOff (by rw [split, List.append_assoc]) ne_nil (obstructs obstruct)⟩
    | all =>
      refine ⟨header ++ body, reached, ?_⟩
      have same : c₂.flushFault = c.flushFault := flush'.trans flush
      simp only [Connection.flush, same]
      cases fault : c.flushFault with
      | none => exact .whole fault
      | some kind => exact .unflushed fault

/-- A first write that fails for good ends everything. -/
theorem transmit_of_fault {c : Connection} {header body : Bytes} {kind : FaultKind}
    (ne_nil : header ≠ []) (answer : (c.write header).1 = .error kind)
    (lasting : kind ≠ .interrupted) :
    transmit c header body = (.error kind, (c.write header).2) := by
  rw [transmit, Connection.writeAll_of_fault ne_nil answer lasting]

/-- What the sending of a response that is accepted can return, and the exchange after it. -/
inductive Sends (x : Exchange) (r : Response) : Except Error Unit → Exchange → Prop where
  | overflow {y : Exchange} : x.headerBuffer.capacity < (Utf8.encode r.headerText).length →
      y.answered = true → y.connection = x.connection → Sends x r (.error .headerOverflow) y
  | fits {y : Exchange} {answer : Except FaultKind Unit} {sent : Bytes} :
      (Utf8.encode r.headerText).length ≤ x.headerBuffer.capacity → y.answered = true →
        y.connection.written = x.connection.written ++ sent →
          Transmits x.connection r.message answer sent →
            Sends x r (answer.mapError fun kind => .transport (.plain kind)) y

variable {x : Exchange} {r : Response}

theorem send_of_answered (h : x.answered = true) :
    x.send r = (.error .alreadyAnswered, x) := by
  rw [send, if_pos h]

theorem send_of_open_extraHeaders (unanswered : x.answered = false) (h : ¬ r.ExtraHeadersEnd) :
    x.send r = (.error .openExtraHeaders, x) := by
  have ends : r.extraHeadersEnd = false :=
    Bool.eq_false_iff.2 fun ends => h (r.extraHeadersEnd_iff.1 ends)
  rw [send, if_neg (by simp [unanswered]), if_pos (by rw [ends]; rfl)]

theorem send_of_overflow (unanswered : x.answered = false) (accepted : r.ExtraHeadersEnd)
    (long : x.headerBuffer.capacity < (Utf8.encode r.headerText).length) :
    (x.send r).1 = .error .headerOverflow ∧ (x.send r).2.answered = true ∧
      (x.send r).2.connection = x.connection := by
  have ends := r.extraHeadersEnd_iff.2 accepted
  have header : r.headerPieces.flatten = Utf8.encode r.headerText := r.header_eq_encode
  have overflowed : (x.headerBuffer.fill r.headerPieces).overflowed = true := by
    rw [HeaderBuffer.overflowed_fill_iff, header]
    exact long
  rw [send, if_neg (by simp [unanswered]), if_neg (by simp [ends])]
  simp only [overflowed, if_true]
  exact ⟨trivial, trivial, trivial⟩

theorem send_of_fits (unanswered : x.answered = false) (accepted : r.ExtraHeadersEnd)
    (fits : (Utf8.encode r.headerText).length ≤ x.headerBuffer.capacity) :
    (x.send r).1 = ((transmit x.connection (Utf8.encode r.headerText) r.body).1.mapError
        fun kind => .transport (.plain kind)) ∧
      (x.send r).2.answered = true ∧
        (x.send r).2.connection =
          (transmit x.connection (Utf8.encode r.headerText) r.body).2 := by
  have ends := r.extraHeadersEnd_iff.2 accepted
  have header : r.headerPieces.flatten = Utf8.encode r.headerText := r.header_eq_encode
  have intact : (x.headerBuffer.fill r.headerPieces).overflowed = false := by
    rw [Bool.eq_false_iff, ne_eq, HeaderBuffer.overflowed_fill_iff, header]
    omega
  have bytes : (x.headerBuffer.fill r.headerPieces).bytes = Utf8.encode r.headerText := by
    rw [HeaderBuffer.bytes_fill (header ▸ fits), header]
  -- Neither check refuses the response, and what is sent is the header that the buffer holds.
  rw [send, if_neg (by simp [unanswered]), if_neg (by simp [ends])]
  simp only [intact, Bool.false_eq_true, if_false, bytes]
  exact ⟨trivial, trivial, trivial⟩

/-- **All that the sending of an accepted response can do.** -/
theorem sends_send (unanswered : x.answered = false) (accepted : r.ExtraHeadersEnd) :
    Sends x r (x.send r).1 (x.send r).2 := by
  by_cases fits : (Utf8.encode r.headerText).length ≤ x.headerBuffer.capacity
  · obtain ⟨answer, answered, connection⟩ := send_of_fits unanswered accepted fits
    obtain ⟨sent, written, transmits⟩ :=
      transmits_transmit x.connection (Utf8.encode r.headerText) r.body
    rw [← connection] at written
    rw [answer]
    exact .fits fits answered written transmits
  · have long := Nat.lt_of_not_le fits
    obtain ⟨answer, answered, connection⟩ := send_of_overflow unanswered accepted long
    rw [answer]
    exact .overflow long answered connection

/-- Every response meets a header buffer that it does not fit. -/
theorem exists_send_overflow (accepted : r.ExtraHeadersEnd) :
    ∃ (c : Connection) (b : HeaderBuffer), ((opened c b).send r).1 = .error .headerOverflow ∧
      ((opened c b).send r).2.connection.written = c.written := by
  obtain ⟨answer, -, untouched⟩ :=
    send_of_overflow (x := .opened {} (.new 0)) rfl accepted r.length_headerText_pos
  exact ⟨_, _, answer, congrArg Connection.written untouched⟩

/-- Every response meets a connection whose first write fails. -/
theorem exists_send_cutOff (accepted : r.ExtraHeadersEnd) {kind : FaultKind}
    (lasting : kind ≠ .interrupted) :
    ∃ (c : Connection) (b : HeaderBuffer),
      ((opened c b).send r).1 = .error (.transport (.plain kind)) ∧
        ((opened c b).send r).2.connection.written = c.written := by
  let c : Connection := { writeAnswers := [.fault kind] }
  let header := Utf8.encode r.headerText
  have fits : header.length ≤ (HeaderBuffer.new header.length).capacity :=
    Nat.le_of_eq (HeaderBuffer.capacity_new _).symm
  have failed : (c.write header).1 = .error kind := rfl
  have cutOff : transmit c header r.body = (.error kind, (c.write header).2) :=
    transmit_of_fault (List.length_pos_iff.1 r.length_headerText_pos) failed lasting
  obtain ⟨answer, -, connection⟩ :=
    send_of_fits (x := .opened c (.new header.length)) rfl accepted fits
  refine ⟨c, .new header.length, answer.trans ?_, ?_⟩
  · exact congrArg (fun outcome => Except.mapError _ outcome.1) cutOff
  · rw [connection]
    exact (congrArg (fun outcome => outcome.2.written) cutOff).trans
      (Connection.written_write_of_error failed)

/-- How the sending of a response that is accepted goes, as seen by the sender and by the peer. -/
structure Accepted (x : Exchange) (r : Response) (answer : Except Error Unit) (y : Exchange) :
    Prop where
  answered : y.answered = true
  /-- Only a beginning of the response reaches the peer. -/
  beginning : ∃ sent, sent <+: r.message ∧ y.connection.written = x.connection.written ++ sent
  overflow : answer = .error .headerOverflow ↔
    x.headerBuffer.capacity < (Utf8.encode r.headerText).length
  /-- If the header overflows, the connection is not touched. -/
  untouched : answer = .error .headerOverflow → y.connection = x.connection
  complete : answer = .ok () → y.connection.written = x.connection.written ++ r.message
  /-- If the transport fails, either a write has failed and something is missing, or nothing is
  missing and the flush has failed. -/
  failed : ∀ {fault : Fault}, answer = .error (.transport fault) →
    ∃ kind, fault = .plain kind ∧
      ((x.connection.Obstructs kind ∧ ∃ sent, sent <+: r.message ∧ sent ≠ r.message ∧
          y.connection.written = x.connection.written ++ sent) ∨
        (x.connection.flushFault = some kind ∧
          y.connection.written = x.connection.written ++ r.message))
  /-- There is no other way to fail. -/
  answers : answer = .ok () ∨ answer = .error .headerOverflow ∨
    ∃ fault, answer = .error (.transport fault)

theorem Sends.accepted {answer : Except Error Unit} {y : Exchange} (h : Sends x r answer y) :
    Accepted x r answer y := by
  cases h with
  | overflow less answered same =>
    exact {
      answered
      beginning := ⟨[], List.nil_prefix, by rw [same, List.append_nil]⟩
      overflow := ⟨fun _ => less, fun _ => rfl⟩
      untouched := fun _ => same
      complete := nofun
      failed := nofun
      answers := .inr (.inl rfl) }
  | @fits _ _ sent fits answered written transmits =>
    have notLess := Nat.not_lt.2 fits
    cases transmits with
    | whole =>
      exact {
        answered
        beginning := ⟨_, List.prefix_rfl, written⟩
        overflow := ⟨nofun, fun less => absurd less notLess⟩
        untouched := nofun
        complete := fun _ => written
        failed := nofun
        answers := .inl rfl }
    | @cutOff kind _ left split ne_nil obstructs =>
      have begins : sent <+: r.message := ⟨left, split.symm⟩
      have missing : sent ≠ r.message := by
        rw [split, ne_eq, List.self_eq_append_right]
        exact ne_nil
      refine {
        answered
        beginning := ⟨_, begins, written⟩
        overflow := ⟨nofun, fun less => absurd less notLess⟩
        untouched := nofun
        complete := nofun
        failed := ?_
        answers := .inr (.inr ⟨_, rfl⟩) }
      rintro fault ⟨⟩
      exact ⟨kind, rfl, .inl ⟨obstructs, sent, begins, missing, written⟩⟩
    | @unflushed kind flushFault =>
      refine {
        answered
        beginning := ⟨_, List.prefix_rfl, written⟩
        overflow := ⟨nofun, fun less => absurd less notLess⟩
        untouched := nofun
        complete := nofun
        failed := ?_
        answers := .inr (.inr ⟨_, rfl⟩) }
      rintro fault ⟨⟩
      exact ⟨kind, rfl, .inr ⟨flushFault, written⟩⟩

/-! ## Sequences of responses -/

/-- Sends responses one after the other. Every sending gives how it went and the exchange after
it. -/
def sendAll (x : Exchange) : List Response → List (Except Error Unit × Exchange)
  | [] => []
  | r :: rest => x.send r :: (x.send r).2.sendAll rest

/-- What a sequence of responses can lead to. -/
inductive OneResponse (x : Exchange) (responses : List Response) :
    List (Except Error Unit × Exchange) → Prop where
  /-- All are refused for their extra header lines. -/
  | none : x.answered = false → (∀ r ∈ responses, ¬ r.ExtraHeadersEnd) →
      OneResponse x responses (responses.map fun _ => (.error .openExtraHeaders, x))
  /-- The first one whose extra header lines are complete is accepted. Those before it are refused
  for their extra header lines, those after it for being too late. -/
  | one (refused later : List Response) {r : Response} {answer : Except Error Unit} {y : Exchange} :
      x.answered = false → responses = refused ++ r :: later →
        (∀ r ∈ refused, ¬ r.ExtraHeadersEnd) → r.ExtraHeadersEnd → Accepted x r answer y →
          OneResponse x responses
            (refused.map (fun _ => (.error .openExtraHeaders, x)) ++
              (answer, y) :: later.map fun _ => (.error .alreadyAnswered, y))

theorem sendAll_of_answered (h : x.answered = true) (responses : List Response) :
    x.sendAll responses = responses.map fun _ => (.error .alreadyAnswered, x) := by
  induction responses with
  | nil => rfl
  | cons r rest ih => rw [sendAll, send_of_answered h, ih, List.map_cons]

theorem oneResponse_of_unanswered (unanswered : x.answered = false) (responses : List Response) :
    OneResponse x responses (x.sendAll responses) := by
  induction responses with
  | nil => exact .none unanswered nofun
  | cons r rest ih =>
    rw [sendAll]
    by_cases ends : r.ExtraHeadersEnd
    · have accepted := (sends_send unanswered ends).accepted
      rw [sendAll_of_answered accepted.answered]
      exact .one [] rest unanswered rfl nofun ends accepted
    · rw [send_of_open_extraHeaders unanswered ends]
      have refused {front : List Response} (before : ∀ r ∈ front, ¬ r.ExtraHeadersEnd) :
          ∀ r' ∈ r :: front, ¬ r'.ExtraHeadersEnd :=
        List.forall_mem_cons.2 ⟨ends, before⟩
      generalize x.sendAll rest = steps at ih ⊢
      cases ih with
      | none _ before => exact .none unanswered (refused before)
      | one front later _ split before ends' accepted =>
        exact .one (r :: front) later unanswered (by rw [split, List.cons_append])
          (refused before) ends' accepted

/-- **At most one response, and only a beginning of it, reaches the wire**, for every header buffer,
whatever it was used for before, every connection and every sequence of responses. -/
theorem oneResponse_sendAll (c : Connection) (b : HeaderBuffer) (responses : List Response) :
    OneResponse (opened c b) responses ((opened c b).sendAll responses) :=
  oneResponse_of_unanswered rfl responses

end Exchange

end DeviceHttp
