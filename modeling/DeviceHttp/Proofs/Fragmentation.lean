import DeviceHttp.Proofs.Searching
import DeviceHttp.Reception

/-!
# Receiving does not depend on fragmentation

A network is free to cut what a peer sends into pieces, and to interrupt a read. This module shows
that neither is visible in the request that is received.

## The two sides

`Delivers cutoff d arrivals` says that reading from `arrivals` brings exactly the bytes `d`, in
non-empty pieces of any sizes and with any number of interruptions, until the `cutoff`: the peer
closes its side, or reads fail for good.

`ReceiveBuffer.conclude` is the outcome that a buffer has when nothing more will ever arrive. It is
read off `ReceiveBuffer.demand` and knows nothing of pieces.

## Why it holds

A read takes some of what is left, so `buffer ++ left` is the same before and after it. The demand
of a buffer does not change once it is settled (`demand_append_of_refused`,
`demand_append_of_complete`): the end of the header block is where it was first found
(`Bytes.indexOf?_append`), and the head is read from the bytes in front of it alone. So receiving
comes to what the buffer would conclude if it were given everything at once
(`announced_resume`), up to the part of a request that its peer has not announced: the body of a
request without a length is what happens to have arrived.
-/

namespace DeviceHttp

/-! ## What a peer sends -/

/-- What ends a transmission: the peer closes its side, or reads fail for good. -/
inductive Cutoff where
  | close
  | fault (kind : FaultKind) (lasting : kind ≠ .interrupted)

/-- What a read meets at the cutoff. -/
def Cutoff.arrival : Cutoff → Arrival
  | close => .close
  | fault kind _ => .fault kind

/-- Reading brings exactly the given bytes and then the cutoff. Arrivals after the cutoff are not
looked at. -/
inductive Delivers : Cutoff → Bytes → List Arrival → Prop where
  /-- A peer with nothing more to send has closed its side. -/
  | usedUp : Delivers .close [] []
  | cutoff (cutoff : Cutoff) (rest : List Arrival) : Delivers cutoff [] (cutoff.arrival :: rest)
  | interruption {cutoff : Cutoff} {d : Bytes} {arrivals : List Arrival} :
      Delivers cutoff d arrivals → Delivers cutoff d (.fault .interrupted :: arrivals)
  | piece {cutoff : Cutoff} {bytes d : Bytes} {arrivals : List Arrival} :
      bytes ≠ [] → Delivers cutoff d arrivals →
        Delivers cutoff (bytes ++ d) (.data bytes :: arrivals)

/-- What a read can meet in the middle of a delivery. -/
inductive ReadMeets (cutoff : Cutoff) (d : Bytes) : Except FaultKind Bytes → List Arrival → Prop
    where
  | close (rest : List Arrival) : cutoff = .close → d = [] → ReadMeets cutoff d (.ok []) rest
  | fault (kind : FaultKind) (lasting : kind ≠ .interrupted) (rest : List Arrival) :
      cutoff = .fault kind lasting → d = [] → ReadMeets cutoff d (.error kind) rest
  | interruption {rest : List Arrival} :
      Delivers cutoff d rest → ReadMeets cutoff d (.error .interrupted) rest
  | piece {bytes left : Bytes} {rest : List Arrival} :
      bytes ≠ [] → d = bytes ++ left → Delivers cutoff left rest →
        ReadMeets cutoff d (.ok bytes) rest

/-- A read with room for something takes a piece off a delivery, is interrupted, or meets the
cutoff. -/
theorem Delivers.readMeets {cutoff : Cutoff} {d : Bytes} {c : Connection} {room : Nat}
    (delivers : Delivers cutoff d c.arrivals) (pos : 0 < room) :
    ReadMeets cutoff d (c.read room).1 (c.read room).2.arrivals := by
  simp only [Connection.read]
  generalize c.arrivals = arrivals at delivers ⊢
  cases delivers with
  | usedUp => exact .close [] rfl rfl
  | cutoff cutoff rest =>
    cases cutoff with
    | close => exact .close rest rfl rfl
    | fault kind lasting => exact .fault kind lasting rest rfl rfl
  | interruption delivers => exact .interruption delivers
  | @piece _ bytes left rest ne_nil delivers =>
    rw [Arrival.next]
    by_cases fits : bytes.length ≤ room
    · rw [if_pos fits]
      exact .piece ne_nil rfl delivers
    · -- the piece is cut once more, and neither half of it is empty
      rw [if_neg fits]
      have front : bytes.take room ≠ [] := by
        intro none
        rcases List.take_eq_nil_iff.1 none with zero | empty
        · omega
        · exact ne_nil empty
      have back : bytes.drop room ≠ [] := fun none => fits (List.drop_eq_nil_iff.1 none)
      refine .piece front ?_ (.piece back delivers)
      rw [← List.append_assoc, List.take_append_drop]

/-! ## What a request owes to its peer -/

/-- What a peer has announced about its request. -/
structure Announced where
  line : RequestLine
  headerBlock : Bytes
  contentLength : Nat
  /-- The body, if a length was announced for it. -/
  body : Option Bytes

/-- What the peer has announced. Without a length, the body is not part of it. -/
def Request.announced (r : Request) : Announced where
  line := r.line
  headerBlock := r.headerBlock
  contentLength := r.contentLength
  body := if 0 < r.contentLength then some r.body else none

/-- How a reception ended, as far as the peer has announced it. -/
def Reception.announced (r : Reception) : Except Error (Option Announced) :=
  r.outcome.map (Option.map Request.announced)

/-! ## Buffers that hold everything -/

namespace ReceiveBuffer

/-- The outcome for a request that the cutoff leaves unfinished. -/
def cutOffBy (b : ReceiveBuffer) : Cutoff → Except Error (Option Request)
  | .close => if b.isEmpty then .ok none else .error .closedEarly
  | .fault kind _ =>
    if kind.isTimeout && b.isEmpty then .ok none else .error (.transport (.plain kind))

/-- The outcome for a buffer to which only the cutoff is still to come. -/
def conclude (b : ReceiveBuffer) (cutoff : Cutoff) : Except Error (Option Request) :=
  match b.demand with
  | .complete request => .ok (some request)
  | .refused reason => .error reason
  | .wants _ => b.cutOffBy cutoff

/-- Cutting off a reception gives no request. -/
theorem cutOffBy_ne_request (b : ReceiveBuffer) (cutoff : Cutoff)
    (request : Request) : b.cutOffBy cutoff ≠ .ok (some request) := by
  unfold cutOffBy
  split
  · split <;> exact nofun
  · split <;> exact nofun

theorem append_nil (b : ReceiveBuffer) : b.append [] = b := by
  cases b
  simp [append]

/-- Appending in two pieces is appending once, whether or not everything fits. -/
theorem append_append (b : ReceiveBuffer) (c d : Bytes) :
    (b.append c).append d = b.append (c ++ d) := by
  have left : (b.append c).room = b.room - c.length := by
    simp only [room, append, List.length_append, List.length_take]
    omega
  have filled : (b.append c).filled ++ d.take (b.append c).room =
      b.filled ++ (c ++ d).take b.room := by
    rw [left, List.take_append, ← List.append_assoc]
    rfl
  simp only [append] at filled ⊢
  congr 1

theorem append_of_isFull {b : ReceiveBuffer} (full : b.isFull = true) (d : Bytes) :
    b.append d = b := by
  have none_left : b.room = 0 := by
    rw [isFull, decide_eq_true_eq] at full
    rw [room, full, Nat.sub_self]
  cases b
  simp_all [append]

end ReceiveBuffer

/-! ## A settled demand stays settled -/

/-- The end of a header block stays where it was found. -/
theorem Header.blockEnd?_append {b : Bytes} {i : Nat} (h : Header.blockEnd? b = some i)
    (c : Bytes) : Header.blockEnd? (b ++ c) = some i := by
  obtain ⟨j, found, rfl⟩ := Option.map_eq_some_iff.1 h
  rw [Header.blockEnd?, Bytes.indexOf?_append found]
  rfl

theorem Header.blockEnd?_le {b : Bytes} {i : Nat} (h : Header.blockEnd? b = some i) :
    i ≤ b.length := by
  obtain ⟨j, found, rfl⟩ := Option.map_eq_some_iff.1 h
  exact Bytes.add_length_le_of_indexOf? found

/-- A head is read from the bytes in front of its end alone. -/
theorem Head.read_append {b : Bytes} {i : Nat} (h : i ≤ b.length) (c : Bytes) :
    Head.read (b ++ c) i = Head.read b i := by
  rw [Head.read, Head.read, List.take_append_of_le_length h]

/-- Bytes after the announced length change nothing that was announced. -/
theorem Request.announced_ofHead_append {b : Bytes} {head : Head}
    (h : head.requestLength ≤ b.length) (c : Bytes) :
    (Request.ofHead (b ++ c) head).announced = (Request.ofHead b head).announced := by
  by_cases pos : 0 < head.contentLength
  · simp only [Request.announced, Request.ofHead, if_pos pos]
    rw [List.take_append_of_le_length h]
  · simp only [Request.announced, Request.ofHead, if_neg pos]

namespace ReceiveBuffer

variable {b : ReceiveBuffer}

/-- Why a buffer demands what it demands. -/
inductive Demands (b : ReceiveBuffer) : Demand → Prop where
  /-- The buffer is full and the header block has not ended. -/
  | unendedFull : Header.blockEnd? b.filled = none → b.isFull = true →
      Demands b (.refused .headTooLarge)
  | unended : Header.blockEnd? b.filled = none → b.isFull = false → Demands b (.wants b.room)
  | badHead {i : Nat} {reason : Error} : Header.blockEnd? b.filled = some i →
      Head.read b.filled i = .error reason → Demands b (.refused reason)
  | tooLarge {i : Nat} {head : Head} : Header.blockEnd? b.filled = some i →
      Head.read b.filled i = .ok head → b.capacity < head.requestLength →
        Demands b (.refused (.requestTooLarge head.requestLength b.capacity))
  | unfinished {i : Nat} {head : Head} : Header.blockEnd? b.filled = some i →
      Head.read b.filled i = .ok head → head.requestLength ≤ b.capacity →
        b.filled.length < head.requestLength →
          Demands b (.wants (head.requestLength - b.filled.length))
  | complete {i : Nat} {head : Head} : Header.blockEnd? b.filled = some i →
      Head.read b.filled i = .ok head → head.requestLength ≤ b.filled.length →
        Demands b (.complete (Request.ofHead b.filled head))

theorem demands_demand (b : ReceiveBuffer) : b.Demands b.demand := by
  rw [demand]
  split
  next unended =>
    split
    next full => exact .unendedFull unended full
    next notFull => exact .unended unended (Bool.eq_false_iff.2 notFull)
  next i ended =>
    split
    next reason bad => exact .badHead ended bad
    next head good =>
      by_cases exceeds : b.capacity < head.requestLength
      · simp only [if_pos exceeds]
        exact .tooLarge ended good exceeds
      · simp only [if_neg exceeds]
        by_cases short : b.filled.length < head.requestLength
        · rw [if_pos short]
          exact .unfinished ended good (Nat.le_of_not_lt exceeds) short
        · rw [if_neg short]
          exact .complete ended good (Nat.le_of_not_lt short)

/-- A buffer has only one demand, whatever the reason for it. -/
theorem Demands.eq_demand {demand : Demand} (h : b.Demands demand) : b.demand = demand := by
  rw [ReceiveBuffer.demand]
  cases h with
  | unendedFull unended full => rw [unended, if_pos full]
  | unended unended notFull => simp only [unended, notFull, Bool.false_eq_true, if_false]
  | badHead ended bad => simp only [ended, bad]
  | tooLarge ended good exceeds => simp only [ended, good, if_pos exceeds]
  | unfinished ended good fits short =>
    simp only [ended, good, if_neg (Nat.not_lt.2 fits), if_pos short]
  | complete ended good all =>
    have fits := Nat.le_trans all b.fits
    simp only [ended, good, if_neg (Nat.not_lt.2 fits), if_neg (Nat.not_lt.2 all)]

/-- A buffer that wants more has room for it. -/
theorem pos_of_demand_eq_wants {room : Nat} (h : b.demand = .wants room) : 0 < room := by
  have reason := b.demands_demand
  rw [h] at reason
  cases reason with
  | unended _ notFull =>
    have := b.fits
    rw [isFull, decide_eq_false_iff_not] at notFull
    rw [ReceiveBuffer.room]
    omega
  | unfinished _ _ _ short => omega

theorem exists_filled_append (b : ReceiveBuffer) (d : Bytes) :
    ∃ kept, (b.append d).filled = b.filled ++ kept := ⟨_, rfl⟩

/-- Once refused, a request is refused for the same reason however much more arrives. -/
theorem demand_append_of_refused {reason : Error} (h : b.demand = .refused reason) (d : Bytes) :
    (b.append d).demand = .refused reason := by
  obtain ⟨kept, grown⟩ := b.exists_filled_append d
  have why := b.demands_demand
  rw [h] at why
  apply Demands.eq_demand
  cases why with
  | unendedFull unended full =>
    rw [append_of_isFull full]
    exact .unendedFull unended full
  | badHead ended bad =>
    refine .badHead (by rw [grown]; exact Header.blockEnd?_append ended kept) ?_
    rw [grown, Head.read_append (Header.blockEnd?_le ended), bad]
  | tooLarge ended good exceeds =>
    refine .tooLarge (by rw [grown]; exact Header.blockEnd?_append ended kept) ?_ exceeds
    rw [grown, Head.read_append (Header.blockEnd?_le ended), good]

/-- Once complete, a request stays as its peer has announced it however much more arrives. -/
theorem demand_append_of_complete {request : Request} (h : b.demand = .complete request)
    (d : Bytes) :
    ∃ later, (b.append d).demand = .complete later ∧ later.announced = request.announced := by
  obtain ⟨kept, grown⟩ := b.exists_filled_append d
  have why := b.demands_demand
  rw [h] at why
  cases why with
  | @complete i head ended good all =>
    have ended_later : Header.blockEnd? (b.append d).filled = some i := by
      rw [grown]
      exact Header.blockEnd?_append ended kept
    have good_later : Head.read (b.append d).filled i = .ok head := by
      rw [grown, Head.read_append (Header.blockEnd?_le ended), good]
    have all_later : head.requestLength ≤ (b.append d).filled.length := by
      rw [grown, List.length_append]
      omega
    refine ⟨_, Demands.eq_demand (.complete ended_later good_later all_later), ?_⟩
    rw [grown]
    exact Request.announced_ofHead_append all kept

end ReceiveBuffer

/-! ## Receiving -/

namespace Reception

variable {b : ReceiveBuffer} {c : Connection} {room : Nat}

theorem resume_of_complete {request : Request} (h : b.demand = .complete request) :
    resume b c = ⟨.ok (some request), b, c⟩ := by
  rw [resume]
  split
  next request' settled =>
    cases h.symm.trans settled
    rfl
  next reason settled => cases h.symm.trans settled
  next room settled => cases h.symm.trans settled

theorem resume_of_refused {reason : Error} (h : b.demand = .refused reason) :
    resume b c = ⟨.error reason, b, c⟩ := by
  rw [resume]
  split
  next request settled => cases h.symm.trans settled
  next reason' settled =>
    cases h.symm.trans settled
    rfl
  next room settled => cases h.symm.trans settled

/-- After a read that succeeds either the peer has closed its side or there is more to go on with. -/
theorem resume_of_read {bytes : Bytes} (h : b.demand = .wants room)
    (answer : (c.read room).1 = .ok bytes) :
    resume b c =
      if bytes = [] then
        ⟨if b.isEmpty then .ok none else .error .closedEarly, b, (c.read room).2⟩
      else resume (b.append bytes) (c.read room).2 := by
  rw [resume]
  split
  next request settled => cases h.symm.trans settled
  next reason settled => cases h.symm.trans settled
  next room' wanted =>
    cases h.symm.trans wanted
    split
    next bytes' read =>
      cases answer.symm.trans read
      rfl
    next kind read => cases answer.symm.trans read

/-- A read that fails is made again or ends the reception. -/
theorem resume_of_failed_read {kind : FaultKind} (h : b.demand = .wants room)
    (answer : (c.read room).1 = .error kind) :
    resume b c =
      if kind = .interrupted then resume b (c.read room).2
      else
        ⟨if kind.isTimeout && b.isEmpty then .ok none else .error (.transport (.plain kind)), b,
          (c.read room).2⟩ := by
  rw [resume]
  split
  next request settled => cases h.symm.trans settled
  next reason settled => cases h.symm.trans settled
  next room' wanted =>
    cases h.symm.trans wanted
    split
    next bytes read => cases answer.symm.trans read
    next kind' read =>
      cases answer.symm.trans read
      rfl

theorem resume_of_closed (h : b.demand = .wants room) (answer : (c.read room).1 = .ok []) :
    resume b c =
      ⟨if b.isEmpty then .ok none else .error .closedEarly, b, (c.read room).2⟩ := by
  rw [resume_of_read h answer, if_pos rfl]

theorem resume_of_piece {bytes : Bytes} (h : b.demand = .wants room)
    (answer : (c.read room).1 = .ok bytes) (ne_nil : bytes ≠ []) :
    resume b c = resume (b.append bytes) (c.read room).2 := by
  rw [resume_of_read h answer, if_neg ne_nil]

theorem resume_of_interruption (h : b.demand = .wants room)
    (answer : (c.read room).1 = .error .interrupted) :
    resume b c = resume b (c.read room).2 := by
  rw [resume_of_failed_read h answer, if_pos rfl]

theorem resume_of_fault {kind : FaultKind} (h : b.demand = .wants room)
    (answer : (c.read room).1 = .error kind) (lasting : kind ≠ .interrupted) :
    resume b c =
      ⟨if kind.isTimeout && b.isEmpty then .ok none else .error (.transport (.plain kind)), b,
        (c.read room).2⟩ := by
  rw [resume_of_failed_read h answer, if_neg lasting]

/-- Receiving leaves the capacity of the buffer as it is. -/
theorem capacity_resume (b : ReceiveBuffer) (c : Connection) :
    (resume b c).buffer.capacity = b.capacity := by
  induction b, c using resume.induct with
  | case1 b c request h => rw [resume_of_complete h]
  | case2 b c reason h => rw [resume_of_refused h]
  | case3 b c room h answer => rw [resume_of_closed h answer]
  | case4 b c room h bytes answer ne_nil ih =>
    rw [resume_of_piece h answer ne_nil, ih, ReceiveBuffer.capacity_append]
  | case5 b c room h answer ih => rw [resume_of_interruption h answer, ih]
  | case6 b c room h kind answer lasting => rw [resume_of_fault h answer lasting]

/-- Receiving sends nothing. -/
theorem written_resume (b : ReceiveBuffer) (c : Connection) :
    (resume b c).connection.written = c.written := by
  induction b, c using resume.induct with
  | case1 b c request h => rw [resume_of_complete h]
  | case2 b c reason h => rw [resume_of_refused h]
  | case3 b c room h answer =>
    rw [resume_of_closed h answer]
    rfl
  | case4 b c room h bytes answer ne_nil ih =>
    rw [resume_of_piece h answer ne_nil, ih]
    rfl
  | case5 b c room h answer ih =>
    rw [resume_of_interruption h answer, ih]
    rfl
  | case6 b c room h kind answer lasting =>
    rw [resume_of_fault h answer lasting]
    rfl

/-- **Receiving comes to what the buffer concludes from everything at once.** The induction is on
the reads that are made; a read moves bytes from what is left into the buffer, and the buffer with
all that is left stays the same. -/
theorem announced_resume {cutoff : Cutoff} {d : Bytes} {b : ReceiveBuffer} {c : Connection}
    (delivers : Delivers cutoff d c.arrivals) :
    (resume b c).announced =
      ((b.append d).conclude cutoff).map (Option.map Request.announced) := by
  induction b, c using resume.induct generalizing d with
  | case1 b c request h =>
    obtain ⟨later, settled, same⟩ := ReceiveBuffer.demand_append_of_complete h d
    rw [resume_of_complete h, ReceiveBuffer.conclude, settled]
    simp only [announced, Except.map, Option.map_some, same]
  | case2 b c reason h =>
    rw [resume_of_refused h, ReceiveBuffer.conclude, ReceiveBuffer.demand_append_of_refused h]
    rfl
  | case3 b c room h answer =>
    have meets := delivers.readMeets (ReceiveBuffer.pos_of_demand_eq_wants h)
    rw [answer] at meets
    cases meets with
    | close rest closed nothing =>
      rw [resume_of_closed h answer, nothing, b.append_nil, closed, ReceiveBuffer.conclude, h]
      rfl
    | piece ne_nil => exact absurd rfl ne_nil
  | case4 b c room h bytes answer ne_nil ih =>
    have meets := delivers.readMeets (ReceiveBuffer.pos_of_demand_eq_wants h)
    rw [answer] at meets
    cases meets with
    | close => exact absurd rfl ne_nil
    | piece _ split delivers =>
      rw [resume_of_piece h answer ne_nil, ih delivers, ReceiveBuffer.append_append, split]
  | case5 b c room h answer ih =>
    have meets := delivers.readMeets (ReceiveBuffer.pos_of_demand_eq_wants h)
    rw [answer] at meets
    cases meets with
    | fault _ lasting => exact absurd rfl lasting
    | interruption delivers => rw [resume_of_interruption h answer, ih delivers]
  | case6 b c room h kind answer lasting =>
    have meets := delivers.readMeets (ReceiveBuffer.pos_of_demand_eq_wants h)
    rw [answer] at meets
    cases meets with
    | interruption => exact absurd rfl lasting
    | fault _ _ rest broken nothing =>
      rw [resume_of_fault h answer lasting, nothing, b.append_nil, broken,
        ReceiveBuffer.conclude, h]
      rfl

/-- **Receiving does not depend on fragmentation.** Whatever two buffers of one capacity held
before, and however the bytes of a peer are cut and interrupted, the request that its peer
announced, or the reason why there is none, is the same. -/
theorem announced_receive_eq_of_delivers {cutoff : Cutoff} {d : Bytes} {b b' : ReceiveBuffer}
    {c c' : Connection} (same_capacity : b.capacity = b'.capacity)
    (delivers : Delivers cutoff d c.arrivals) (delivers' : Delivers cutoff d c'.arrivals) :
    (receive b c).announced = (receive b' c').announced := by
  have same_start : b.reset = b'.reset := by
    rw [ReceiveBuffer.reset, ReceiveBuffer.reset, same_capacity]
  rw [receive, receive, announced_resume delivers, announced_resume delivers', same_start]

/-- The end of the header block may be cut in two, and reads may be interrupted there. -/
theorem announced_receive_eq_of_cut_blockEnd :
    let front := Utf8.encode "POST /up HTTP/1.1\r\nContent-Length: 4\r\n\r"
    let back := Utf8.encode "\n0123"
    let whole : List Arrival := [.data (front ++ back), .close]
    let cut : List Arrival :=
      [.fault .interrupted, .data front, .fault .interrupted, .data back]
    Delivers .close (front ++ back) whole ∧ Delivers .close (front ++ back) cut ∧
      (receive (.new 64) { arrivals := whole }).announced =
        (receive (.new 64) { arrivals := cut }).announced := by
  intro front back whole cut
  have delivers_whole : Delivers .close (front ++ back) whole := by
    rw [← List.append_nil (front ++ back)]
    exact .piece (by decide) (.cutoff .close [])
  have delivers_cut : Delivers .close (front ++ back) cut := by
    rw [← List.append_nil back]
    exact .interruption (.piece (by decide) (.interruption (.piece (by decide) .usedUp)))
  exact ⟨delivers_whole, delivers_cut,
    announced_receive_eq_of_delivers rfl delivers_whole delivers_cut⟩

end Reception

end DeviceHttp
