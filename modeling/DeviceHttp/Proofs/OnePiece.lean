import DeviceHttp.Proofs.Agreement

/-!
# Requests that arrive in one piece

A peer that sends everything at once leaves the reader no choice. The first read that is not
interrupted takes as much as the buffer can hold, and then either the buffer is full or nothing is
left to read. So **what is received is what the front of the bytes reads as**
(`Reception.received_iff_of_deliversAtOnce`), and this time the body of a request without a length
is no exception: it is all that follows the head.
-/

namespace DeviceHttp

/-- Reading brings the given bytes in one piece, possibly after interruptions, and then nothing more
before the cutoff. -/
inductive DeliversAtOnce : Bytes → List Arrival → Prop where
  | nothing {cutoff : Cutoff} {arrivals : List Arrival} :
      Delivers cutoff [] arrivals → DeliversAtOnce [] arrivals
  | piece {cutoff : Cutoff} {d : Bytes} {rest : List Arrival} :
      d ≠ [] → Delivers cutoff [] rest → DeliversAtOnce d (.data d :: rest)
  | interruption {d : Bytes} {arrivals : List Arrival} :
      DeliversAtOnce d arrivals → DeliversAtOnce d (.fault .interrupted :: arrivals)

namespace ReceiveBuffer

variable {b : ReceiveBuffer} {request : Request}

/-- A buffer holds a request exactly if its bytes read as one. -/
theorem demand_eq_complete_iff :
    b.demand = .complete request ↔ Request.ofBytes b.filled = .ok request := by
  constructor
  · intro held
    exact (ofBytes_of_demand_eq_complete held).2
  · intro read
    have judged := Request.judges_ofBytes b.filled
    rw [read] at judged
    cases judged with
    | complete ended good all => exact (Demands.complete ended good all).eq_demand

/-- An empty buffer wants as much as it can hold. -/
theorem demand_reset (b : ReceiveBuffer) (pos : 0 < b.capacity) :
    b.reset.demand = .wants b.capacity := by
  have unended : Header.blockEnd? b.reset.filled = none := rfl
  have notFull : b.reset.isFull = false :=
    decide_eq_false (Nat.ne_of_lt pos : b.reset.filled.length ≠ b.reset.capacity)
  exact (Demands.unended unended notFull).eq_demand

/-- A full buffer wants nothing more. -/
theorem demand_ne_wants_of_isFull (full : b.isFull = true) (room : Nat) :
    b.demand ≠ .wants room := by
  intro wants
  have pos := pos_of_demand_eq_wants wants
  have most := le_room_of_demand_eq_wants wants
  rw [isFull, decide_eq_true_eq] at full
  rw [ReceiveBuffer.room] at most
  omega

end ReceiveBuffer

namespace Reception

variable {b : ReceiveBuffer} {c : Connection} {d : Bytes} {request : Request}

/-- With a full buffer, what is received is what the buffer holds. -/
theorem received_iff_of_isFull (full : b.isFull = true) :
    (resume b c).outcome = .ok (some request) ↔ b.demand = .complete request := by
  cases demand : b.demand with
  | complete held =>
    rw [resume_of_complete demand]
    simp
  | refused reason =>
    rw [resume_of_refused demand]
    simp
  | wants room => exact absurd demand (ReceiveBuffer.demand_ne_wants_of_isFull full room)

/-- With nothing left to read, what is received is what the buffer holds. -/
theorem received_iff_of_nothing_left {cutoff : Cutoff} (left : Delivers cutoff [] c.arrivals) :
    (resume b c).outcome = .ok (some request) ↔ b.demand = .complete request := by
  constructor
  · intro received
    -- Seen from the announcements, this is the conclusion of the buffer as it is.
    have concluded := announced_resume (b := b) left
    rw [announced, received, ReceiveBuffer.append_nil, ReceiveBuffer.conclude] at concluded
    cases demand : b.demand with
    | complete held =>
      rw [resume_of_complete demand] at received
      cases received
      rfl
    | refused reason =>
      rw [demand] at concluded
      cases concluded
    | wants room =>
      rw [demand] at concluded
      cases cut : b.cutOffBy cutoff with
      | error e =>
        simp only [cut] at concluded
        cases concluded
      | ok made =>
        cases made with
        | none =>
          simp only [cut] at concluded
          cases concluded
        | some other => exact absurd cut (b.cutOffBy_ne_request cutoff other)
  · intro held
    rw [resume_of_complete held]

/-- **What is received in one piece is what the front of the bytes reads as.** -/
theorem received_iff_of_deliversAtOnce (delivers : DeliversAtOnce d c.arrivals)
    (pos : 0 < b.capacity) :
    (receive b c).outcome = .ok (some request) ↔
      Request.ofBytes (d.take b.capacity) = .ok request := by
  have wants := b.demand_reset pos
  unfold receive
  generalize arrivals_eq : c.arrivals = arrivals at delivers
  induction delivers generalizing c with
  | nothing left =>
    rw [received_iff_of_nothing_left (arrivals_eq ▸ left), ReceiveBuffer.demand_eq_complete_iff,
      List.take_nil]
    rfl
  | @piece cutoff d rest ne_nil left =>
    have room : b.reset.room = b.capacity := Nat.sub_zero _
    have filled : ∀ {bytes : Bytes}, bytes.length ≤ b.capacity →
        (b.reset.append bytes).filled = bytes := by
      intro bytes fits
      exact ReceiveBuffer.filled_append (room ▸ fits)
    by_cases fits : d.length ≤ b.capacity
    · -- all of it is read, and nothing is left
      have next : Arrival.next b.capacity c.arrivals = (.ok d, rest) := by
        rw [arrivals_eq, Arrival.next, if_pos fits]
      have answer : (c.read b.capacity).1 = .ok d := congrArg Prod.fst next
      have later : (c.read b.capacity).2.arrivals = rest := congrArg Prod.snd next
      have left' : Delivers cutoff [] (c.read b.capacity).2.arrivals := by
        rw [later]
        exact left
      rw [resume_of_piece wants answer ne_nil, received_iff_of_nothing_left left',
        ReceiveBuffer.demand_eq_complete_iff, filled fits, List.take_of_length_le fits]
    · -- the buffer is full, whatever is left
      have next : Arrival.next b.capacity c.arrivals =
          (.ok (d.take b.capacity), .data (d.drop b.capacity) :: rest) := by
        rw [arrivals_eq, Arrival.next, if_neg fits]
      have answer : (c.read b.capacity).1 = .ok (d.take b.capacity) := congrArg Prod.fst next
      have length : (d.take b.capacity).length = b.capacity :=
        List.length_take_of_le (Nat.le_of_not_le fits)
      have ne_nil' : d.take b.capacity ≠ [] := by
        intro nil
        rw [nil, List.length_nil] at length
        omega
      have full : (b.reset.append (d.take b.capacity)).isFull = true := by
        rw [ReceiveBuffer.isFull, filled (Nat.le_of_eq length), length]
        exact decide_eq_true rfl
      rw [resume_of_piece wants answer ne_nil', received_iff_of_isFull full,
        ReceiveBuffer.demand_eq_complete_iff, filled (Nat.le_of_eq length)]
  | @interruption d arrivals _ ih =>
    have next : Arrival.next b.capacity c.arrivals = (.error .interrupted, arrivals) := by
      rw [arrivals_eq]
      rfl
    have answer : (c.read b.capacity).1 = .error .interrupted := congrArg Prod.fst next
    rw [resume_of_interruption wants answer]
    exact ih (congrArg Prod.snd next)

end Reception

end DeviceHttp
