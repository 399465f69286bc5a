import DeviceHttp.Proofs.Fragmentation
import DeviceHttp.Proofs.Transmission
import DeviceHttp.RouteTable

/-!
# Handling of related connections

While a request is received and answered, its connection is read, written and flushed, and nothing
is looked at but the answers to that. So connections that give the same answers are handled in the
same way. `Connection.Simulation R` says that related connections give the same answers and stay
related; the lemmas of this module carry that from single operations to everything that is made of
them.

* Receiving makes reads only (`Reception.related_resume`).
* Sending, replies and routing make writes and flushes (`Exchange.Related.send`,
  `Reply.related_run`, `RouteTable.related_answer`). They use the header buffer, and what its cells
  hold from before is not visible (`HeaderBuffer.fill_congr`).

There are two kinds of use. Connections that differ in something no operation looks at are handled
alike. And with equality and a property as the relation, what every operation preserves is preserved
by handling (`Connection.Simulation.ofInvariant`).
-/

namespace DeviceHttp

/-- The same answer, and related connections afterwards. -/
def SameAnswer {α : Type} (R : Connection → Connection → Prop) (a b : α × Connection) : Prop :=
  a.1 = b.1 ∧ R a.2 b.2

namespace Connection

/-- Reads of related connections give the same answers. -/
structure ReadSimulation (R : Connection → Connection → Prop) : Prop where
  read : ∀ {c d : Connection}, R c d → ∀ room, SameAnswer R (c.read room) (d.read room)

/-- All that a server does to related connections before it ends them gives the same answers. -/
structure Simulation (R : Connection → Connection → Prop) : Prop extends ReadSimulation R where
  write : ∀ {c d : Connection}, R c d → ∀ bytes, SameAnswer R (c.write bytes) (d.write bytes)
  flush : ∀ {c d : Connection}, R c d → SameAnswer R c.flush d.flush

variable {R : Connection → Connection → Prop} {P : Connection → Prop} {c d : Connection}

theorem simulation_eq : Simulation Eq where
  read := by
    rintro c _ rfl room
    exact ⟨rfl, rfl⟩
  write := by
    rintro c _ rfl bytes
    exact ⟨rfl, rfl⟩
  flush := by
    rintro c _ rfl
    exact ⟨rfl, rfl⟩

theorem ReadSimulation.ofInvariant (read : ∀ c room, P c → P (c.read room).2) :
    ReadSimulation fun c d => c = d ∧ P c where
  read := by
    rintro c _ ⟨rfl, holds⟩ room
    exact ⟨rfl, rfl, read c room holds⟩

/-- What every operation preserves is a simulation of equal connections. -/
theorem Simulation.ofInvariant (read : ∀ c room, P c → P (c.read room).2)
    (write : ∀ c bytes, P c → P (c.write bytes).2) (flush : ∀ c, P c → P c.flush.2) :
    Simulation fun c d => c = d ∧ P c where
  toReadSimulation := .ofInvariant read
  write := by
    rintro c _ ⟨rfl, holds⟩ bytes
    exact ⟨rfl, rfl, write c bytes holds⟩
  flush := by
    rintro c _ ⟨rfl, holds⟩
    exact ⟨rfl, rfl, flush c holds⟩

/-- Writing everything goes the same way on related connections. The induction is on the writes that
are made. -/
theorem Simulation.writeAll (sim : Simulation R) (related : R c d) (bytes : Bytes) :
    SameAnswer R (c.writeAll bytes) (d.writeAll bytes) := by
  induction c, bytes using writeAll.induct generalizing d with
  | case1 c =>
    rw [writeAll_nil, writeAll_nil]
    exact ⟨rfl, related⟩
  | case2 c bytes ne_nil answer =>
    obtain ⟨same, later⟩ := sim.write related bytes
    rw [writeAll_of_zero ne_nil answer, writeAll_of_zero ne_nil (same.symm.trans answer)]
    exact ⟨rfl, later⟩
  | case3 c bytes ne_nil count answer pos ih =>
    obtain ⟨same, later⟩ := sim.write related bytes
    rw [writeAll_of_accept ne_nil answer pos,
      writeAll_of_accept ne_nil (same.symm.trans answer) pos]
    exact ih later
  | case4 c bytes ne_nil answer ih =>
    obtain ⟨same, later⟩ := sim.write related bytes
    rw [writeAll_of_interruption ne_nil answer,
      writeAll_of_interruption ne_nil (same.symm.trans answer)]
    exact ih later
  | case5 c bytes ne_nil kind answer lasting =>
    obtain ⟨same, later⟩ := sim.write related bytes
    rw [writeAll_of_fault ne_nil answer lasting,
      writeAll_of_fault ne_nil (same.symm.trans answer) lasting]
    exact ⟨rfl, later⟩

end Connection

open Connection (ReadSimulation Simulation)

variable {R : Connection → Connection → Prop}

/-! ## Receiving -/

/-- Receiving goes the same way on related connections. The induction is on the reads that are
made. -/
theorem Reception.related_resume (sim : ReadSimulation R) {c d : Connection} (related : R c d)
    (b : ReceiveBuffer) :
    (resume b c).outcome = (resume b d).outcome ∧ (resume b c).buffer = (resume b d).buffer ∧
      R (resume b c).connection (resume b d).connection := by
  induction b, c using resume.induct generalizing d with
  | case1 b c request h =>
    rw [resume_of_complete h, resume_of_complete h]
    exact ⟨rfl, rfl, related⟩
  | case2 b c reason h =>
    rw [resume_of_refused h, resume_of_refused h]
    exact ⟨rfl, rfl, related⟩
  | case3 b c room h answer =>
    obtain ⟨same, later⟩ := sim.read related room
    rw [resume_of_closed h answer, resume_of_closed h (same.symm.trans answer)]
    exact ⟨rfl, rfl, later⟩
  | case4 b c room h bytes answer ne_nil ih =>
    obtain ⟨same, later⟩ := sim.read related room
    rw [resume_of_piece h answer ne_nil, resume_of_piece h (same.symm.trans answer) ne_nil]
    exact ih later
  | case5 b c room h answer ih =>
    obtain ⟨same, later⟩ := sim.read related room
    rw [resume_of_interruption h answer, resume_of_interruption h (same.symm.trans answer)]
    exact ih later
  | case6 b c room h kind answer lasting =>
    obtain ⟨same, later⟩ := sim.read related room
    rw [resume_of_fault h answer lasting, resume_of_fault h (same.symm.trans answer) lasting]
    exact ⟨rfl, rfl, later⟩

/-! ## Answering -/

/-- Whether a header overflows, and its bytes if it does not, are the same in every buffer of the
same capacity. -/
theorem HeaderBuffer.fill_congr {b b' : HeaderBuffer} (capacity : b.capacity = b'.capacity)
    (pieces : List Bytes) :
    (b.fill pieces).overflowed = (b'.fill pieces).overflowed ∧
      ((b'.fill pieces).overflowed = false → (b.fill pieces).bytes = (b'.fill pieces).bytes) := by
  have same : (b.fill pieces).overflowed = (b'.fill pieces).overflowed := by
    rw [Bool.eq_iff_iff, overflowed_fill_iff, overflowed_fill_iff, capacity]
  refine ⟨same, fun intact => ?_⟩
  have fits : pieces.flatten.length ≤ b'.capacity := by
    rw [Bool.eq_false_iff, ne_eq, overflowed_fill_iff] at intact
    omega
  rw [bytes_fill (capacity ▸ fits), bytes_fill fits]

namespace Exchange

/-- The connections are related, and apart from that the two exchanges differ at most in what the
cells of their header buffers hold. -/
structure Related (R : Connection → Connection → Prop) (x y : Exchange) : Prop where
  connection : R x.connection y.connection
  answered : x.answered = y.answered
  capacity : x.headerBuffer.capacity = y.headerBuffer.capacity

variable {x y : Exchange}

@[simp] theorem capacity_send (x : Exchange) (r : Response) :
    (x.send r).2.headerBuffer.capacity = x.headerBuffer.capacity := by
  rw [send]
  split
  · rfl
  split
  · rfl
  simp only
  split <;> exact HeaderBuffer.capacity_fill _ _

theorem related_transmit (sim : Simulation R) {c d : Connection} (related : R c d)
    (header body : Bytes) : SameAnswer R (transmit c header body) (transmit d header body) := by
  obtain ⟨same, later⟩ := sim.writeAll related header
  rw [transmit, transmit]
  generalize c.writeAll header = first, d.writeAll header = first' at same later ⊢
  obtain ⟨answer, c₁⟩ := first
  obtain ⟨_, d₁⟩ := first'
  obtain rfl : answer = _ := same
  cases answer with
  | error kind => exact ⟨rfl, later⟩
  | ok =>
    obtain ⟨same, later⟩ := sim.writeAll later body
    simp only
    generalize c₁.writeAll body = second, d₁.writeAll body = second' at same later ⊢
    obtain ⟨answer, c₂⟩ := second
    obtain ⟨_, d₂⟩ := second'
    obtain rfl : answer = _ := same
    cases answer with
    | error kind => exact ⟨rfl, later⟩
    | ok => exact sim.flush later

/-- Sending goes the same way on both. -/
theorem Related.send (sim : Simulation R) (related : Related R x y) (r : Response) :
    (x.send r).1 = (y.send r).1 ∧ Related R (x.send r).2 (y.send r).2 := by
  obtain ⟨overflowed, bytes⟩ := HeaderBuffer.fill_congr related.capacity r.headerPieces
  have capacity : (x.headerBuffer.fill r.headerPieces).capacity =
      (y.headerBuffer.fill r.headerPieces).capacity := by
    rw [HeaderBuffer.capacity_fill, HeaderBuffer.capacity_fill, related.capacity]
  rw [Exchange.send, Exchange.send, related.answered]
  split
  · exact ⟨rfl, related⟩
  split
  · exact ⟨rfl, related⟩
  simp only [overflowed]
  split
  · exact ⟨rfl, ⟨related.connection, rfl, capacity⟩⟩
  next intact =>
    rw [bytes (Bool.eq_false_iff.2 intact)]
    obtain ⟨same, later⟩ := related_transmit sim related.connection
      (y.headerBuffer.fill r.headerPieces).bytes r.body
    exact ⟨congrArg (Except.mapError _) same, ⟨later, rfl, capacity⟩⟩

end Exchange

open Exchange (Related)

@[simp] theorem Reply.capacity_run (reply : Reply) (x : Exchange) (shutdown : Bool) :
    (reply.run x shutdown).exchange.headerBuffer.capacity = x.headerBuffer.capacity := by
  induction reply generalizing x shutdown with
  | finish outcome => rfl
  | send r next ih => rw [run, ih, Exchange.capacity_send]
  | requestShutdown next ih => exact ih x true

/-- A reply ends in the same way on both, whether or not a shutdown is already requested. -/
theorem Reply.related_run (sim : Simulation R) (reply : Reply) {x y : Exchange}
    (related : Related R x y) (a b : Bool) :
    (reply.run x a).outcome = (reply.run y b).outcome ∧
      Related R (reply.run x a).exchange (reply.run y b).exchange := by
  induction reply generalizing x y a b with
  | finish outcome => exact ⟨rfl, related⟩
  | send r next ih =>
    obtain ⟨answer, later⟩ := related.send sim r
    rw [run, run, answer]
    exact ih _ later a b
  | requestShutdown next ih => exact ih related true true

namespace RouteTable

variable (routes : RouteTable) (request : Request)

@[simp] theorem capacity_answer (x : Exchange) (shutdown : Bool) :
    (routes.answer x shutdown request).exchange.headerBuffer.capacity =
      x.headerBuffer.capacity := by
  rw [answer]
  split
  · exact x.capacity_send .notFound
  next route _ => exact (route.handler request).capacity_run x shutdown

/-- A request is answered in the same way on both. -/
theorem related_answer (sim : Simulation R) {x y : Exchange} (related : Related R x y)
    (a b : Bool) :
    (routes.answer x a request).outcome = (routes.answer y b request).outcome ∧
      Related R (routes.answer x a request).exchange (routes.answer y b request).exchange := by
  rw [answer, answer]
  split
  · obtain ⟨answer, later⟩ := related.send sim .notFound
    exact ⟨by simp only [answer], later⟩
  next route _ =>
    obtain ⟨outcome, later⟩ := (route.handler request).related_run sim related a b
    exact ⟨by simp only [handled, outcome, later.answered], later⟩

end RouteTable

end DeviceHttp
