import DeviceHttp.Request

/-!
# The receive buffer

A request is collected in a buffer of fixed capacity that is used again for every connection. What
the buffer holds decides alone what happens next, see `ReceiveBuffer.demand`: the request is
complete, it is refused, or more bytes are wanted, and then how many at most.
-/

namespace DeviceHttp

/-- Bytes collected so far, never more than the capacity. -/
structure ReceiveBuffer where
  capacity : Nat
  filled : Bytes := []
  fits : filled.length ≤ capacity := by simp
deriving DecidableEq

namespace ReceiveBuffer

/-- A buffer that holds nothing. -/
def new (capacity : Nat) : ReceiveBuffer where
  capacity

/-- The buffer without its contents. All of it is cleared, so nothing remains but the capacity. -/
def reset (b : ReceiveBuffer) : ReceiveBuffer := new b.capacity

/-- The number of bytes that still fit. -/
def room (b : ReceiveBuffer) : Nat := b.capacity - b.filled.length

def isEmpty (b : ReceiveBuffer) : Bool := b.filled.isEmpty

def isFull (b : ReceiveBuffer) : Bool := b.filled.length = b.capacity

/-- The buffer with as many further bytes as fit. -/
def append (b : ReceiveBuffer) (bytes : Bytes) : ReceiveBuffer where
  capacity := b.capacity
  filled := b.filled ++ bytes.take b.room
  fits := by
    have := b.fits
    simp only [List.length_append, List.length_take, room]
    omega

@[simp] theorem capacity_reset (b : ReceiveBuffer) : b.reset.capacity = b.capacity := rfl

@[simp] theorem filled_reset (b : ReceiveBuffer) : b.reset.filled = [] := rfl

@[simp] theorem capacity_append (b : ReceiveBuffer) (bytes : Bytes) :
    (b.append bytes).capacity = b.capacity := rfl

/-- Bytes that fit are all kept. -/
theorem filled_append {b : ReceiveBuffer} {bytes : Bytes} (h : bytes.length ≤ b.room) :
    (b.append bytes).filled = b.filled ++ bytes := by
  simp [append, List.take_of_length_le h]

/-- What a buffer asks for. -/
inductive Demand where
  /-- The request is there. -/
  | complete (request : Request)
  /-- No further bytes can help. -/
  | refused (reason : Error)
  /-- At most this many further bytes. -/
  | wants (room : Nat)
deriving DecidableEq

/-- What the buffer asks for. Until the header block has ended anything that fits is welcome. After
that the announced length is known, and nothing beyond it is wanted. -/
def demand (b : ReceiveBuffer) : Demand :=
  match Header.blockEnd? b.filled with
  | none => if b.isFull then .refused .headTooLarge else .wants b.room
  | some headerEnd =>
    match Head.read b.filled headerEnd with
    | .error reason => .refused reason
    | .ok head =>
      let needed := head.requestLength
      if b.capacity < needed then .refused (.requestTooLarge needed b.capacity)
      else if b.filled.length < needed then .wants (needed - b.filled.length)
      else .complete (Request.ofHead b.filled head)

end ReceiveBuffer

end DeviceHttp
