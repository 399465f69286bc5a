/-!
# Counters

A server counts in words of 32 bits. A counter at its largest number goes on at zero, so what it
shows is the number of events modulo `UInt32.size`, and the number itself as long as that fits.
-/

namespace DeviceHttp

/-- A counter of 32 bits. -/
structure Counter where
  word : UInt32
deriving DecidableEq, Repr

namespace Counter

instance (n : Nat) : OfNat Counter n := ⟨⟨OfNat.ofNat n⟩⟩

/-- The number that a counter shows. -/
def value (c : Counter) : Nat := c.word.toNat

instance : Coe Counter Nat := ⟨value⟩

instance : ToString Counter := ⟨fun c => toString c.value⟩

/-- Counts one more event. -/
def raise (c : Counter) : Counter := ⟨c.word + 1⟩

/-- What a counter shows after so many events, if it has started at zero. -/
def Counts (c : Counter) (events : Nat) : Prop := c.value = events % UInt32.size

variable {c : Counter} {events : Nat}

@[simp] theorem value_zero : (0 : Counter).value = 0 := rfl

theorem value_raise (c : Counter) : c.raise.value = (c.value + 1) % UInt32.size :=
  UInt32.toNat_add c.word 1

/-- A number that fits is shown as it is. -/
theorem Counts.value_eq (counts : c.Counts events) (fits : events < UInt32.size) :
    c.value = events :=
  counts.trans (Nat.mod_eq_of_lt fits)

theorem counts_zero : (0 : Counter).Counts 0 := rfl

theorem Counts.raise (counts : c.Counts events) : c.raise.Counts (events + 1) := by
  rw [Counts, value_raise, counts, Nat.mod_add_mod]

end Counter

end DeviceHttp
