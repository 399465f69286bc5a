/-!
# The device around a server

A device knows the network link, keeps the watchdog and pauses. It is described by what it will find
about the link, and records the rest.
-/

namespace DeviceHttp

/-- The device around a server. -/
structure Device where
  /-- The name in reports. -/
  name : String := "Device"
  /-- What successive checks find, true if the link is up. After the last one it is up. -/
  links : List Bool := []
  /-- How often the watchdog was kept from acting. -/
  ticks : Nat := 0
  /-- The pauses so far, in milliseconds. -/
  delays : List Nat := []
deriving DecidableEq, Repr

namespace Device

/-- A process of an operating system, whose link is always up. -/
def host : Device where
  name := "Host"

/-- Whether the link is up, and the device after the check. -/
def checkLink (d : Device) : Bool × Device :=
  (d.links.headD true, { d with links := d.links.drop 1 })

/-- Keeps the watchdog from acting. -/
def tick (d : Device) : Device := { d with ticks := d.ticks + 1 }

/-- Pauses for some milliseconds. -/
def delay (d : Device) (milliseconds : Nat) : Device :=
  { d with delays := d.delays ++ [milliseconds] }

end Device

end DeviceHttp
