import DeviceHttp.Fault
import DeviceHttp.Segments
import DeviceHttp.Text.Ascii

/-!
# Socket addresses

An IP address and a port. An address of version 4 is written `a.b.c.d:port`, one of version 6 stands
in brackets, `[v6]:port`, with two colons for a run of groups that are zero. Numbers of version 4
have no leading zeros.
-/

namespace DeviceHttp

/-- An IP address. -/
inductive IpAddress where
  | v4 (a b c d : Nat)
  /-- Eight groups of 16 bits, and a scope, zero without one. -/
  | v6 (groups : List Nat) (scope : Nat)
deriving DecidableEq, Repr

/-- An IP address and a port. -/
structure Address where
  host : IpAddress
  port : Nat
deriving DecidableEq, Repr

namespace Address

/-! ## Writing -/

/-- A group in hexadecimal digits. -/
def groupText (group : Nat) : String := String.ofList (Nat.toDigits 16 group)

/-- The length of the run of zeros at the start. -/
def zerosAtStart (groups : List Nat) : Nat := (groups.takeWhile (· == 0)).length

/-- The start of the longest run of zeros, the first one if there are several, and its length. -/
def longestZeros (groups : List Nat) : Nat × Nat :=
  (List.range groups.length).foldl
    (fun (start, length) i =>
      let here := zerosAtStart (groups.drop i)
      if length < here then (i, here) else (start, length))
    (0, 0)

/-- Groups with colons between them. -/
def groupsText (groups : List Nat) : String := ":".intercalate (groups.map groupText)

/-- Numbers with dots between them. -/
def dotted (numbers : List Nat) : String := ".".intercalate (numbers.map toString)

/-- The groups of an address of version 6. An address that stands for one of version 4 ends as that
is written. -/
def v6Text (groups : List Nat) : String :=
  match groups with
  | [0, 0, 0, 0, 0, 0xFFFF, x, y] => "::ffff:" ++ dotted [x / 256, x % 256, y / 256, y % 256]
  | _ =>
    let (start, length) := longestZeros groups
    if 1 < length then
      groupsText (groups.take start) ++ "::" ++ groupsText (groups.drop (start + length))
    else groupsText groups

/-- The text of an address. -/
def text (address : Address) : String :=
  match address.host with
  | .v4 a b c d => dotted [a, b, c, d] ++ ":" ++ toString address.port
  | .v6 groups scope =>
    "[" ++ v6Text groups ++ (if scope = 0 then "" else "%" ++ toString scope) ++ "]:" ++
      toString address.port

/-! ## Reading -/

/-- The decimal digits at the start of a text, at least one, as a number below `bound`. -/
def readDecimal? (bound : Nat) (cs : List Char) : Option (Nat × List Char) :=
  let digits := cs.takeWhile Text.isDigit
  let n := Text.ofDigits digits
  if digits ≠ [] ∧ n < bound then some (n, cs.drop digits.length) else none

/-- A number from 0 to 255 without leading zeros. -/
def readOctet? (cs : List Char) : Option (Nat × List Char) :=
  let digits := cs.takeWhile Text.isDigit
  if digits.length ≤ 3 ∧ (digits.head? ≠ some '0' ∨ digits.length = 1) then readDecimal? 256 cs
  else none

/-- What follows a given character. -/
def dropChar? (c : Char) : List Char → Option (List Char)
  | d :: cs => if c = d then some cs else none
  | [] => none

/-- The four numbers of an address of version 4. -/
def readV4? (cs : List Char) : Option ((Nat × Nat × Nat × Nat) × List Char) := do
  let (a, cs) ← readOctet? cs
  let (b, cs) ← readOctet? (← dropChar? '.' cs)
  let (c, cs) ← readOctet? (← dropChar? '.' cs)
  let (d, cs) ← readOctet? (← dropChar? '.' cs)
  return ((a, b, c, d), cs)

/-- A group of at most four hexadecimal digits. -/
def readGroup? (cs : List Char) : Option (Nat × List Char) :=
  let digits := (cs.takeWhile fun c => (Text.hexDigit? c).isSome).filterMap Text.hexDigit?
  if digits ≠ [] ∧ digits.length ≤ 4 then
    some (digits.foldl (fun n d => 16 * n + d) 0, cs.drop digits.length)
  else none

/-- Reads up to `limit` groups with colons between them. The last two may be written as an address
of version 4; whether they are is part of the answer. -/
def readGroups : (limit : Nat) → (first : Bool) → List Char → List Nat × Bool × List Char
  | 0, _, cs => ([], false, cs)
  | limit + 1, first, cs =>
    match if first then some cs else dropChar? ':' cs with
    | none => ([], false, cs)
    | some after =>
      match if 0 < limit then readV4? after else none with
      | some ((a, b, c, d), rest) => ([256 * a + b, 256 * c + d], true, rest)
      | none =>
        match readGroup? after with
        | none => ([], false, cs)
        | some (group, rest) =>
          let (groups, endsInV4, rest) := readGroups limit false rest
          (group :: groups, endsInV4, rest)

/-- The eight groups of an address of version 6. Two colons stand for one or more groups that are
zero. -/
def readV6? (cs : List Char) : Option (List Nat × List Char) := do
  let (front, endsInV4, cs) := readGroups 8 true cs
  if front.length = 8 then return (front, cs)
  if endsInV4 then none
  let cs ← dropChar? ':' (← dropChar? ':' cs)
  let (back, _, cs) := readGroups (7 - front.length) true cs
  return (front ++ List.replicate (8 - front.length - back.length) 0 ++ back, cs)

/-- A scope after a percent sign, zero without one. -/
def readScope? : List Char → Option (Nat × List Char)
  | '%' :: cs => readDecimal? UInt32.size cs
  | cs => some (0, cs)

/-- A port after a colon, at the end of the text. -/
def readPort? (cs : List Char) : Option Nat := do
  let (port, rest) ← readDecimal? UInt16.size (← dropChar? ':' cs)
  if rest.isEmpty then some port else none

/-- Reads an address. -/
def parse? (s : String) : Option Address :=
  match s.toList with
  | '[' :: cs => do
    let (groups, cs) ← readV6? cs
    let (scope, cs) ← readScope? cs
    let port ← readPort? (← dropChar? ']' cs)
    return ⟨.v6 groups scope, port⟩
  | cs => do
    let ((a, b, c, d), cs) ← readV4? cs
    let port ← readPort? cs
    return ⟨.v4 a b c d, port⟩

/-- What follows the last colon. -/
def afterLastColon? (cs : List Char) : Option (List Char) :=
  (cut? (· == ':') cs.reverse).map fun (last, _) => last.reverse

/-- The address to listen on that a text names. There is no name service, so a name has no
address. -/
def resolve (s : String) : Except Fault Address :=
  match parse? s with
  | some address => .ok address
  | none =>
    match afterLastColon? s.toList with
    | none => .error (.described .invalidInput "invalid socket address")
    | some port =>
      match Text.unsigned? UInt16.size port with
      | none => .error (.described .invalidInput "invalid port value")
      | some _ => .error (.described .invalidInput "no address")

end Address

end DeviceHttp
