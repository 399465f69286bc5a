import DeviceHttp.Json.Value
import DeviceHttp.Registry
import DeviceHttp.Request
import DeviceHttp.Segments

/-!
# Looking up parameters

A parameter is found in the query, in a form body, or at the top level of a JSON body. Pairs of a
query or form are `key=value` between ampersands, the first one with the key counts, and its value
is decoded: a plus sign is a space, and a percent sign with two hexadecimal digits is the byte they
name.

A value is put together in a scratch area of fixed size that is used again for every lookup. A
longer value is cut and marked.

## Main definitions

* `Lookup.inQuery`, `Lookup.inForm`, `Lookup.inJson` — a lookup in one place
* `Lookup.anywhere` — a lookup in the three places, in this order
-/

namespace DeviceHttp

/-- Where a value was found. -/
inductive Origin where
  | query
  | form
  | json
deriving DecidableEq, Repr

/-- The name of an origin. -/
def Origin.name : Origin → String
  | query => "Query"
  | form => "Form"
  | json => "Json"

/-- A value that was looked up. -/
structure Found where
  value : Bytes
  origin : Origin
  /-- Whether the value was longer than the scratch area. -/
  cut : Bool
deriving DecidableEq, Repr

namespace Found

/-- The value as text, if it is UTF-8. -/
def text? (found : Found) : Option String := Utf8.decode? found.value

/-- The value and where it was found, as a log shows it. -/
def detailed (found : Found) : String :=
  Text.record "Param" [
    ("value", Text.quoted (Utf8.decodeLossy found.value)),
    ("source", found.origin.name),
    ("truncated", toString found.cut)]

end Found

/-- The scratch area of lookups: the latest value, and whether it was cut. -/
structure Lookup where
  scratch : Bytes := []
  cut : Bool := false
deriving DecidableEq, Repr

namespace Lookup

/-- The size of the scratch area. -/
def capacity : Nat := 127

/-! ## Pairs -/

/-- The first byte that an encoded value stands for, and the rest of the value. A percent sign
without two hexadecimal digits stands for itself. -/
def decodeFirst (b : UInt8) (rest : Bytes) : UInt8 × Bytes :=
  if b = 43 then (32, rest)
  else if b = 37 then
    match rest with
    | high :: low :: after =>
      match Bytes.hexValue? high, Bytes.hexValue? low with
      | some h, some l => (16 * h + l, after)
      | _, _ => (37, rest)
    | _ => (37, rest)
  else (b, rest)

theorem length_decodeFirst_le (b : UInt8) (rest : Bytes) :
    (decodeFirst b rest).2.length ≤ rest.length := by
  unfold decodeFirst
  split
  · simp
  · split
    · split
      · split <;> simp
        omega
      · simp
    · simp

/-- Adds the decoded bytes of a value to the scratch area, until it is full. -/
def pushDecoded (area : Lookup) : Bytes → Lookup
  | [] => area
  | b :: rest =>
    if area.scratch.length < capacity then
      pushDecoded { area with scratch := area.scratch ++ [(decodeFirst b rest).1] }
        (decodeFirst b rest).2
    else { area with cut := true }
termination_by raw => raw.length
decreasing_by
  have := length_decodeFirst_le b rest
  simp only [List.length_cons]
  omega

/-- The raw value of the first pair with a key. Segments without an equals sign are no pairs, and
the empty key has no pair. -/
def pair? (data : Bytes) (key : String) : Option Bytes :=
  if key.isEmpty then none
  else
    (segments (· == 38) data).findSome? fun segment => do
      let (name, value) ← cut? (· == 61) segment
      if name = Utf8.encode key then some value else none

/-- Looks for a pair in a query or a form. -/
def inPairs (area : Lookup) (data : Bytes) (key : String) : Bool × Lookup :=
  match pair? data key with
  | some raw => (true, pushDecoded {} raw)
  | none => (false, area)

/-! ## Bodies -/

/-- Whether a media type is the given one, up to ASCII case. Anything may follow it. -/
def startsMediaType (mediaType contentType : String) : Bool :=
  (Bytes.dropStartIgnoreCase? (Utf8.encode mediaType) (Utf8.encode contentType)).isSome

/-- Whether a request says that its body has a media type. -/
def hasMediaType (request : Request) (mediaType : String) : Bool :=
  request.contentType?.any (startsMediaType mediaType)

/-- The scratch area with as much of a text as fits, cut between characters. -/
def ofText (s : String) : Lookup :=
  let stored : BoundedText capacity := .ofString s
  { scratch := stored.octets, cut := stored.cut }

/-- The scratch area with a value of a JSON text. Strings, numbers and booleans can be looked up,
anything else leaves the area empty. -/
def ofJson : Json.Value → Bool × Lookup
  | .string s => (true, ofText s)
  | .number n => (true, ofText n.text)
  | .bool b => (true, ofText (toString b))
  | .null | .array _ | .object _ => (false, {})

/-! ## Places -/

/-- Whether a key is in one place, and the scratch area after looking there. -/
def fill (area : Lookup) (request : Request) (key : String) : Origin → Bool × Lookup
  | .query => area.inPairs (Utf8.encode request.query) key
  | .form =>
    if hasMediaType request MediaType.urlEncodedForm then area.inPairs request.body key
    else (false, area)
  | .json =>
    if hasMediaType request MediaType.json then
      match (Json.Value.parse? request.body).bind (·.field? key) with
      | some value => ofJson value
      | none => (false, area)
    else (false, area)

/-- Looks up a key in one place. -/
def inPlace (area : Lookup) (request : Request) (key : String) (origin : Origin) :
    Option Found × Lookup :=
  match area.fill request key origin with
  | (true, area) => (some ⟨area.scratch, origin, area.cut⟩, area)
  | (false, area) => (none, area)

/-- Looks up a key in the query. -/
def inQuery (area : Lookup) (request : Request) (key : String) : Option Found × Lookup :=
  area.inPlace request key .query

/-- Looks up a key in a form body. -/
def inForm (area : Lookup) (request : Request) (key : String) : Option Found × Lookup :=
  area.inPlace request key .form

/-- Looks up a key at the top level of a JSON body. -/
def inJson (area : Lookup) (request : Request) (key : String) : Option Found × Lookup :=
  area.inPlace request key .json

/-- Looks up a key in several places in order, up to the first one that has it. -/
def inPlaces (area : Lookup) (request : Request) (key : String) :
    List Origin → Option Found × Lookup
  | [] => (none, area)
  | origin :: others =>
    match area.inPlace request key origin with
    | (some found, area) => (some found, area)
    | (none, area) => area.inPlaces request key others

/-- Looks up a key in the query, then in a form body, then in a JSON body. -/
def anywhere (area : Lookup) (request : Request) (key : String) : Option Found × Lookup :=
  area.inPlaces request key [.query, .form, .json]

end Lookup

end DeviceHttp
