import DeviceHttp.Multipart.Boundary
import DeviceHttp.Multipart.Part
import DeviceHttp.Request

/-!
# Multipart bodies

A body of the media type `multipart/form-data` is a sequence of parts. Each part follows a
delimiter, two hyphens and the boundary, and has header lines of its own, an empty line and data.
Two hyphens after a delimiter close the body.

The first delimiter may stand anywhere; every further one follows a CRLF, which belongs to it. All
carriage returns and line feeds at the end of the data are dropped.

## Main definitions

* `PartCursor.next` — the next part and the place after it
* `Multipart.parts`, `Multipart.file?` — all parts of a request, and the first one with a name
-/

namespace DeviceHttp

/-- A place between the parts of a body. -/
structure PartCursor where
  /-- What separates parts: a CRLF, two hyphens and the boundary. -/
  delimiter : Bytes
  /-- What follows the delimiter that was found last, `none` at the end. -/
  rest : Option Bytes

namespace PartCursor

/-- The place after the first delimiter, which needs no CRLF. -/
def start (body : Bytes) (boundary : String) : PartCursor :=
  let opening := Utf8.encode "--" ++ Utf8.encode boundary
  { delimiter := Bytes.crlf ++ opening
    rest := (Bytes.indexOf? opening body).map fun i => body.drop (i + opening.length) }

/-- The place after which there is nothing. -/
def finished (delimiter : Bytes) : PartCursor := ⟨delimiter, none⟩

/-- The header lines of a part and what follows the empty line after them, given what follows the
delimiter. -/
def splitHeaders? (b : Bytes) : Option (Bytes × Bytes) :=
  let b := (dropStart? Bytes.crlf b).getD b
  match dropStart? Bytes.crlf b with
  | some data => some ([], data)
  | none =>
    (Bytes.indexOf? (Bytes.crlf ++ Bytes.crlf) b).map fun i => (b.take i, b.drop (i + 4))

/-- The data without carriage returns and line feeds at its end. -/
def trimNewlines (data : Bytes) : Bytes :=
  dropEndWhile (fun b => b = 13 || b = 10) data

/-- The data up to the next delimiter, and what follows that one. -/
def splitData (delimiter tail : Bytes) : Bytes × Option Bytes :=
  match Bytes.indexOf? delimiter tail with
  | some i => (tail.take i, some (tail.drop (i + delimiter.length)))
  | none => (tail, none)

/-- The next part and the place after it. -/
def next (cursor : PartCursor) : Option (Part × PartCursor) := do
  let rest ← cursor.rest
  if startsWith (Utf8.encode "--") rest then none
  else
    let (headers, tail) ← splitHeaders? rest
    let (data, after) := splitData cursor.delimiter tail
    return (Part.ofHeaders headers (trimNewlines data), { cursor with rest := after })

/-- A bound on the number of parts that follow. -/
def weight (cursor : PartCursor) : Nat := (cursor.rest.map fun b => b.length + 1).getD 0

/-- What follows the header lines is shorter than what follows the delimiter. -/
theorem length_splitHeaders?_lt {b headers tail : Bytes}
    (h : splitHeaders? b = some (headers, tail)) : tail.length < b.length := by
  have shorter : ((dropStart? Bytes.crlf b).getD b).length ≤ b.length := by
    cases eq : dropStart? Bytes.crlf b with
    | none => simp
    | some c => simp [dropStart?_eq_some_iff.1 eq]
  simp only [splitHeaders?] at h
  split at h
  next data eq =>
    simp only [Option.some.injEq, Prod.mk.injEq] at h
    have len := congrArg List.length (dropStart?_eq_some_iff.1 eq)
    simp only [List.length_append, Bytes.crlf, List.length_cons, List.length_nil] at len
    rw [← h.2]
    simp only [Bytes.crlf] at shorter
    omega
  next =>
    simp only [Option.map_eq_some_iff, Prod.mk.injEq] at h
    obtain ⟨i, found, -, rfl⟩ := h
    have := Bytes.add_length_le_of_indexOf? found
    simp only [List.length_append, Bytes.crlf, List.length_cons, List.length_nil] at this
    simp only [List.length_drop, Bytes.crlf] at shorter ⊢
    omega

theorem length_splitData_le {delimiter tail data after : Bytes}
    (h : splitData delimiter tail = (data, some after)) : after.length ≤ tail.length := by
  unfold splitData at h
  split at h
  · simp only [Prod.mk.injEq, Option.some.injEq] at h
    rw [← h.2]
    simp
  · simp at h

/-- Every part takes some of what is left. -/
theorem weight_next_lt {cursor after : PartCursor} {part : Part}
    (h : cursor.next = some (part, after)) : after.weight < cursor.weight := by
  unfold next at h
  cases eq : cursor.rest with
  | none => simp [eq] at h
  | some rest =>
    simp only [eq, Option.bind_eq_bind, Option.bind_some] at h
    split at h
    · simp at h
    · simp only [Option.bind_eq_some_iff, Prod.exists] at h
      obtain ⟨headers, tail, split, h⟩ := h
      have tail_lt := length_splitHeaders?_lt split
      simp only [Option.pure_def, Option.some.injEq, Prod.mk.injEq] at h
      rw [← h.2]
      simp only [weight, eq, Option.map_some, Option.getD_some]
      cases left : (splitData cursor.delimiter tail).2 with
      | none => simp
      | some b =>
        have := length_splitData_le
          (show splitData cursor.delimiter tail = (_, some b) from Prod.ext rfl left)
        simp only [Option.map_some, Option.getD_some]
        omega

/-- The parts from a place on. -/
def toList (cursor : PartCursor) : List Part :=
  match _next : cursor.next with
  | none => []
  | some (part, after) => part :: after.toList
termination_by cursor.weight
decreasing_by exact weight_next_lt _next

end PartCursor

namespace Multipart

/-- The parts of a request, none if it is not a multipart form with a boundary. -/
def parts (r : Request) : List Part :=
  match r.contentType?.bind boundary? with
  | none => []
  | some boundary => (PartCursor.start r.body boundary).toList

/-- The first part with a name that is not empty. -/
def file? (r : Request) (name : String) : Option Part :=
  if name.isEmpty then none else (parts r).find? fun part => part.name == name

end Multipart

end DeviceHttp
