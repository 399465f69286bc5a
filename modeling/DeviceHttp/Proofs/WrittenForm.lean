import DeviceHttp.Proofs.WrittenPart

/-!
# Reading a form that was written

`Form` is a multipart form as a peer composes it: a content type that announces the boundary, and
parts whose data does not contain a CRLF, two hyphens and the boundary. `Form.body` is how it is
written on the wire. **Reading what was written gives back the parts, in their order**
(`Form.parts_body`).

The induction is on the parts. What it carries is the place between two parts: `Boundary.behind` is
what follows a delimiter when some parts are still to come, and `PartCursor.next` leads from one
such place to the next (`Boundary.next_cursor_cons`). Two searches decide where that is.

* The header lines are not empty, so the first empty line is the one behind them.
* The delimiter behind the data is the first one: the data contains none, and none can begin within
  the data and end behind it, because only its first byte is a carriage return.
-/

namespace DeviceHttp

/-! ## The parts from a place on -/

namespace PartCursor

variable {cursor : PartCursor}

theorem toList_of_none (h : cursor.next = none) : cursor.toList = [] := by
  rw [toList]
  split
  next => rfl
  next part after eq => rw [h] at eq; cases eq

theorem toList_of_some {part : Part} {after : PartCursor} (h : cursor.next = some (part, after)) :
    cursor.toList = part :: after.toList := by
  rw [toList]
  split
  next eq => rw [h] at eq; cases eq
  next part' after' eq =>
    rw [h] at eq
    cases eq
    rfl

/-- A step reads the part between a delimiter and the next one, if the delimiter does not close the
body and the header lines of the part end. -/
theorem next_eq_some {delimiter rest headers tail data : Bytes} {after : Option Bytes}
    (goesOn : startsWith (Utf8.encode "--") rest = false)
    (ended : splitHeaders? rest = some (headers, tail))
    (found : splitData delimiter tail = (data, after)) :
    next ⟨delimiter, some rest⟩ =
      some (Part.ofHeaders headers (trimNewlines data), ⟨delimiter, after⟩) := by
  simp [next, goesOn, ended, found]

end PartCursor

/-- A line that is not empty does not start with a line ending. -/
theorem Bytes.dropStart?_crlf_append {l : Bytes} (nonempty : l ≠ []) (plain : 13 ∉ l)
    (rest : Bytes) : dropStart? crlf (l ++ rest) = none := by
  obtain ⟨x, l, rfl⟩ := List.exists_cons_of_ne_nil nonempty
  exact if_neg fun eq => plain (List.mem_cons.2 (.inl eq))

/-- Header lines end at the first empty line, and what follows it is not read. -/
theorem PartCursor.splitHeaders?_unlines {l : Bytes} {ls : List Bytes}
    (plain : ∀ k ∈ l :: ls, k ≠ [] ∧ 13 ∉ k) (tail : Bytes) :
    splitHeaders? (Bytes.crlf ++ (Bytes.unlines (l :: ls) ++ (Bytes.crlf ++ tail))) =
      some (Bytes.crlf.intercalate (l :: ls), tail) := by
  have notEmpty :
      dropStart? Bytes.crlf (Bytes.unlines (l :: ls) ++ (Bytes.crlf ++ tail)) = none := by
    obtain ⟨nonempty, absent⟩ := plain l List.mem_cons_self
    rw [Bytes.unlines_cons, List.append_assoc]
    exact Bytes.dropStart?_crlf_append nonempty absent _
  have found := Bytes.indexOf?_intercalate_append plain tail
  -- the last of the lines is ended, and so the second line ending makes the empty line
  rw [Bytes.unlines_eq_intercalate_append, List.append_assoc] at notEmpty ⊢
  rw [splitHeaders?, dropStart?_append]
  simp only [Option.getD_some, notEmpty, found, Option.map_some]
  rw [List.take_left, List.drop_length_add_append]
  rfl

/-! ## Delimiters -/

namespace Multipart.Boundary

variable (b : Boundary)

/-- Two hyphens and the boundary, which open a part. -/
def opening : Bytes := Utf8.encode "--" ++ Utf8.encode b.text

/-- An opening on a line of its own. -/
def delimiter : Bytes := Bytes.crlf ++ b.opening

theorem notMem_opening : 13 ∉ b.opening := by
  have hyphens : 13 ∉ Utf8.encode "--" := by decide
  have inText : '\r' ∉ b.text.toList := by
    rw [text, String.toList_ofList]
    exact fun mem => absurd (b.isBoundaryChar_of_mem mem).1 (by decide)
  intro mem
  rcases List.mem_append.1 mem with inHyphens | inBoundary
  · exact hyphens inHyphens
  · exact absurd inBoundary (Utf8.notMem_encodeChars inText)

/-- A delimiter is found behind data that contains none. -/
theorem indexOf?_delimiter {data : Bytes} (apart : ¬ b.delimiter <:+: data) (rest : Bytes) :
    Bytes.indexOf? b.delimiter (data ++ (b.delimiter ++ rest)) = some data.length := by
  refine Bytes.indexOf?_append_needle (fun mem => ?_) apart rest
  rcases List.mem_cons.1 mem with lineFeed | mem
  · cases lineFeed
  · exact b.notMem_opening mem

end Multipart.Boundary

/-- A part on the wire: its opening, its header lines, an empty line, and its data. -/
def FormPart.bytes (b : Multipart.Boundary) (p : FormPart) : Bytes :=
  b.opening ++ (Bytes.crlf ++
    (Bytes.unlines p.headerLines ++ (Bytes.crlf ++ (p.data ++ Bytes.crlf))))

namespace Multipart.Boundary

variable (b : Boundary)

/-- What follows a delimiter when the given parts are still to come. -/
def behind : List FormPart → Bytes
  | [] => Utf8.encode "--"
  | p :: ps => Bytes.crlf ++
      (Bytes.unlines p.headerLines ++ (Bytes.crlf ++ (p.data ++ (b.delimiter ++ behind ps))))

/-- The place from which the given parts are read. -/
def cursor (ps : List FormPart) : PartCursor := ⟨b.delimiter, some (b.behind ps)⟩

/-- The parts on the wire are an opening and what follows a delimiter. The line ending behind the
data of a part belongs to the next delimiter. -/
theorem flatMap_bytes_append (ps : List FormPart) :
    ps.flatMap (FormPart.bytes b) ++ (b.opening ++ Utf8.encode "--") =
      b.opening ++ b.behind ps := by
  induction ps with
  | nil => rfl
  | cons p ps ih =>
    rw [List.flatMap_cons, List.append_assoc, ih]
    simp only [FormPart.bytes, behind, delimiter, List.append_assoc]

theorem start_append (ps : List FormPart) :
    PartCursor.start (b.opening ++ b.behind ps) b.text = b.cursor ps := by
  have here : Bytes.indexOf? b.opening (b.opening ++ b.behind ps) = some 0 :=
    Bytes.indexOf?_cons_of_startsWith (List.cons_ne_nil _ _) (startsWith_iff.2 ⟨_, rfl⟩)
  rw [PartCursor.start]
  show PartCursor.mk _ ((Bytes.indexOf? b.opening (b.opening ++ b.behind ps)).map fun i =>
    (b.opening ++ b.behind ps).drop (i + b.opening.length)) = _
  rw [here, Option.map_some, Nat.zero_add, List.drop_left]
  rfl

/-- Two hyphens end the form. -/
theorem next_cursor_nil : (b.cursor []).next = none := rfl

/-- **One step reads one part**, and leads to the place behind the next delimiter. -/
theorem next_cursor_cons {p : FormPart} (apart : ¬ b.delimiter <:+: p.data) (ps : List FormPart) :
    (b.cursor (p :: ps)).next = some (p.decoded, b.cursor ps) := by
  have goesOn : startsWith (Utf8.encode "--") (b.behind (p :: ps)) = false := rfl
  have data : PartCursor.splitData b.delimiter (p.data ++ (b.delimiter ++ b.behind ps)) =
      (p.data, some (b.behind ps)) := by
    rw [PartCursor.splitData, b.indexOf?_delimiter apart]
    show (List.take p.data.length _, some (List.drop (p.data.length + b.delimiter.length) _)) = _
    rw [List.take_left, List.drop_length_add_append, List.drop_left]
  have headers : PartCursor.splitHeaders? (b.behind (p :: ps)) =
      some (Bytes.crlf.intercalate p.headerLines, p.data ++ (b.delimiter ++ b.behind ps)) :=
    PartCursor.splitHeaders?_unlines p.headerLines_plain _
  have step := PartCursor.next_eq_some goesOn headers data
  rw [p.ofHeaders_headerLines] at step
  exact step

/-- All parts are read, in their order. -/
theorem toList_cursor {ps : List FormPart} (apart : ∀ p ∈ ps, ¬ b.delimiter <:+: p.data) :
    (b.cursor ps).toList = ps.map FormPart.decoded := by
  induction ps with
  | nil => exact PartCursor.toList_of_none b.next_cursor_nil
  | cons p ps ih =>
    have step := b.next_cursor_cons (apart p List.mem_cons_self) ps
    rw [PartCursor.toList_of_some step, ih fun q mem => apart q (List.mem_cons_of_mem p mem)]
    rfl

end Multipart.Boundary

/-! ## The whole form -/

/-- A form as a peer composes it. -/
structure Form where
  /-- The content type, which announces the boundary. -/
  announcement : Multipart.Announcement
  parts : List FormPart
  /-- No data contains a delimiter. -/
  apart : ∀ p ∈ parts, ¬ announcement.boundary.delimiter <:+: p.data := by decide

namespace Form

variable (f : Form)

/-- The form on the wire: its parts, and an opening followed by two hyphens. -/
def body : Bytes :=
  f.parts.flatMap (FormPart.bytes f.announcement.boundary) ++
    (f.announcement.boundary.opening ++ Utf8.encode "--")

theorem parts_eq {r : Request} (announced : r.contentType? = some f.announcement.text)
    (sent : r.body = f.body) : Multipart.parts r = f.parts.map FormPart.decoded := by
  rw [Multipart.parts, announced, Option.bind_some, f.announcement.boundary?_text]
  show (PartCursor.start r.body f.announcement.boundary.text).toList = _
  rw [sent, body, Multipart.Boundary.flatMap_bytes_append, Multipart.Boundary.start_append,
    Multipart.Boundary.toList_cursor _ f.apart]

/-- A part is looked up by the name that was written. -/
theorem find?_map_decoded (parts : List FormPart) (name : String) :
    (parts.map FormPart.decoded).find? (·.name == name) =
      (parts.find? (·.name == name)).map FormPart.decoded := by
  rw [List.find?_map]
  rfl

/-- **Reading a form that was written gives back its parts**, one for one and in their order, and a
name gives the first part that carries it. -/
theorem parts_body {r : Request} (announced : r.contentType? = some f.announcement.text)
    (sent : r.body = f.body) :
    Multipart.parts r = f.parts.map FormPart.decoded ∧
      ∀ name, name ≠ "" →
        Multipart.file? r name = (f.parts.find? (·.name == name)).map FormPart.decoded := by
  refine ⟨f.parts_eq announced sent, fun name nonempty => ?_⟩
  rw [Multipart.file?, String.isEmpty_eq_false_iff.2 nonempty, f.parts_eq announced sent,
    find?_map_decoded]
  rfl

/-- A form full of lookalikes: a boundary that starts with a hyphen, data that holds the delimiter
but for its last byte, and a name with a parameter in it. -/
def lookalike : Form where
  announcement := {
    boundary := { chars := ['-', 'x'] }
    quoted := true
    mediaType := "Multipart/Form-Data".toList
    name := "BOUNDARY".toList
    aroundMediaType := { after := [' '] }
    aroundName := { before := [' '] }
    earlier := ["charset=utf-8".toList] }
  parts := [
    { name := "a; filename=b", contentType := some " text/plain"
      data := [13, 10, 45, 45, 45, 13, 10] },
    { name := "a", filename := some "c", data := [] }]

/-- A request with that form. -/
def lookalikeRequest : Request where
  bytes := []
  line := ⟨.empty, .empty, .empty, 1, 1⟩
  headerBlock := Utf8.encode "Content-Type: " ++
    (Utf8.encode lookalike.announcement.text ++ (Bytes.crlf ++ Bytes.crlf))
  body := lookalike.body
  contentLength := 0

theorem parts_body_lookalike :
    (lookalikeRequest.contentType? = some lookalike.announcement.text ∧
      lookalikeRequest.body = lookalike.body) ∧
    Multipart.parts lookalikeRequest = lookalike.parts.map FormPart.decoded ∧
      ∀ name, name ≠ "" → Multipart.file? lookalikeRequest name =
        (lookalike.parts.find? (·.name == name)).map FormPart.decoded :=
  ⟨⟨rfl, rfl⟩, lookalike.parts_body rfl rfl⟩

end Form

end DeviceHttp
