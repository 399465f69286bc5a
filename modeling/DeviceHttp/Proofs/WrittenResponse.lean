import DeviceHttp.Proofs.HeaderLookup
import DeviceHttp.Proofs.Numerals
import DeviceHttp.Proofs.Transmission

/-!
# Reading a response that was written

A response is framed in the way that requests are read: its header block ends at the first empty
line, and the first Content-Length that it holds is that of its body. So what reads requests finds
the header block, the body and the two fixed fields of a response.

## Main statements

* `Exchange.readsBack_of_send` — a response that was sent is read back, whatever its texts are, as
  long as each of them stays on its line

The extra header lines come from the handler. They may name any field, also one of the fixed ones.
They stand behind the fixed ones and so do not hide them, because the first field with a name is the
one that is found.

## How

The head is the status line and the header lines, each with its CRLF, and an empty line
(`Response.headerText_eq`, and in bytes `Response.message_eq`). No line is empty and no line holds a
carriage return, so `Bytes.indexOf?_intercalate_append` gives the end of the head and
`Bytes.lines_unlines_append` its lines.
-/

namespace DeviceHttp

/-- Text that stays on its line. -/
abbrev IsLine (s : String) : Prop := Avoids ['\r', '\n'] s.toList

theorem notMem_encode_of_isLine {s : String} (h : IsLine s) : 13 ∉ Utf8.encode s :=
  have noReturn : '\r' ∉ s.toList := h.notMem List.mem_cons_self
  Utf8.notMem_encodeChars noReturn

theorem avoids_encode_of_isLine {s : String} (h : IsLine s) : Avoids [13, 10] (Utf8.encode s) := by
  have noLineFeed : '\n' ∉ s.toList := h.notMem (List.mem_cons_of_mem _ List.mem_cons_self)
  intro b mem marks
  simp only [List.mem_cons, List.not_mem_nil, or_false] at marks
  rcases marks with rfl | rfl
  · exact notMem_encode_of_isLine h mem
  · exact absurd mem (Utf8.notMem_encodeChars noLineFeed)

/-- A field whose value is a text. -/
def HeaderField.ofText (name value : String) (isLine : IsLine value)
    (name_ne_nil : Utf8.encode name ≠ [] := by decide)
    (name_plain : Avoids [58, 13, 10] (Utf8.encode name) := by decide) : HeaderField where
  name := Utf8.encode name
  value := Utf8.encode value
  name_ne_nil := name_ne_nil
  name_plain := name_plain
  value_plain := avoids_encode_of_isLine isLine

namespace Header

/-- The header block behind the first line of a message. -/
def ofMessage? (b : Bytes) : Option Bytes := do
  let stop ← blockEnd? b
  let lineEnd ← Bytes.indexOf? Bytes.crlf (b.take stop)
  return (b.take stop).drop (lineEnd + 2)

/-- The lines behind the first one make the header block. -/
theorem ofMessage?_unlines_append {l : Bytes} {ls : List Bytes}
    (plain : ∀ k ∈ l :: ls, k ≠ [] ∧ 13 ∉ k) (rest : Bytes) :
    ofMessage? (Bytes.unlines (l :: ls) ++ Bytes.crlf ++ rest) =
      some (Bytes.unlines ls ++ Bytes.crlf) := by
  have first := Bytes.indexOf?_crlf_line (plain l List.mem_cons_self).2
    (Bytes.unlines ls ++ Bytes.crlf)
  have head : Bytes.unlines (l :: ls) ++ Bytes.crlf =
      l ++ (Bytes.crlf ++ (Bytes.unlines ls ++ Bytes.crlf)) := by
    rw [Bytes.unlines_cons, List.append_assoc, List.append_assoc]
  rw [ofMessage?, blockEnd?_unlines_append plain, head]
  simp only [Option.bind_eq_bind, Option.bind_some, List.take_left, first]
  show some _ = _
  rw [List.drop_length_add_append]
  rfl

/-- The first two lines of a block are looked at before the others. -/
theorem find?_of_lines {block first second : Bytes} {others : List Bytes}
    (lines : Bytes.lines block = first :: second :: others) (name : String) :
    find? block name = (valueOn? name first).or
      ((valueOn? name second).or (others.findSome? (valueOn? name))) := by
  rw [find?, lines, List.findSome?_cons, List.findSome?_cons]
  cases valueOn? name first <;> cases valueOn? name second <;> rfl

end Header

namespace Response

/-- Lines with their line endings. -/
def terminated (lines : List String) : String := String.join (lines.map (· ++ "\r\n"))

/-- A response whose texts stay on their lines, with its extra header lines. -/
structure InLines (r : Response) (extra : List String) : Prop where
  reason : IsLine r.reason
  contentType : IsLine r.contentType
  lines : ∀ line ∈ extra, line ≠ "" ∧ IsLine line
  extraHeaders : r.extraHeaders = terminated extra

/-- The first line of a response. -/
def statusLine (r : Response) : String := "HTTP/1.1 " ++ toString r.status ++ " " ++ r.reason

/-- The lines between the status line and the empty line. -/
def headerLines (r : Response) (extra : List String) : List String :=
  ["Content-Type: " ++ r.contentType, "Content-Length: " ++ toString r.body.length] ++ extra ++
    ["Connection: close"]

/-- What the reader of requests makes of the bytes of a response. -/
structure ReadsBack (r : Response) (extra : List String) (w : Bytes) : Prop where
  blockEnd : Header.blockEnd? w = some (w.length - r.body.length)
  body : w.drop (w.length - r.body.length) = r.body
  /-- The header lines stand in order behind the status line, then an empty line ends the block. -/
  lines : (Header.ofMessage? w).map Bytes.lines =
    some ((r.headerLines extra).map Utf8.encode ++ [[], []])
  contentType : (Header.ofMessage? w).bind (Header.find? · "content-type") =
    some (Bytes.dropBlanks (Utf8.encode r.contentType))
  contentLength : ((Header.ofMessage? w).bind (Header.find? · "content-length")).map
    Header.contentLength = some r.body.length

variable {r : Response} {extra : List String}

/-! ## The head in lines -/

theorem encode_terminated (lines : List String) :
    Utf8.encode (terminated lines) = Bytes.unlines (lines.map Utf8.encode) := by
  have crlf : Utf8.encode "\r\n" = Bytes.crlf := by decide
  induction lines with
  | nil => rfl
  | cons line lines ih =>
    have first : terminated (line :: lines) = line ++ ("\r\n" ++ terminated lines) :=
      String.join_cons.trans (String.append_assoc ..)
    have ending : Utf8.encode ("\r\n" ++ terminated lines) =
        Bytes.crlf ++ Bytes.unlines (lines.map Utf8.encode) := by
      rw [← ih, ← crlf]
      exact Utf8.encode_append _ _
    rw [first, Utf8.encode_append, ending, List.map_cons, Bytes.unlines_cons]

/-- A header is its lines and an empty line. -/
theorem headerText_eq (inLines : r.InLines extra) :
    r.headerText = terminated (r.statusLine :: r.headerLines extra) ++ "\r\n" := by
  have pieces : r.headerText =
      r.statusLine ++ "\r\nContent-Type: " ++ r.contentType ++ "\r\nContent-Length: " ++
        toString r.body.length ++ "\r\n" ++ r.extraHeaders ++ "Connection: close\r\n\r\n" := rfl
  have type : "\r\nContent-Type: " = "\r\n" ++ "Content-Type: " := by decide
  have length : "\r\nContent-Length: " = "\r\n" ++ "Content-Length: " := by decide
  have close : "Connection: close\r\n\r\n" = "Connection: close" ++ "\r\n" ++ "\r\n" := by decide
  have lines : terminated (r.statusLine :: r.headerLines extra) =
      r.statusLine ++ "\r\n" ++ ("Content-Type: " ++ r.contentType ++ "\r\n" ++
        ("Content-Length: " ++ toString r.body.length ++ "\r\n" ++
          (terminated extra ++ ("Connection: close" ++ "\r\n")))) := by
    rw [terminated, terminated, headerLines]
    simp only [List.map_cons, List.map_append, List.cons_append, List.nil_append, List.map_nil,
      String.join_cons, String.join_append, String.join_nil, String.append_empty]
  rw [pieces, lines, inLines.extraHeaders, type, length, close]
  simp only [String.append_assoc]

/-- The bytes of a response are its lines, an empty line and the body. -/
theorem message_eq (inLines : r.InLines extra) :
    r.message = Bytes.unlines ((r.statusLine :: r.headerLines extra).map Utf8.encode) ++
      Bytes.crlf ++ r.body := by
  have crlf : Utf8.encode "\r\n" = Bytes.crlf := by decide
  have ending (s : String) : Utf8.encode (s ++ "\r\n") = Utf8.encode s ++ Bytes.crlf :=
    (Utf8.encode_append s _).trans (congrArg _ crlf)
  rw [message, headerText_eq inLines, ending, encode_terminated]

theorem isLine_append {s t : String} (left : IsLine s) (right : IsLine t) : IsLine (s ++ t) := by
  intro c mem
  rw [String.toList_append, List.mem_append] at mem
  exact mem.elim (left c) (right c)

theorem isLine_toString (n : Nat) : IsLine (toString n) := by
  intro c mem marks
  have digit := isDigit_of_mem_toString mem
  simp only [List.mem_cons, List.not_mem_nil, or_false] at marks
  rcases marks with rfl | rfl <;> exact absurd digit (by decide)

/-- A line with a fixed beginning is not empty. -/
theorem plain_append {s t : String} (nonempty : s ≠ "") (left : IsLine s) (right : IsLine t) :
    s ++ t ≠ "" ∧ IsLine (s ++ t) :=
  ⟨fun empty => nonempty (String.append_eq_empty_iff.1 empty).1, isLine_append left right⟩

/-- Every line of a head stays on its line and is not empty. -/
theorem plain_lines (inLines : r.InLines extra) :
    ∀ line ∈ r.statusLine :: r.headerLines extra, line ≠ "" ∧ IsLine line := by
  have status : r.statusLine ≠ "" ∧ IsLine r.statusLine := by
    have version := plain_append (s := "HTTP/1.1 ") (by decide) (by decide)
      (isLine_toString r.status)
    have space := plain_append (t := " ") version.1 version.2 (by decide)
    exact plain_append space.1 space.2 inLines.reason
  have type := plain_append (s := "Content-Type: ") (by decide) (by decide) inLines.contentType
  have length := plain_append (s := "Content-Length: ") (by decide) (by decide)
    (isLine_toString r.body.length)
  have close : "Connection: close" ≠ "" ∧ IsLine "Connection: close" := ⟨by decide, by decide⟩
  intro line mem
  simp only [headerLines, List.mem_cons, List.mem_append, List.not_mem_nil, or_false] at mem
  rcases mem with rfl | ((rfl | rfl) | mem) | rfl
  · exact status
  · exact type
  · exact length
  · exact inLines.lines line mem
  · exact close

theorem plain_encode_lines (inLines : r.InLines extra) :
    ∀ line ∈ (r.statusLine :: r.headerLines extra).map Utf8.encode, line ≠ [] ∧ 13 ∉ line := by
  intro line mem
  obtain ⟨text, inside, rfl⟩ := List.mem_map.1 mem
  obtain ⟨nonempty, isLine⟩ := plain_lines inLines text inside
  exact ⟨fun nil => nonempty (Utf8.encode_injective nil), notMem_encode_of_isLine isLine⟩

/-! ## What is found -/

/-- The two fixed fields are found under their names, the second one because the first one has
another name. -/
theorem valueOn?_fixed (inLines : r.InLines extra) :
    Header.valueOn? "content-type" (Utf8.encode ("Content-Type: " ++ r.contentType)) =
        some (Bytes.dropBlanks (Utf8.encode r.contentType)) ∧
      Header.valueOn? "content-length" (Utf8.encode ("Content-Type: " ++ r.contentType)) = none ∧
        Header.valueOn? "content-length"
            (Utf8.encode ("Content-Length: " ++ toString r.body.length)) =
          some (Bytes.dropBlanks (Utf8.encode (toString r.body.length))) := by
  let type := HeaderField.ofText "Content-Type" r.contentType inLines.contentType
  let length := HeaderField.ofText "Content-Length" (toString r.body.length) (isLine_toString _)
  have typeLine : Utf8.encode ("Content-Type: " ++ r.contentType) = type.line :=
    Utf8.encode_append _ _
  have lengthLine : Utf8.encode ("Content-Length: " ++ toString r.body.length) = length.line :=
    Utf8.encode_append _ _
  have isType : type.isNamed "content-type" = true :=
    (by decide : ((Utf8.encode "Content-Type").map Bytes.lowerAscii ==
      (Utf8.encode "content-type").map Bytes.lowerAscii) = true)
  have notLength : type.isNamed "content-length" = false :=
    (by decide : ((Utf8.encode "Content-Type").map Bytes.lowerAscii ==
      (Utf8.encode "content-length").map Bytes.lowerAscii) = false)
  have isLength : length.isNamed "content-length" = true :=
    (by decide : ((Utf8.encode "Content-Length").map Bytes.lowerAscii ==
      (Utf8.encode "content-length").map Bytes.lowerAscii) = true)
  rw [typeLine, lengthLine, Header.valueOn?_line (by decide), Header.valueOn?_line (by decide),
    Header.valueOn?_line (by decide), isType, notLength, isLength]
  exact ⟨rfl, rfl, rfl⟩

/-- The bytes of a response are read back. -/
theorem readsBack_message (inLines : r.InLines extra) (machine : r.body.length ≤ maxLength) :
    r.ReadsBack extra r.message := by
  have plain := plain_encode_lines inLines
  have whole := message_eq inLines
  rw [List.map_cons] at plain whole
  have stop := Header.blockEnd?_unlines_append plain r.body
  have block := Header.ofMessage?_unlines_append plain r.body
  rw [← whole] at stop block
  have length : r.message.length - r.body.length =
      (Bytes.unlines (Utf8.encode r.statusLine :: (r.headerLines extra).map Utf8.encode) ++
        Bytes.crlf).length := by
    rw [whole, List.length_append, Nat.add_sub_cancel]
  have lines : Bytes.lines
      (Bytes.unlines ((r.headerLines extra).map Utf8.encode) ++ Bytes.crlf) =
        (r.headerLines extra).map Utf8.encode ++ [[], []] :=
    Bytes.lines_unlines_append (fun l mem => (plain l (List.mem_cons_of_mem _ mem)).2) Bytes.crlf
  have fixed : (r.headerLines extra).map Utf8.encode ++ [[], []] =
      Utf8.encode ("Content-Type: " ++ r.contentType) ::
        Utf8.encode ("Content-Length: " ++ toString r.body.length) ::
          ((extra ++ ["Connection: close"]).map Utf8.encode ++ [[], []]) := rfl
  have found (name : String) := Header.find?_of_lines (lines.trans fixed) name
  obtain ⟨type, notLength, announced⟩ := valueOn?_fixed inLines
  have readType := found "content-type"
  have readLength := found "content-length"
  rw [type, Option.some_or] at readType
  rw [notLength, announced, Option.none_or, Option.some_or] at readLength
  exact {
    blockEnd := stop.trans (congrArg some length.symm)
    body := by rw [length, whole, List.drop_left]
    lines := by rw [block, Option.map_some, lines]
    contentType := by
      rw [block]
      exact readType
    contentLength := by
      rw [block, Option.bind_some, readLength, Option.map_some, Header.contentLength,
        Bytes.dropBlanks_dropBlanks]
      exact congrArg some (Header.contentLength_toString machine) }

end Response

namespace Exchange

variable {x : Exchange} {r : Response} {extra : List String}

/-- A response that was sent has reached the peer as a whole. -/
theorem written_of_send (sent : (x.send r).1 = .ok ()) :
    (x.send r).2.connection.written = x.connection.written ++ r.message := by
  cases answered : x.answered with
  | true =>
    rw [send_of_answered answered] at sent
    cases sent
  | false =>
    by_cases ends : r.ExtraHeadersEnd
    · exact (sends_send answered ends).accepted.complete sent
    · rw [send_of_open_extraHeaders answered ends] at sent
      cases sent

/-- **A response that was sent is read back.** The bound is that of a machine, whose sequences have
no more bytes. -/
theorem readsBack_of_send (inLines : r.InLines extra) (machine : r.body.length ≤ maxLength)
    (sent : (x.send r).1 = .ok ()) :
    ∃ w, (x.send r).2.connection.written = x.connection.written ++ w ∧ r.ReadsBack extra w :=
  ⟨r.message, written_of_send sent, Response.readsBack_message inLines machine⟩

/-- A response whose content type starts with blanks, whose extra header lines announce another
length and whose body looks like the end of a header block. It is written three bytes at a time. -/
theorem readsBack_of_second_length :
    let x : Exchange := .opened { maxWrite := some 3 } (.new 128)
    let extra := ["Content-Length: 99", "X"]
    let r : Response := {
      status := 299
      reason := ""
      contentType := " \ta/b"
      body := Utf8.encode "\r\n\r\n"
      extraHeaders := "Content-Length: 99\r\nX\r\n" }
    r.InLines extra ∧ r.body.length ≤ maxLength ∧ (x.send r).1 = .ok () ∧
      ∃ w, (x.send r).2.connection.written = x.connection.written ++ w ∧ r.ReadsBack extra w := by
  intro x extra r
  have inLines : r.InLines extra := {
    reason := by decide
    contentType := by decide
    lines := by decide
    extraHeaders := by decide }
  have machine : r.body.length ≤ maxLength := by decide
  have sent : (x.send r).1 = .ok () := by decide +kernel
  exact ⟨inLines, machine, sent, readsBack_of_send inLines machine sent⟩

end Exchange

end DeviceHttp
