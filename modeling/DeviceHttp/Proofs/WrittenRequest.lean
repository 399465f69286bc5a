import DeviceHttp.Proofs.HeaderLookup
import DeviceHttp.Proofs.WrittenLine
import DeviceHttp.Request

/-!
# Reading a request that was written

`Message` is a request as a peer composes it, and `Message.bytes` is how it is written on the wire.
**Reading what was written gives back every component** (`Message.ofBytes_bytes`): no separator is
looked for in a place where a component could imitate it.

* The header block ends at the first empty line. No line of the head is empty, so this is the one
  behind the last field, and a body with empty lines in it comes too late.
* The request line ends at the first CRLF and holds two spaces. The first question mark belongs to
  the URI and ends the path.
* Header fields are looked up by `Header.find?_writtenBlock`.

A message may announce the length of its body. If it does, the announcement must be honest, because
the reader takes as many bytes as are announced. It may announce in any way that
`Header.contentLength` understands, for instance by a plain numeral
(`Header.contentLength_toString`).
-/

namespace DeviceHttp

/-- Characters that may stand in a token of the request line: all but the space, the carriage return
and the line feed. -/
abbrev IsToken (cs : List Char) : Prop := Avoids [' ', '\r', '\n'] cs

/-- A request as a peer composes it. The bounds are those within which nothing is cut. -/
structure Message where
  method : String
  path : String
  query : Option String
  major : UInt32
  minor : UInt32
  fields : List HeaderField
  body : Bytes
  method_ne_empty : method.toList ≠ [] := by decide
  method_fits : method.utf8ByteSize ≤ 7 := by decide
  path_fits : path.utf8ByteSize ≤ 127 := by decide
  query_fits : (query.getD "").utf8ByteSize ≤ 127 := by decide
  method_isToken : IsToken method.toList := by decide
  path_isToken : IsToken path.toList := by decide
  query_isToken : IsToken (query.getD "").toList := by decide
  /-- The path ends at the first question mark. -/
  path_plain : '?' ∉ path.toList := by decide
  /-- A URI is not empty. -/
  uri_ne_empty : path.toList ≠ [] ∨ query ≠ none := by decide
  /-- The first announcement of a length, if there is one, gives that of the body. -/
  honest : ∀ f, fields.find? (·.isNamed "content-length") = some f →
    Header.contentLength f.value = body.length := by decide

namespace Message

variable (m : Message)

/-- The path, and the query behind a question mark. -/
def uri : List Char :=
  match m.query with
  | none => m.path.toList
  | some query => m.path.toList ++ '?' :: query.toList

/-- `HTTP/major.minor` -/
def version : List Char :=
  "HTTP/".toList ++ ((toString m.major.toNat).toList ++ '.' :: (toString m.minor.toNat).toList)

/-- `METHOD URI HTTP/major.minor` -/
def requestLine : List Char := m.method.toList ++ ' ' :: (m.uri ++ ' ' :: m.version)

/-- The header lines and the empty line after them. -/
def headerBlock : Bytes := Header.writtenBlock m.fields

/-- The message on the wire. -/
def bytes : Bytes := Utf8.encodeChars m.requestLine ++ (Bytes.crlf ++ (m.headerBlock ++ m.body))

/-- The first field with a name. -/
def field? (name : String) : Option HeaderField := m.fields.find? (·.isNamed name)

/-- The announced length: that of the body, if any is announced. -/
def announcedLength : Nat := if (m.field? "content-length").isSome then m.body.length else 0

/-- The request has all components of the message, and none of them is cut. -/
structure IsReadAs (m : Message) (r : Request) : Prop where
  method : r.method = m.method
  path : r.path = m.path
  query : r.query = m.query.getD ""
  version : r.line.major = m.major.toNat ∧ r.line.minor = m.minor.toNat
  whole : r.line.method.cut = false ∧ r.line.path.cut = false ∧ r.line.query.cut = false
  headerBlock : r.headerBlock = m.headerBlock
  body : r.body = m.body
  contentLength : r.contentLength = m.announcedLength
  /-- Under every name, the value of the first such field without the blanks in front. -/
  header : ∀ name : String, ':' ∉ name.toList →
    r.header? name = (m.field? name).bind fun f => Utf8.decode? (Bytes.dropBlanks f.value)

/-! ## The request line -/

theorem isToken_uri : IsToken m.uri := by
  have inQuery := m.query_isToken
  unfold uri
  cases eq : m.query with
  | none => exact m.path_isToken
  | some query =>
    rw [eq] at inQuery
    intro c mem
    simp only [List.mem_append, List.mem_cons] at mem
    rcases mem with inPath | rfl | inQuery'
    · exact m.path_isToken c inPath
    · decide
    · exact inQuery c inQuery'

theorem notMem_version {c : Char} (absent : c ∉ "HTTP/.".toList)
    (noDigit : Text.isDigit c = false) : c ∉ m.version :=
  RequestLine.notMem_versionToken m.major.toNat m.minor.toNat absent noDigit

theorem uri_ne_nil : m.uri ≠ [] := by
  have nonempty := m.uri_ne_empty
  unfold uri
  cases eq : m.query with
  | none => exact nonempty.resolve_right fun absent => absent eq
  | some query => exact fun nil => by cases (List.append_eq_nil_iff.1 nil).2

/-- The line ending does not occur in the request line. -/
theorem notMem_requestLine : 13 ∉ Utf8.encodeChars m.requestLine := by
  have inMethod : '\r' ∉ m.method.toList := m.method_isToken.notMem (by simp)
  have inUri : '\r' ∉ m.uri := m.isToken_uri.notMem (by simp)
  have inVersion : '\r' ∉ m.version := m.notMem_version (by decide) rfl
  have inLine : '\r' ∉ m.requestLine := by simp [requestLine, inMethod, inUri, inVersion]
  exact Utf8.notMem_encodeChars inLine

theorem requestLine_ne_nil : Utf8.encodeChars m.requestLine ≠ [] :=
  Utf8.encodeChars_ne_nil (List.append_ne_nil_of_left_ne_nil m.method_ne_empty _)

/-- The two spaces of the request line make three tokens. -/
theorem tokens_requestLine :
    RequestLine.tokens m.requestLine = [m.method.toList, m.uri, m.version] :=
  RequestLine.tokens_of_parts m.method_ne_empty m.uri_ne_nil (List.cons_ne_nil _ _)
    (m.method_isToken.notMem List.mem_cons_self) (m.isToken_uri.notMem List.mem_cons_self)
    (m.notMem_version (by decide) rfl)

/-- The version token is read back. -/
theorem version?_version :
    RequestLine.version? m.version = some (m.major.toNat, m.minor.toNat) :=
  (RequestLine.version?_versionToken m.major.toNat m.minor.toNat).trans
    (if_pos ⟨m.major.toNat_lt, m.minor.toNat_lt⟩)

/-- The first question mark of the URI is the one behind the path. -/
theorem pathAndQuery_uri :
    RequestLine.pathAndQuery m.uri = (m.path.toList, (m.query.getD "").toList) := by
  have unmarked : ∀ c ∈ m.path.toList, (c == '?') = false := unmarked_of_notMem m.path_plain
  unfold RequestLine.pathAndQuery uri
  cases m.query with
  | none => rw [cut?_eq_none_iff.2 unmarked]; rfl
  | some query => rw [cut?_append_cons unmarked rfl]; rfl

/-- The request line that the message is read as. -/
def readLine : RequestLine where
  method := .ofString m.method
  path := .ofString m.path
  query := .ofString (m.query.getD "")
  major := m.major.toNat
  minor := m.minor.toNat

theorem ofBytes_requestLine :
    RequestLine.ofBytes (Utf8.encodeChars m.requestLine) = .ok m.readLine := by
  have decoded : Utf8.decode? (Utf8.encodeChars m.requestLine) =
      some (String.ofList m.requestLine) := by
    rw [Utf8.decode?_eq_some_iff, Utf8.encode, String.toList_ofList]
  rw [RequestLine.ofBytes, decoded]
  show RequestLine.ofChars (String.ofList m.requestLine).toList = _
  rw [String.toList_ofList, RequestLine.ofChars, m.tokens_requestLine]
  simp only [m.version?_version, m.pathAndQuery_uri, String.ofList_toList]
  rfl

/-! ## The head -/

/-- Everything in front of the body. -/
def head : Bytes := Utf8.encodeChars m.requestLine ++ (Bytes.crlf ++ m.headerBlock)

theorem bytes_eq_head_append : m.bytes = m.head ++ m.body := by
  rw [bytes, head, List.append_assoc, List.append_assoc]

/-- **The header block ends behind the last field**, whatever the body contains. -/
theorem blockEnd?_bytes : Header.blockEnd? m.bytes = some m.head.length := by
  have plain : ∀ l ∈ Utf8.encodeChars m.requestLine :: m.fields.map HeaderField.line,
      l ≠ [] ∧ 13 ∉ l := by
    intro l mem
    rcases List.mem_cons.1 mem with rfl | mem
    · exact ⟨m.requestLine_ne_nil, m.notMem_requestLine⟩
    · obtain ⟨f, -, rfl⟩ := List.mem_map.1 mem
      exact ⟨f.line_ne_nil, f.notMem_line⟩
  have head_eq : m.head = Bytes.unlines
      (Utf8.encodeChars m.requestLine :: m.fields.map HeaderField.line) ++ Bytes.crlf := by
    rw [Bytes.unlines_cons, head, headerBlock, Header.writtenBlock, List.append_assoc,
      List.append_assoc]
  rw [bytes_eq_head_append, head_eq]
  exact Header.blockEnd?_unlines_append plain m.body

/-- The head that the message is read with. -/
def readHead : Head where
  line := m.readLine
  headerBlock := m.headerBlock
  headerEnd := m.head.length
  contentLength := m.announcedLength

/-- The length that is read is the one that is announced. -/
theorem announced_eq :
    ((Header.find? m.headerBlock "content-length").map Header.contentLength).getD 0 =
      m.announcedLength := by
  have plain : ':' ∉ "content-length".toList := by decide
  have found := Header.find?_writtenBlock m.fields plain
  rw [headerBlock, found, announcedLength, field?]
  cases first : m.fields.find? (·.isNamed "content-length") with
  | none => rfl
  | some f =>
    show Header.contentLength (Bytes.dropBlanks f.value) = m.body.length
    rw [Header.contentLength, Bytes.dropBlanks_dropBlanks]
    exact m.honest f first

/-- The request line ends at the first line ending. -/
theorem indexOf?_crlf_head :
    Bytes.indexOf? Bytes.crlf m.head = some (Utf8.encodeChars m.requestLine).length := by
  exact Bytes.indexOf?_crlf_line m.notMem_requestLine m.headerBlock

theorem read_bytes : Head.read m.bytes m.head.length = .ok m.readHead := by
  have head : m.bytes.take m.head.length = m.head := by
    rw [bytes_eq_head_append, List.take_left]
  have line : m.head.take (Utf8.encodeChars m.requestLine).length =
      Utf8.encodeChars m.requestLine := by
    rw [Message.head, List.take_left]
  have block : m.head.drop ((Utf8.encodeChars m.requestLine).length + 2) = m.headerBlock := by
    rw [Message.head, List.drop_length_add_append]
    rfl
  rw [Head.read, head]
  simp only [m.indexOf?_crlf_head, line, block, m.ofBytes_requestLine]
  show Except.ok _ = _
  simp only [announced_eq]
  rfl

/-! ## The whole message -/

/-- The request that the message is read as. -/
def readRequest : Request where
  bytes := m.bytes
  line := m.readLine
  headerBlock := m.headerBlock
  body := m.body
  contentLength := m.announcedLength

theorem announcedLength_le : m.announcedLength ≤ m.body.length := by
  unfold announcedLength
  split
  · exact Nat.le_refl _
  · exact Nat.zero_le _

theorem announcedLength_eq_of_pos (pos : 0 < m.announcedLength) :
    m.announcedLength = m.body.length := by
  unfold announcedLength at pos ⊢
  split at pos
  next announced => exact if_pos announced
  next => omega

/-- Everything behind the head is the body, announced or not. -/
theorem ofHead_readHead (fits : m.bytes.length ≤ maxLength) :
    Request.ofHead m.bytes m.readHead = m.readRequest := by
  have length : m.bytes.length = m.head.length + m.body.length := by
    rw [bytes_eq_head_append, List.length_append]
  have behind : m.bytes.drop m.head.length = m.body := by
    rw [bytes_eq_head_append, List.drop_left]
  have body : (Request.ofHead m.bytes m.readHead).body = m.body := by
    show (if 0 < m.announcedLength then
      (m.bytes.take (min (m.head.length + m.announcedLength) maxLength)).drop m.head.length
        else m.bytes.drop m.head.length) = m.body
    split
    next pos =>
      -- the announcement is that of the whole body, so nothing is left out
      rw [m.announcedLength_eq_of_pos pos, ← length, Nat.min_eq_left fits, List.take_length, behind]
    next => exact behind
  rw [readRequest, ← body]
  rfl

theorem ofBytes_eq (fits : m.bytes.length ≤ maxLength) :
    Request.ofBytes m.bytes = .ok m.readRequest := by
  have length : m.bytes.length = m.head.length + m.body.length := by
    rw [bytes_eq_head_append, List.length_append]
  have complete : ¬ m.bytes.length < m.readHead.requestLength := by
    have := m.announcedLength_le
    show ¬ m.bytes.length < min (m.head.length + m.announcedLength) maxLength
    omega
  rw [Request.ofBytes, m.blockEnd?_bytes]
  show (Head.read m.bytes m.head.length).bind _ = _
  rw [m.read_bytes]
  show (if m.bytes.length < m.readHead.requestLength then _ else _) = _
  rw [if_neg complete, m.ofHead_readHead fits]

theorem cut_ofString_eq_false {capacity : Nat} {s : String} (h : s.utf8ByteSize ≤ capacity) :
    (BoundedText.ofString s : BoundedText capacity).cut = false :=
  decide_eq_false (Nat.not_lt.2 h)

theorem isReadAs_readRequest : m.IsReadAs m.readRequest where
  method := BoundedText.text_copyOf_of_fits m.method_fits
  path := BoundedText.text_copyOf_of_fits m.path_fits
  query := BoundedText.text_copyOf_of_fits m.query_fits
  version := ⟨rfl, rfl⟩
  whole := ⟨cut_ofString_eq_false m.method_fits, cut_ofString_eq_false m.path_fits,
    cut_ofString_eq_false m.query_fits⟩
  headerBlock := rfl
  body := rfl
  contentLength := rfl
  header name plain := by
    show (Header.find? m.headerBlock name).bind Utf8.decode? = _
    rw [headerBlock, Header.find?_writtenBlock m.fields plain, Option.bind_map]
    rfl

/-- **Reading a message that was written succeeds and gives back every component.** The bound is
that of a machine, whose sequences have no more bytes. -/
theorem ofBytes_bytes (fits : m.bytes.length ≤ maxLength) :
    ∃ r, Request.ofBytes m.bytes = .ok r ∧ m.IsReadAs r :=
  ⟨m.readRequest, m.ofBytes_eq fits, m.isReadAs_readRequest⟩

/-- A message whose body looks like the end of a header block, with a second question mark and with
an announcement in capitals. -/
def lookalike : Message where
  method := "POST"
  path := "/a"
  query := some "b?c"
  major := 1
  minor := 1
  fields := [
    { name := Utf8.encode "Content-Length-Hint", value := [57] },
    { name := Utf8.encode "CONTENT-LENGTH", value := [32, 52] }]
  body := [13, 10, 13, 10]

theorem ofBytes_bytes_lookalike :
    lookalike.bytes.length ≤ maxLength ∧
      ∃ r, Request.ofBytes lookalike.bytes = .ok r ∧ lookalike.IsReadAs r :=
  ⟨by decide, ofBytes_bytes lookalike (by decide)⟩

end Message

end DeviceHttp
