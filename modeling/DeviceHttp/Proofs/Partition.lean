import DeviceHttp.Proofs.SentLine

/-!
# A request takes its bytes apart

A request is cut out of the bytes that it was read from: a line, a header block, a body, and perhaps
something behind them that belongs to the next request. The places to cut at come from three
searches and a sum that stops at the largest length, on bytes that may be anything at all.

**The pieces are all of the bytes** (`Request.partitioned`), in their order and with nothing between
them but the line ending of the first line. Bytes that are not taken apart lack their empty line,
have a first line that cannot be read, or end too early, and the error says which.

## Main definitions

* `HasHead` — where the line and the header block of some bytes are, told without any search
* `Request.CutFrom` — a request, and what follows it, in the bytes they came from
* `Request.Partitioned` — what reading makes of given bytes, for every reason there can be
* `CanonicalLine` — a first line that is written with as few characters as its fields need

## How

The searches are for a line ending and for an empty line, which begins with a line ending. The two
may overlap: without header fields the line ending of the first line is half of the empty line. So
the header block is never empty, and it is what stands between the first line ending and the end of
the first empty line. `HasHead` says this with `Bytes.EndsAtFirst`, and the searches agree with it
(`HasHead.read`, `exists_hasHead`).

A line that is written canonically can be put together again from its fields, because nothing in it
was skipped. This is the way back from `RequestLine.tokens_of_parts`.
-/

namespace DeviceHttp

/-! ## The head -/

/-- The length that the first Content-Length line of a header block announces, zero without one. -/
def Header.announced (block : Bytes) : Nat :=
  ((Header.find? block "content-length").map Header.contentLength).getD 0

/-- The bytes begin with a line, its line ending and a header block. The line is all that stands in
front of the first line ending, and the header block ends with the first empty line. -/
structure HasHead (b line block : Bytes) : Prop where
  begins : line ++ (Bytes.crlf ++ block) <+: b
  line_ends : Bytes.EndsAtFirst Bytes.crlf (line ++ Bytes.crlf)
  block_ends : Bytes.EndsAtFirst (Bytes.crlf ++ Bytes.crlf) (line ++ (Bytes.crlf ++ block))

/-- The head that is made up of a line, as it was read, and a header block. -/
def Head.ofPieces (l block : Bytes) (line : RequestLine) : Head where
  line := line
  headerBlock := block
  headerEnd := (l ++ (Bytes.crlf ++ block)).length
  contentLength := Header.announced block

/-- The number of bytes that a request takes whose line and header block are given. It stops at the
largest length. -/
def wholeLength (line block : Bytes) : Nat :=
  min ((line ++ (Bytes.crlf ++ block)).length + Header.announced block) maxLength

theorem Bytes.crlf_ne_nil : Bytes.crlf ≠ [] := List.cons_ne_nil _ _

theorem Bytes.crlf_append_crlf_ne_nil : Bytes.crlf ++ Bytes.crlf ≠ [] := List.cons_ne_nil _ _

/-- Bytes with an empty line have a head. -/
theorem exists_hasHead {b : Bytes} (ended : Bytes.crlf ++ Bytes.crlf <:+: b) :
    ∃ line block, HasHead b line block := by
  obtain ⟨i, found⟩ := Bytes.exists_indexOf?_of_infix Bytes.crlf_append_crlf_ne_nil ended
  generalize head_eq : b.take (i + (Bytes.crlf ++ Bytes.crlf).length) = head
  have block_ends := Bytes.endsAtFirst_take_of_indexOf? found
  rw [head_eq] at block_ends
  -- The empty line begins with a line ending, so the first of those is within the head.
  obtain ⟨j, first⟩ : ∃ j, Bytes.indexOf? Bytes.crlf head = some j := by
    apply Bytes.exists_indexOf?_of_infix Bytes.crlf_ne_nil
    exact (List.prefix_append _ _).isInfix.trans block_ends.ends.isInfix
  have line_ends := Bytes.endsAtFirst_take_of_indexOf? first
  have line := Bytes.take_add_of_indexOf? first
  have pieces : head.take j ++ (Bytes.crlf ++ head.drop (j + Bytes.crlf.length)) = head := by
    rw [← List.append_assoc, ← line, List.take_append_drop]
  refine ⟨head.take j, head.drop (j + Bytes.crlf.length), ?_, ?_, ?_⟩
  · rw [pieces, ← head_eq]
    exact List.take_prefix _ _
  · rw [← line]
    exact line_ends
  · rw [pieces]
    exact block_ends

namespace HasHead

variable {b l block : Bytes}

/-- The searches find the head: the header block ends where it should. -/
theorem blockEnd? (head : HasHead b l block) :
    Header.blockEnd? b = some (l ++ (Bytes.crlf ++ block)).length := by
  obtain ⟨rest, rfl⟩ := head.begins
  obtain ⟨front, eq⟩ := head.block_ends.ends
  have ends := head.block_ends
  rw [← eq] at ends ⊢
  have found := Bytes.indexOf?_of_endsAtFirst Bytes.crlf_append_crlf_ne_nil ends rest
  rw [Header.blockEnd?]
  show (Bytes.indexOf? (Bytes.crlf ++ Bytes.crlf) _).map _ = _
  rw [found, List.length_append]
  rfl

/-- The head that is read is made of the line and the header block. -/
theorem read (head : HasHead b l block) :
    Head.read b (l ++ (Bytes.crlf ++ block)).length =
      (RequestLine.ofBytes l).map (Head.ofPieces l block) := by
  obtain ⟨rest, rfl⟩ := head.begins
  have found := Bytes.indexOf?_of_endsAtFirst Bytes.crlf_ne_nil head.line_ends block
  rw [List.append_assoc] at found
  have behind : (l ++ (Bytes.crlf ++ block)).drop (l.length + 2) = block := by
    rw [List.drop_length_add_append]
    rfl
  rw [Head.read, List.take_left]
  simp only [found, List.take_left, behind]
  cases RequestLine.ofBytes l <;> rfl

/-- A request is read once the whole of it is there. -/
theorem ofBytes_of_ok {line : RequestLine} (head : HasHead b l block)
    (good : RequestLine.ofBytes l = .ok line) :
    Request.ofBytes b =
      if b.length < wholeLength l block then .error .incomplete
      else .ok (Request.ofHead b (Head.ofPieces l block line)) := by
  rw [Request.ofBytes, head.blockEnd?]
  simp only [head.read, good]
  rfl

/-- A first line that cannot be read is the error. -/
theorem ofBytes_of_error {reason : Error} (head : HasHead b l block)
    (bad : RequestLine.ofBytes l = .error reason) : Request.ofBytes b = .error reason := by
  apply Request.ofBytes_of_badHead head.blockEnd?
  rw [head.read, bad]
  rfl

/-- What stands behind the head. -/
theorem drop (head : HasHead b l block) :
    b = l ++ (Bytes.crlf ++ (block ++ b.drop (l ++ (Bytes.crlf ++ block)).length)) := by
  obtain ⟨rest, rfl⟩ := head.begins
  rw [List.drop_left]
  simp only [List.append_assoc]

end HasHead

/-- Bytes without an empty line are incomplete. -/
theorem Request.ofBytes_of_unended {b : Bytes} (absent : ¬ Bytes.crlf ++ Bytes.crlf <:+: b) :
    ofBytes b = .error .incomplete := by
  have missed := (Bytes.indexOf?_eq_none_iff Bytes.crlf_append_crlf_ne_nil).2 absent
  have unended : Header.blockEnd? b = none := by
    show (Bytes.indexOf? (Bytes.crlf ++ Bytes.crlf) b).map _ = none
    rw [missed]
    rfl
  rw [ofBytes, unended]

/-! ## The first line -/

/-- A first line as it is written with care. There is one space between its three parts, nothing
follows the version, its numbers are plain numerals, and a question mark that ends the path is
followed by something. -/
inductive CanonicalLine : Bytes → Prop where
  | intro {method uri : String} {major minor : Nat} : method ≠ "" → ' ' ∉ method.toList →
      uri ≠ "" → ' ' ∉ uri.toList → (∀ path : String, '?' ∉ path.toList → uri ≠ path ++ "?") →
        CanonicalLine (Utf8.encode (method ++ " " ++ uri ++ " HTTP/" ++ toString major ++ "." ++
          toString minor))

namespace RequestLine

/-- No field of the line was cut. -/
structure IsWhole (line : RequestLine) : Prop where
  method : line.method.cut = false
  path : line.path.cut = false
  query : line.query.cut = false

/-- A line with the given fields, where an empty query is left out. -/
def rendered (line : RequestLine) : String :=
  line.method.text ++ " " ++
    (line.path.text ++ if line.query.text = "" then "" else "?" ++ line.query.text) ++
      " HTTP/" ++ toString line.major ++ "." ++ toString line.minor

theorem text_of_not_cut {capacity : Nat} {s : String}
    (whole : (BoundedText.ofString s : BoundedText capacity).cut = false) :
    (BoundedText.ofString s : BoundedText capacity).text = s := by
  by_cases same : (BoundedText.ofString s : BoundedText capacity).text = s
  · exact same
  · rw [BoundedText.cut_ofString_iff.2 same] at whole
    cases whole

/-- Path and query make up the URI again, unless it ends with its first question mark. -/
theorem pathAndQuery_append {uri : String}
    (asked : ∀ path : String, '?' ∉ path.toList → uri ≠ path ++ "?") :
    (String.ofList (pathAndQuery uri.toList).1 ++
      if String.ofList (pathAndQuery uri.toList).2 = "" then ""
      else "?" ++ String.ofList (pathAndQuery uri.toList).2) = uri := by
  unfold pathAndQuery
  cases cut : cut? (· == '?') uri.toList with
  | none => simp
  | some pieces =>
    obtain ⟨path, query⟩ := pieces
    obtain ⟨mark, eq, marked, plain⟩ := cut?_eq_some_iff.1 cut
    obtain rfl := beq_iff_eq.1 marked
    have uri_eq : uri = String.ofList path ++ ("?" ++ String.ofList query) := by
      apply String.toList_injective
      rw [eq]
      simp only [String.toList_append, String.toList_ofList]
      exact congrArg (path ++ ·) List.singleton_append.symm
    have query_ne : String.ofList query ≠ "" := by
      intro empty
      have pathEnds : '?' ∉ (String.ofList path).toList := by
        intro inside
        rw [String.toList_ofList] at inside
        have := plain '?' inside
        cases this
      apply asked (String.ofList path) pathEnds
      rw [uri_eq, empty, String.append_empty]
    show (String.ofList path ++ if String.ofList query = "" then ""
      else "?" ++ String.ofList query) = uri
    rw [if_neg query_ne]
    exact uri_eq.symm

/-- **A canonical line is put together again from its fields**, if none of them was cut. -/
theorem encode_rendered {l : Bytes} {line : RequestLine} (canonical : CanonicalLine l)
    (read : ofBytes l = .ok line) (whole : line.IsWhole) : Utf8.encode line.rendered = l := by
  obtain @⟨method, uri, major, minor, method_ne, inMethod, uri_ne, inUri, asked⟩ := canonical
  have chars : (method ++ " " ++ uri ++ " HTTP/" ++ toString major ++ "." ++
      toString minor).toList =
        method.toList ++ ' ' :: (uri.toList ++ ' ' :: versionToken major minor) := by
    simp only [String.toList_append, versionToken, List.append_assoc]
    rfl
  have nonempty : ∀ {s : String}, s ≠ "" → s.toList ≠ [] := by
    intro s ne nil
    exact ne (String.toList_eq_nil_iff.1 nil)
  have inVersion : ' ' ∉ versionToken major minor :=
    notMem_versionToken major minor (by decide) rfl
  have version_ne : versionToken major minor ≠ [] := List.cons_ne_nil _ _
  have tokens := tokens_of_parts (nonempty method_ne) (nonempty uri_ne) version_ne inMethod
    inUri inVersion
  rw [ofBytes, Utf8.decode?_eq_some_iff.2 rfl] at read
  simp only [ofChars, chars, tokens] at read
  split at read
  · cases read
  · next versions =>
    rw [version?_versionToken] at versions
    obtain ⟨-, numbers⟩ := Option.ite_none_right_eq_some.1 versions
    obtain ⟨rfl, rfl⟩ := Prod.mk.inj (Option.some.inj numbers)
    cases read
    obtain ⟨method_whole, path_whole, query_whole⟩ := whole
    rw [String.ofList_toList] at method_whole
    apply congrArg Utf8.encode
    simp only [rendered, String.ofList_toList, text_of_not_cut method_whole,
      text_of_not_cut path_whole, text_of_not_cut query_whole, pathAndQuery_append asked]

end RequestLine

/-! ## The whole request -/

namespace Request

/-- The request is cut out of bytes with the given first line and header block, in front of some
rest. -/
structure CutFrom (b l block rest : Bytes) (r : Request) : Prop where
  bytes : r.bytes = b
  line : RequestLine.ofBytes l = .ok r.line
  headerBlock : r.headerBlock = block
  contentLength : r.contentLength = Header.announced block
  /-- The pieces are the bytes, each of which belongs to one piece. -/
  pieces : b = l ++ (Bytes.crlf ++ (r.headerBlock ++ (r.body ++ rest)))
  /-- Without an announcement, everything is the body. -/
  unannounced : r.contentLength = 0 → rest = []
  /-- The body is as long as announced. The largest length is out of the reach of any bytes, and an
  announcement that the sum of lengths stops at is never honoured. -/
  announced : 0 < r.contentLength → b.length < maxLength → r.body.length = r.contentLength
  /-- A canonical line need not be kept, because its fields say what it was. -/
  rendered : CanonicalLine l → r.line.IsWhole →
    Utf8.encode r.line.rendered ++ (Bytes.crlf ++ (r.headerBlock ++ (r.body ++ rest))) = b

/-- What reading makes of given bytes. -/
structure Partitioned (b : Bytes) : Prop where
  /-- Without an empty line the bytes are no request yet. -/
  unended : ¬ Bytes.crlf ++ Bytes.crlf <:+: b → ofBytes b = .error .incomplete
  /-- Otherwise they have a head. -/
  headed : Bytes.crlf ++ Bytes.crlf <:+: b → ∃ l block, HasHead b l block
  /-- A first line that cannot be read is the error, however long the bytes are. -/
  badLine : ∀ {l block : Bytes} {reason : Error}, HasHead b l block →
    RequestLine.ofBytes l = .error reason → ofBytes b = .error reason
  /-- With a good first line, the bytes are incomplete exactly when they are too few. -/
  incomplete : ∀ {l block : Bytes} {line : RequestLine}, HasHead b l block →
    RequestLine.ofBytes l = .ok line →
      (ofBytes b = .error .incomplete ↔ b.length < wholeLength l block)
  /-- If there are enough of them, they are cut into the pieces of a request. -/
  request : ∀ {l block : Bytes} {line : RequestLine}, HasHead b l block →
    RequestLine.ofBytes l = .ok line → wholeLength l block ≤ b.length →
      ∃ r rest, ofBytes b = .ok r ∧ CutFrom b l block rest r

variable {b l block : Bytes}

/-- A body that is announced takes as many bytes as it should, and otherwise it takes all. -/
theorem exists_body_append (line : RequestLine) (all : wholeLength l block ≤ b.length) :
    ∃ rest,
      (ofHead b (Head.ofPieces l block line)).body ++ rest =
        b.drop (l ++ (Bytes.crlf ++ block)).length ∧
      (Header.announced block = 0 → rest = []) ∧
      (0 < Header.announced block → b.length < maxLength →
        (ofHead b (Head.ofPieces l block line)).body.length = Header.announced block) := by
  have body : (ofHead b (Head.ofPieces l block line)).body =
      if 0 < Header.announced block then
        (b.take (wholeLength l block)).drop (l ++ (Bytes.crlf ++ block)).length
      else b.drop (l ++ (Bytes.crlf ++ block)).length := rfl
  rw [body]
  by_cases pos : 0 < Header.announced block
  · rw [if_pos pos]
    refine ⟨(b.drop (l ++ (Bytes.crlf ++ block)).length).drop
      (wholeLength l block - (l ++ (Bytes.crlf ++ block)).length), ?_, ?_, ?_⟩
    · rw [List.drop_take, List.take_append_drop]
    · intro zero
      omega
    · intro _ short
      unfold wholeLength at all ⊢
      rw [List.length_drop, List.length_take]
      omega
  · rw [if_neg pos]
    exact ⟨[], List.append_nil _, fun _ => rfl, fun pos' => absurd pos' pos⟩

/-- The request with a head is cut out of the bytes. -/
theorem exists_cutFrom_ofHead {line : RequestLine} (head : HasHead b l block)
    (good : RequestLine.ofBytes l = .ok line) (all : wholeLength l block ≤ b.length) :
    ∃ rest, CutFrom b l block rest (ofHead b (Head.ofPieces l block line)) := by
  obtain ⟨rest, behind, unannounced, announced⟩ := exists_body_append line all
  have pieces := head.drop
  rw [← behind] at pieces
  refine ⟨rest, rfl, good, rfl, rfl, pieces, unannounced, announced, ?_⟩
  intro canonical whole
  show Utf8.encode line.rendered ++ _ = b
  rw [RequestLine.encode_rendered canonical good whole]
  exact pieces.symm

/-- **Reading takes the bytes apart, or says why it cannot.** This holds of all bytes, well-formed
or not. -/
theorem partitioned (b : Bytes) : Partitioned b where
  unended absent := ofBytes_of_unended absent
  headed ended := exists_hasHead ended
  badLine head bad := head.ofBytes_of_error bad
  incomplete head good := by
    rw [head.ofBytes_of_ok good]
    split
    · next short => exact ⟨fun _ => short, fun _ => rfl⟩
    · next enough => exact ⟨nofun, fun short => absurd short enough⟩
  request head good all := by
    obtain ⟨rest, cut⟩ := exists_cutFrom_ofHead head good all
    refine ⟨_, rest, ?_, cut⟩
    rw [head.ofBytes_of_ok good, if_neg (Nat.not_lt.2 all)]

end Request

end DeviceHttp
