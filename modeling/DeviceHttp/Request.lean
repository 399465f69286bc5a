import DeviceHttp.Request.Header
import DeviceHttp.Request.Line

/-!
# Requests

A request is a request line, a header block and a body, all of them pieces of the bytes it was read
from. `Head` is what is known once the header block has ended; it tells how many bytes the whole
request takes.

The body of a request that announces a length is exactly that long. Without an announced length, or
with an announced length of zero, everything after the header block is the body.
-/

namespace DeviceHttp

/-- What is known about a request once its header block has ended. -/
structure Head where
  line : RequestLine
  /-- The header lines and the empty line after them. -/
  headerBlock : Bytes
  /-- Where the header block ends. -/
  headerEnd : Nat
  contentLength : Nat
deriving DecidableEq

namespace Head

/-- Reads the head that ends at `headerEnd`. -/
def read (b : Bytes) (headerEnd : Nat) : Except Error Head :=
  let head := b.take headerEnd
  match Bytes.indexOf? Bytes.crlf head with
  | none => .error .malformedLine
  | some lineEnd => do
    let line ← RequestLine.ofBytes (head.take lineEnd)
    let headerBlock := head.drop (lineEnd + 2)
    let announced := (Header.find? headerBlock "content-length").map Header.contentLength
    return { line, headerBlock, headerEnd, contentLength := announced.getD 0 }

/-- The number of bytes that the whole request takes. It stops at the largest length. -/
def requestLength (head : Head) : Nat := min (head.headerEnd + head.contentLength) maxLength

end Head

/-- A request and the bytes it was read from. -/
structure Request where
  bytes : Bytes
  line : RequestLine
  /-- The header lines and the empty line after them. -/
  headerBlock : Bytes
  body : Bytes
  /-- The announced length of the body, zero without an announcement. -/
  contentLength : Nat
deriving DecidableEq

namespace Request

/-- The request with a given head, whose body has arrived. -/
def ofHead (b : Bytes) (head : Head) : Request where
  bytes := b
  line := head.line
  headerBlock := head.headerBlock
  body :=
    if 0 < head.contentLength then (b.take head.requestLength).drop head.headerEnd
    else b.drop head.headerEnd
  contentLength := head.contentLength

/-- Reads a request that is there as a whole. -/
def ofBytes (b : Bytes) : Except Error Request :=
  match Header.blockEnd? b with
  | none => .error .incomplete
  | some headerEnd => do
    let head ← Head.read b headerEnd
    if b.length < head.requestLength then .error .incomplete
    else .ok (ofHead b head)

/-- The method token, or as much of it as fits. -/
def method (r : Request) : String := r.line.method.text

/-- The path without the query, or as much of it as fits. -/
def path (r : Request) : String := r.line.path.text

/-- The query as it was sent, or as much of it as fits. Empty if the URI has no question mark. -/
def query (r : Request) : String := r.line.query.text

/-- The value of the first header with a name, if it is UTF-8. -/
def header? (r : Request) (name : String) : Option String :=
  (Header.find? r.headerBlock name).bind Utf8.decode?

/-- The value of the first Content-Type header. -/
def contentType? (r : Request) : Option String := r.header? "content-type"

/-- Every header, read strictly into at most `slots` places. -/
def headers (r : Request) (slots : Nat) : Except Error (List Header) :=
  Header.readBlock slots r.headerBlock

/-- The request with its fields, as a log shows it. The body is shown by its length. -/
def detailed (r : Request) : String :=
  Text.record "Request" [
    ("method", r.line.method.quoted),
    ("path", r.line.path.quoted),
    ("query", r.line.query.quoted),
    ("version", "(" ++ toString r.line.major ++ ", " ++ toString r.line.minor ++ ")"),
    ("content_length", toString r.contentLength),
    ("body_len", toString r.body.length)]

end Request

end DeviceHttp
