import DeviceHttp.Error
import DeviceHttp.Segments
import DeviceHttp.Text.Ascii
import DeviceHttp.Text.BoundedText

/-!
# The request line

`METHOD URI HTTP/major.minor`, without the CRLF that ends it. Tokens are separated by one or more
spaces and anything after the third one is ignored. The first question mark of the URI divides it
into path and query. Method, path and query are bounded texts, so a long one is cut and marked.
-/

namespace DeviceHttp

/-- The fields of a request line. -/
structure RequestLine where
  method : BoundedText 7
  path : BoundedText 127
  query : BoundedText 127
  major : Nat
  minor : Nat
deriving DecidableEq

namespace RequestLine

/-- The pieces between spaces that are not empty. -/
def tokens (cs : List Char) : List (List Char) :=
  (segments (· == ' ') cs).filter (!·.isEmpty)

/-- Reads a version token, `HTTP/` and two 32-bit numbers with a dot between them. -/
def version? (token : List Char) : Option (Nat × Nat) := do
  let numbers ← dropStart? "HTTP/".toList token
  let (major, minor) ← cut? (· == '.') numbers
  return (← Text.unsigned? UInt32.size major, ← Text.unsigned? UInt32.size minor)

/-- Divides a URI at its first question mark. Without one the query is empty. -/
def pathAndQuery (uri : List Char) : List Char × List Char :=
  (cut? (· == '?') uri).getD (uri, [])

/-- Reads the characters of a request line. -/
def ofChars (cs : List Char) : Except Error RequestLine :=
  match tokens cs with
  | method :: uri :: version :: _ =>
    match version? version with
    | none => .error .malformedVersion
    | some (major, minor) =>
      let (path, query) := pathAndQuery uri
      .ok {
        method := .ofString (String.ofList method)
        path := .ofString (String.ofList path)
        query := .ofString (String.ofList query)
        major, minor }
  | _ => .error .malformedLine

/-- Reads a request line. -/
def ofBytes (line : Bytes) : Except Error RequestLine :=
  match Utf8.decode? line with
  | none => .error .lineNotUtf8
  | some text => ofChars text.toList

/-- The line with all its fields, as a log shows it. -/
def detailed (line : RequestLine) : String :=
  Text.record "RequestLine" [
    ("method", line.method.quoted),
    ("path", line.path.quoted),
    ("query", line.query.quoted),
    ("major", toString line.major),
    ("minor", toString line.minor)]

end RequestLine

end DeviceHttp
