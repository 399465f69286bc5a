import DeviceHttp.Bytes
import DeviceHttp.Registry
import DeviceHttp.Text.Utf8

/-!
# Responses

A response as it goes out: status line, Content-Type, Content-Length, extra header lines,
`Connection: close`, an empty line, and the body.
-/

namespace DeviceHttp

/-- A response. -/
structure Response where
  status : Nat
  reason : String
  contentType : String := MediaType.plainText
  body : Bytes := []
  /-- Further header lines, each with its CRLF. -/
  extraHeaders : String := ""
deriving DecidableEq

namespace Response

/-- A response with the registered reason phrase of its status. -/
def ofStatus (status : Nat) (contentType : String) (body : Bytes) (extraHeaders : String) :
    Response where
  status := status
  reason := reasonPhrase status
  contentType := contentType
  body := body
  extraHeaders := extraHeaders

/-- Success, with a body. -/
def ok (contentType : String) (body : Bytes) : Response where
  status := 200
  reason := "OK"
  contentType := contentType
  body := body

/-- The answer when nothing is found under a path. -/
def notFound : Response where
  status := 404
  reason := "Not Found"
  body := Utf8.encode "404 Not Found\r\n"

/-- The pieces that the header is put together from. -/
def headerPieces (r : Response) : List Bytes :=
  [ Utf8.encode "HTTP/1.1 ", Utf8.encode (toString r.status), Utf8.encode " ",
    Utf8.encode r.reason, Utf8.encode "\r\nContent-Type: ",
    Utf8.encode r.contentType, Utf8.encode "\r\nContent-Length: ",
    Utf8.encode (toString r.body.length), Utf8.encode "\r\n",
    Utf8.encode r.extraHeaders, Utf8.encode "Connection: close\r\n\r\n" ]

/-- The header, up to and including the empty line. -/
def header (r : Response) : Bytes := r.headerPieces.flatten

/-- Whether the extra header lines are complete: there are none, or the last one has its CRLF. -/
def extraHeadersEnd (r : Response) : Bool :=
  let extra := Utf8.encode r.extraHeaders
  extra.isEmpty || endsWith Bytes.crlf extra

end Response

end DeviceHttp
