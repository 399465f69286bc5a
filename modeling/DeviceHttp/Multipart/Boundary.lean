import DeviceHttp.Registry
import DeviceHttp.Segments
import DeviceHttp.Text.Ascii
import DeviceHttp.Text.Blank

/-!
# The boundary of a multipart form

A content type announces a multipart body together with the boundary that separates its parts, as in
`multipart/form-data; boundary=abc`. A boundary has at most seventy bytes and no blanks or quotes.
-/

namespace DeviceHttp.Multipart

/-- The longest boundary. -/
def maxBoundary : Nat := 70

/-- The value of a parameter named boundary. -/
def boundaryValue? (parameter : List Char) : Option (List Char) := do
  let (name, value) ← cut? (· == '=') parameter
  if Text.eqIgnoreCase (Text.trim name) "boundary".toList then some value else none

/-- Whether a boundary ends in front of a character. -/
def endsBoundary (c : Char) : Bool := Text.isAsciiBlank c || c == '"'

/-- The boundary at the start of a parameter's value. White space and then quotes in front do not
belong to it. -/
def bareBoundary (value : List Char) : List Char :=
  ((Text.trimStart value).dropWhile (· == '"')).takeWhile (!endsBoundary ·)

/-- The boundary that a content type announces, if it is that of a multipart form and the boundary
is usable. -/
def boundary? (contentType : String) : Option String :=
  match segments (· == ';') contentType.toList with
  | [] => none
  | mediaType :: parameters =>
    if Text.eqIgnoreCase (Text.trim mediaType) MediaType.multipartForm.toList then do
      let value ← parameters.findSome? boundaryValue?
      let boundary := String.ofList (bareBoundary value)
      if boundary.isEmpty ∨ maxBoundary < boundary.utf8ByteSize then none else some boundary
    else none

end DeviceHttp.Multipart
