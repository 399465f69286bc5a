import DeviceHttp.Segments
import DeviceHttp.Text.Ascii
import DeviceHttp.Text.Blank
import DeviceHttp.Text.BoundedText

/-!
# Parts of a multipart body

A part has header lines of its own and data. Its name and the name of its file are parameters of the
line `Content-Disposition`, its content type is on the line `Content-Type`. Parameters are separated
by semicolons, except for those between double quotes.
-/

namespace DeviceHttp

/-- A part of a multipart body. -/
structure Part where
  /-- The name of the form field, empty if there is none. -/
  name : String := ""
  /-- The name of the file, empty if there is none. -/
  filename : BoundedText 63 := .empty
  contentType : Option (BoundedText 63) := none
  data : Bytes
deriving DecidableEq

namespace Part

/-- The pieces of a header value between semicolons that do not stand between double quotes. -/
def parameters : (quoted : Bool) → List Char → List (List Char)
  | _, [] => [[]]
  | quoted, c :: cs =>
    if c == ';' && !quoted then [] :: parameters false cs
    else consFirst c (parameters (if c == '"' then !quoted else quoted) cs)

/-- The text without the double quotes around it, if there is one at either end. -/
def unquote (cs : List Char) : List Char :=
  match cs with
  | '"' :: rest =>
    match rest.reverse with
    | '"' :: inner => inner.reverse
    | _ => cs
  | _ => cs

/-- The part after a parameter of its content disposition. -/
def withParameter (part : Part) (parameter : List Char) : Part :=
  match cut? (· == '=') parameter with
  | none => part
  | some (key, value) =>
    let value := String.ofList (unquote (Text.trim value))
    let key := Text.trim key
    if Text.eqIgnoreCase key "name".toList then { part with name := value }
    else if Text.eqIgnoreCase key "filename".toList then { part with filename := .ofString value }
    else part

/-- The part after its content disposition. The parameters follow the type. -/
def withDisposition (part : Part) (value : String) : Part :=
  ((parameters false value.toList).drop 1).foldl withParameter part

/-- The part after a header line. Lines with other names, or that are not UTF-8, say nothing. -/
def withHeader (part : Part) (line : Bytes) : Part :=
  match Bytes.dropStartIgnoreCase? (Utf8.encode "content-disposition:") line with
  | some value =>
    match Utf8.decode? value with
    | some text => part.withDisposition text
    | none => part
  | none =>
    match (Bytes.dropStartIgnoreCase? (Utf8.encode "content-type:") line).bind Utf8.decode? with
    | some text =>
      { part with contentType := some (.ofString (String.ofList (Text.trim text.toList))) }
    | none => part

/-- The part with the given header lines and data. -/
def ofHeaders (headers data : Bytes) : Part := (Bytes.lines headers).foldl withHeader { data }

end Part

end DeviceHttp
