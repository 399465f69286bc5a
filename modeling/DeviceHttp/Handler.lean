import DeviceHttp.Html.Page
import DeviceHttp.Lookup
import DeviceHttp.Multipart.Body
import DeviceHttp.Reply

/-!
# Ready-made handlers

Handlers that are of use on any device: they show what a request holds, stop the server, or send
fixed responses.
-/

namespace DeviceHttp.Handler

/-- Shows method, path and query of a request on a page. -/
def echo : Handler := fun request =>
  .respond (Page.ofWidgets "wisp" [
    .paragraph ("Method: " ++ request.method),
    .paragraph ("Path: " ++ request.path),
    .paragraph ("Query: " ++ request.query)]).response

/-- Sends nothing. -/
def silent : Handler := fun _ => .done

/-- Sends the value of a parameter, with the name of its origin as content type. -/
def showParameter (key : String) : Handler := fun request =>
  match (Lookup.anywhere {} request key).1 with
  | some found => .respond (.ok found.origin.name found.value)
  | none => .respond .notFound

/-- Sends the data of an uploaded file with its content type. -/
def showFile (field : String) : Handler := fun request =>
  match Multipart.file? request field with
  | some part => .respond (.ok ((part.contentType.map BoundedText.text).getD "none") part.data)
  | none => .respond .notFound

/-- Asks the server to stop, and says goodbye. -/
def shutdown : Handler := fun _ =>
  .requestShutdown (.respond (.ok MediaType.plainText (Utf8.encode "bye")))

/-- A response of a fixed sequence. -/
structure Item where
  response : Response
  /-- Whether the sequence goes on after the response could not be sent. -/
  ignoreFailure : Bool

/-- Sends responses in order, up to the first failure that counts, and then ends as given. -/
def sequence (ending : Reply) : List Item → Reply
  | [] => ending
  | item :: rest =>
    .send item.response fun
      | .ok () => sequence ending rest
      | .error e => if item.ignoreFailure then sequence ending rest else .finish (.error e)

end DeviceHttp.Handler
