import DeviceHttp.Server.Listener
import DeviceHttp.Server.Run

/-!
# The Wi-Fi setup portal

The user interface that a device serves from its access point: a page to enter the network, an
upload of firmware, an interface for programs in JSON, and a page that shows requests.
-/

namespace DeviceHttp.SetupPortal

/-- Sends a page. -/
def showPage (title : String) (widgets : List Widget) : Reply :=
  .respond (Page.ofWidgets title widgets).response

/-- The start page, with the form for the network. -/
def startPage : Handler := fun _ =>
  showPage "Device setup" [
    .heading "Wi-Fi",
    .form "/wifi/apply" "post" MediaType.urlEncodedForm,
    .textbox "ssid" "SSID" "",
    .textbox "pass" "Password" "",
    .select "band" ["2.4 GHz", "5 GHz"] 0,
    .number "ch" "Channel" 6,
    .checkbox "dhcp" "DHCP" true,
    .submit "Apply",
    .endForm,
    .button "/upload" "Firmware update"]

/-- A refusal because something is missing in the request. -/
def refuse (reason : String) : Reply :=
  .respond (.ofStatus 400 MediaType.plainText (Utf8.encode (reason ++ "\r\n")) "")

/-- The text of a value that was found. -/
def foundText? (result : Option Found × Lookup) : Option String := result.1.bind Found.text?

/-- The channel that a request names, zero if it names none below 256. -/
def channel (area : Lookup) (request : Request) : Nat :=
  ((foundText? (area.anywhere request "ch")).bind fun s => Text.unsigned? 256 s.toList).getD 0

/-- Joins the network of a form. -/
def joinNetwork : Handler := fun request =>
  let result := Lookup.anywhere {} request "ssid"
  match foundText? result with
  | none => refuse "ssid required"
  | some ssid =>
    showPage "Saved" [
      .paragraph ("Joining " ++ ssid ++ " on channel " ++ toString (channel result.2 request)),
      .button "/" "Back"]

/-- What a program is told: the name of the network, and whether it is to be on. -/
def networkJson (ssid : String) (on : Bool) : String :=
  "\x7b\"ssid\":" ++ Text.quoted ssid ++ ",\"on\":" ++ toString on ++ "\x7d"

/-- Whether a JSON body wants the network on: it does unless it says something other than true. -/
def wantsOn (area : Lookup) (request : Request) : Bool :=
  (area.inJson request "on").1.all fun found => found.value == Utf8.encode "true"

/-- Joins the network of a JSON body. -/
def joinNetworkJson : Handler := fun request =>
  let result := Lookup.inJson {} request "ssid"
  match foundText? result with
  | none => .fail "json body needs ssid"
  | some ssid =>
    .respond (.ok MediaType.json (Utf8.encode (networkJson ssid (wantsOn result.2 request))))

/-- The form for firmware. -/
def firmwareForm : Handler := fun _ =>
  showPage "Firmware" [
    .form "/fw/upload" "post" MediaType.multipartForm,
    .fileInput "fw" "Image",
    .submit "Upload",
    .endForm]

/-- Receives firmware. -/
def receiveFirmware : Handler := fun request =>
  match Multipart.file? request "fw" with
  | none => refuse "no fw part"
  | some part =>
    showPage "Firmware" [
      .paragraph (part.filename.text ++ ": " ++ toString part.data.length ++ " bytes"),
      .button "/" "Back"]

/-- The route table of the portal. -/
def routes : RouteTable := [
  .get "/" startPage,
  .post "/wifi/apply" joinNetwork,
  .post "/api/wifi" joinNetworkJson,
  .get "/upload" firmwareForm,
  .post "/fw/upload" receiveFirmware,
  .any "/echo" Handler.echo]

/-- The settings of the portal. -/
def settings : Settings where
  receiveCapacity := 8192
  headerCapacity := 512

/-- The address that the portal listens on unless another one is given. -/
def defaultAddress : String := "127.0.0.1:8080"

/-- The portal for given connections, on a given device. -/
def bind (source : ConnectionSource) (device : Device) : Except Error Server :=
  Server.bind source device routes settings

/-- The portal on the address that the first argument names. -/
def launch (arguments : List String) : Except Error Server := do
  let listener ← (Listener.ofText (arguments.headD defaultAddress)).mapError Error.transport
  (listener.withTimeout 2000).serve routes settings

/-- What a launch that failed leaves on the error output. -/
def launchFailure : Error → String
  | .transport cause => "Error: Io(" ++ cause.detailed ++ ")\n"
  | e => "Error: " ++ e.message ++ "\n"

end DeviceHttp.SetupPortal
