import DeviceHttp.Proofs.Answering
import DeviceHttp.Proofs.Disposal
import DeviceHttp.Proofs.Isolation
import DeviceHttp.Proofs.JsonLookup
import DeviceHttp.Proofs.OnePiece
import DeviceHttp.Proofs.Partition
import DeviceHttp.Proofs.Sizes

/-!
# The portal answers every request completely

To a peer that sends its request at once, the setup portal either writes nothing, because the bytes
are of no use, or one complete response. This holds of all bytes, after any earlier connections.

There are two things that could cut a response off. A page has room for 4096 bytes, and the texts
that it shows come from the request; a header has room for 512. **Neither is ever too small**
(`SetupPortal.truncated_of_shows`, `SetupPortal.length_headerText_le_of_answers`): a field of a
request has at most 127 bytes, escaping makes it at most six times as long, and the largest page
shows three of them.

## Main definitions

* `SetupPortal.Unusable` — the bytes that get no response, and why
* `SetupPortal.Shows`, `SetupPortal.Answers` — the pages and the responses to requests
* `SetupPortal.AnswersWhole` — what is written to a connection over which given bytes have come

## How

The bytes that are received in one piece are a request exactly if they read as one
(`unusable_iff`). The six routes answer it with one response each, except that a request that names
no network in a JSON body fails (`replies`). What is left is that the response fits and that the
connection takes it, which is `Exchange.sends_send`.
-/

namespace DeviceHttp

namespace SetupPortal

/-! ## Requests and their responses -/

/-- A request has the given method and path. -/
structure Asks (request : Request) (method path : String) : Prop where
  method : request.method = method
  path : request.path = path

/-- A request has a JSON body with the name of a network at the top level. -/
def NamesNetwork (request : Request) : Prop :=
  Lookup.hasMediaType request MediaType.json = true ∧
    ∃ root value, Json.Value.parse? request.body = some root ∧
      root.field? "ssid" = some value ∧ value.IsScalar

/-- The bytes that a peer has sent are of no use. Only as many of them count as are received. -/
inductive Unusable (d : Bytes) : Prop where
  | empty : d = [] → Unusable d
  | unended : ¬ Bytes.crlf ++ Bytes.crlf <:+: d.take 8192 → Unusable d
  | badLine {l block : Bytes} {reason : Error} : HasHead (d.take 8192) l block →
      RequestLine.ofBytes l = .error reason → Unusable d
  /-- The request that is announced is longer than what was sent, or than what can be received. -/
  | tooLong {l block : Bytes} : HasHead (d.take 8192) l block →
      min d.length 8192 < (l ++ (Bytes.crlf ++ block)).length + Header.announced block → Unusable d
  | nameless {request : Request} : Request.ofBytes (d.take 8192) = .ok request →
      Asks request "POST" "/api/wifi" → ¬ NamesNetwork request → Unusable d

/-- The pages that requests get: their titles and all of their widgets. -/
inductive Shows (request : Request) : (title : String) → (widgets : List Widget) → Prop where
  | start : Asks request "GET" "/" →
      Shows request "Device setup" [
        .heading "Wi-Fi",
        .form "/wifi/apply" "post" MediaType.urlEncodedForm,
        .textbox "ssid" "SSID" "",
        .textbox "pass" "Password" "",
        .select "band" ["2.4 GHz", "5 GHz"] 0,
        .number "ch" "Channel" 6,
        .checkbox "dhcp" "DHCP" true,
        .submit "Apply",
        .endForm,
        .button "/upload" "Firmware update"]
  | saved {ssid : String} : Asks request "POST" "/wifi/apply" →
      foundText? (Lookup.anywhere {} request "ssid") = some ssid →
        Shows request "Saved" [
          .paragraph ("Joining " ++ ssid ++ " on channel " ++ toString (channel {} request)),
          .button "/" "Back"]
  | firmware : Asks request "GET" "/upload" →
      Shows request "Firmware" [
        .form "/fw/upload" "post" MediaType.multipartForm,
        .fileInput "fw" "Image",
        .submit "Upload",
        .endForm]
  | received {part : Part} : Asks request "POST" "/fw/upload" →
      Multipart.file? request "fw" = some part →
        Shows request "Firmware" [
          .paragraph (part.filename.text ++ ": " ++ toString part.data.length ++ " bytes"),
          .button "/" "Back"]
  | echo : request.path = "/echo" →
      Shows request "wisp" [
        .paragraph ("Method: " ++ request.method),
        .paragraph ("Path: " ++ request.path),
        .paragraph ("Query: " ++ request.query)]

/-- The responses that requests get. -/
inductive Answers (request : Request) : Response → Prop where
  | page {title : String} {widgets : List Widget} : Shows request title widgets →
      Answers request (Page.ofWidgets title widgets).response
  | nameless : Asks request "POST" "/wifi/apply" →
      foundText? (Lookup.anywhere {} request "ssid") = none →
        Answers request
          (.ofStatus 400 MediaType.plainText (Utf8.encode ("ssid required" ++ "\r\n")) "")
  | joined {ssid : String} : Asks request "POST" "/api/wifi" →
      foundText? (Lookup.inJson {} request "ssid") = some ssid →
        Answers request (.ok MediaType.json (Utf8.encode (networkJson ssid (wantsOn {} request))))
  | fileless : Asks request "POST" "/fw/upload" → Multipart.file? request "fw" = none →
      Answers request
        (.ofStatus 400 MediaType.plainText (Utf8.encode ("no fw part" ++ "\r\n")) "")
  | notFound : routes.find? request = none → Answers request .notFound

variable {request : Request} {d : Bytes}

/-! ## Bytes that are of no use -/

/-- Bytes are of no use exactly if they are no request, or one that names no network where it has
to. -/
theorem unusable_iff :
    Unusable d ↔ ∀ request, Request.ofBytes (d.take 8192) = .ok request →
      Asks request "POST" "/api/wifi" ∧ ¬ NamesNetwork request := by
  have length : (d.take 8192).length = min d.length 8192 := by
    rw [List.length_take, Nat.min_comm]
  have largest : 8192 < maxLength := by decide
  constructor
  · intro unusable request read
    have failed {e : Error} (error : Request.ofBytes (d.take 8192) = .error e) : False :=
      absurd (error.symm.trans read) nofun
    cases unusable with
    | empty nil =>
      rw [nil] at failed
      exact (failed rfl).elim
    | unended absent => exact (failed (Request.ofBytes_of_unended absent)).elim
    | badLine head bad => exact (failed (head.ofBytes_of_error bad)).elim
    | @tooLong l block head short =>
      cases good : RequestLine.ofBytes l with
      | error reason => exact (failed (head.ofBytes_of_error good)).elim
      | ok line =>
        have fewer : (d.take 8192).length < wholeLength l block := by
          unfold wholeLength
          omega
        have reads := head.ofBytes_of_ok good
        rw [if_pos fewer] at reads
        exact (failed reads).elim
    | nameless read' asks absent =>
      obtain rfl := Except.ok.inj (read.symm.trans read')
      exact ⟨asks, absent⟩
  · intro refused
    by_cases ended : Bytes.crlf ++ Bytes.crlf <:+: d.take 8192
    · obtain ⟨l, block, head⟩ := exists_hasHead ended
      cases good : RequestLine.ofBytes l with
      | error reason => exact .badLine head good
      | ok line =>
        have reads := head.ofBytes_of_ok good
        split at reads
        · next short =>
          unfold wholeLength at short
          exact .tooLong head (by omega)
        · obtain ⟨asks, absent⟩ := refused _ reads
          exact .nameless reads asks absent
    · exact .unended ended

/-! ## What the lookups find -/

/-- A text that was found takes no more bytes than the area holds. -/
theorem utf8ByteSize_le_of_foundText? {result : Option Found × Lookup} {text : String}
    (found : foundText? result = some text)
    (fits : ∀ found, result.1 = some found → found.value.length ≤ Lookup.capacity) :
    text.utf8ByteSize ≤ 127 := by
  obtain ⟨value, held, read⟩ := Option.bind_eq_some_iff.1 found
  have short := fits value held
  rw [Utf8.decode?_eq_some_iff.1 read, Utf8.length_encode] at short
  exact short

theorem namesNetwork_iff : NamesNetwork request ↔
    ∃ value, Lookup.HasJsonField request "ssid" value ∧ value.IsScalar := by
  simp only [NamesNetwork, Lookup.HasJsonField, Json.Value.field?_eq_some_iff]
  constructor
  · rintro ⟨json, root, value, parsed, field, scalar⟩
    exact ⟨value, ⟨json, root, parsed, field⟩, scalar⟩
  · rintro ⟨value, ⟨json, root, parsed, field⟩, scalar⟩
    exact ⟨json, root, value, parsed, field, scalar⟩

/-- The name of a network is found in a JSON body exactly if there is one. -/
theorem foundText?_inJson_eq_none_iff :
    foundText? (Lookup.inJson {} request "ssid") = none ↔ ¬ NamesNetwork request := by
  rw [namesNetwork_iff, ← Lookup.inJson_isSome_iff, Option.not_isSome_iff_eq_none, foundText?,
    Option.bind_eq_none_iff]
  constructor
  · intro unread
    refine Option.eq_none_iff_forall_ne_some.2 fun found held => ?_
    obtain ⟨text, read⟩ := Lookup.exists_text?_of_inJson held
    exact absurd (unread found held) (read ▸ Option.some_ne_none text)
  · intro missed found held
    rw [missed] at held
    cases held

/-- The channel that is named is below 256. -/
theorem channel_lt (area : Lookup) (request : Request) : channel area request < 256 := by
  unfold channel
  cases number : (foundText? (area.anywhere request "ch")).bind fun s =>
      Text.unsigned? 256 s.toList with
  | none => exact Nat.zero_lt_succ _
  | some n =>
    obtain ⟨s, -, read⟩ := Option.bind_eq_some_iff.1 number
    exact Text.unsigned?_lt read

/-- What a request names besides the network does not depend on the lookup of the network. -/
theorem channel_alike (area : Lookup) (request : Request) :
    channel area request = channel {} request := by
  unfold channel foundText? Lookup.anywhere
  rw [Lookup.inPlaces_eq_findSome?, Lookup.inPlaces_eq_findSome?]

theorem wantsOn_alike (area : Lookup) (request : Request) :
    wantsOn area request = wantsOn {} request := by
  unfold wantsOn Lookup.inJson
  rw [Lookup.inPlace_alike area {}]

/-! ## Nothing overflows -/

/-- A page with a short paragraph and the way back is whole. -/
theorem truncated_of_short {title text : String} (opening : (Page.opening title).utf8ByteSize ≤ 300)
    (short : text.utf8ByteSize ≤ 200) :
    (Page.ofWidgets title [.paragraph text, .button "/" "Back"]).truncated = false := by
  have paragraph := Widget.utf8ByteSize_paragraph_le text
  have back : (Widget.button "/" "Back").render.utf8ByteSize = 56 := by decide +kernel
  have closing : Page.closing.utf8ByteSize = 14 := by decide
  apply Page.truncated_ofWidgets
  simp only [List.map_cons, List.map_nil, List.sum_cons, List.sum_nil, closing, back,
    Page.capacity]
  omega

/-- The page that shows a request is whole. -/
theorem truncated_echo (request : Request) :
    (Page.ofWidgets "wisp" [
      .paragraph ("Method: " ++ request.method),
      .paragraph ("Path: " ++ request.path),
      .paragraph ("Query: " ++ request.query)]).truncated = false := by
  have method : request.method.utf8ByteSize ≤ 7 := request.line.method.fits
  have path : request.path.utf8ByteSize ≤ 127 := request.line.path.fits
  have query : request.query.utf8ByteSize ≤ 127 := request.line.query.fits
  have methodLabel : "Method: ".utf8ByteSize = 8 := by decide
  have pathLabel : "Path: ".utf8ByteSize = 6 := by decide
  have queryLabel : "Query: ".utf8ByteSize = 7 := by decide
  have first := Widget.utf8ByteSize_paragraph_le ("Method: " ++ request.method)
  have second := Widget.utf8ByteSize_paragraph_le ("Path: " ++ request.path)
  have third := Widget.utf8ByteSize_paragraph_le ("Query: " ++ request.query)
  have opening : (Page.opening "wisp").utf8ByteSize = 238 := by decide +kernel
  have closing : Page.closing.utf8ByteSize = 14 := by decide
  apply Page.truncated_ofWidgets
  simp only [String.utf8ByteSize_append, methodLabel, pathLabel, queryLabel] at first second third
  simp only [List.map_cons, List.map_nil, List.sum_cons, List.sum_nil, opening, closing,
    Page.capacity]
  omega

/-- **Every page has room for all of its widgets**, whatever the request says. -/
theorem truncated_of_shows {title : String} {widgets : List Widget}
    (shown : Shows request title widgets) (received : request.body.length ≤ 8192) :
    (Page.ofWidgets title widgets).truncated = false := by
  cases shown with
  | start => decide +kernel
  | firmware => decide +kernel
  | echo => exact truncated_echo request
  | @saved ssid _ found =>
    have name := utf8ByteSize_le_of_foundText? found fun _ => Lookup.length_value_le_of_anywhere
    have number : (toString (channel {} request)).utf8ByteSize ≤ 3 :=
      utf8ByteSize_toString_le (by decide) (Nat.lt_trans (channel_lt {} request) (by decide))
    have joining : "Joining ".utf8ByteSize = 8 := by decide
    have on : " on channel ".utf8ByteSize = 12 := by decide
    apply truncated_of_short (by decide +kernel)
    simp only [String.utf8ByteSize_append, joining, on]
    omega
  | @received part _ found =>
    have data := Multipart.length_data_le_of_file? found
    have number : (toString part.data.length).utf8ByteSize ≤ 4 :=
      utf8ByteSize_toString_le (by decide) (by omega)
    have filename := part.filename.fits
    have colon : ": ".utf8ByteSize = 2 := by decide
    have bytes : " bytes".utf8ByteSize = 6 := by decide
    apply truncated_of_short (by decide +kernel)
    simp only [String.utf8ByteSize_append, colon, bytes]
    omega

/-- A header with short texts and a small body fits. -/
theorem length_headerText_le {r : Response} (status : r.status < 10 ^ 3)
    (reason : r.reason.utf8ByteSize ≤ 99) (contentType : r.contentType.utf8ByteSize ≤ 99)
    (body : r.body.length < 10 ^ 4) (extraHeaders : r.extraHeaders = "") :
    (Utf8.encode r.headerText).length ≤ 512 := by
  have digits := utf8ByteSize_toString_le (by decide) status
  have digits' := utf8ByteSize_toString_le (by decide) body
  rw [Response.length_headerText, extraHeaders, String.utf8ByteSize_empty]
  omega

theorem length_headerText_ok_le {contentType : String} {body : Bytes}
    (short : contentType.utf8ByteSize ≤ 99) (small : body.length < 10 ^ 4) :
    (Utf8.encode (Response.ok contentType body).headerText).length ≤ 512 := by
  have status : 200 < 10 ^ 3 := by decide
  have reason : "OK".utf8ByteSize ≤ 99 := by decide
  exact length_headerText_le status reason short small rfl

/-- What a program is told about a network with a short name is short. -/
theorem utf8ByteSize_networkJson_lt {ssid : String} (short : ssid.utf8ByteSize ≤ 127) (on : Bool) :
    (networkJson ssid on).utf8ByteSize < 10 ^ 4 := by
  have quoted := Text.utf8ByteSize_quoted_le ssid
  have flag : (toString on).utf8ByteSize ≤ 5 := by
    cases on <;> decide
  have opening : "\x7b\"ssid\":".utf8ByteSize = 8 := by decide
  have middle : ",\"on\":".utf8ByteSize = 6 := by decide
  have closing : "\x7d".utf8ByteSize = 1 := by decide
  unfold networkJson
  simp only [String.utf8ByteSize_append, opening, middle, closing]
  omega

/-- **Every header fits into its buffer**, whatever the request says. -/
theorem length_headerText_le_of_answers {r : Response} (answers : Answers request r) :
    (Utf8.encode r.headerText).length ≤ 512 := by
  cases answers with
  | @page title widgets =>
    have document := (Page.ofWidgets title widgets).utf8ByteSize_document_le
    have small : (Utf8.encode (Page.ofWidgets title widgets).document).length < 10 ^ 4 := by
      rw [Utf8.length_encode]
      exact Nat.lt_of_le_of_lt document (by decide)
    exact length_headerText_ok_le (by decide) small
  | @joined ssid _ found =>
    have name := utf8ByteSize_le_of_foundText? found fun _ => Lookup.length_value_le_of_inPlace
    have small : (Utf8.encode (networkJson ssid (wantsOn {} request))).length < 10 ^ 4 := by
      rw [Utf8.length_encode]
      exact utf8ByteSize_networkJson_lt name _
    exact length_headerText_ok_le (by decide) small
  | nameless | fileless | notFound =>
    exact length_headerText_le (by decide) (by decide) (by decide) (by decide) rfl

/-! ## Routes -/

theorem asks_of_accepts {route : Route} {method : String} (named : route.method = some method)
    (accepts : route.accepts request = true) : Asks request method route.path := by
  obtain ⟨path, only⟩ := Route.accepts_iff.1 accepts
  exact ⟨(only method named).symm, path⟩

/-- What the portal does with a request. Its exchange is the one after a single response, unless the
request names no network where it has to. -/
inductive Replies (request : Request) : Prop where
  | nothing : Asks request "POST" "/api/wifi" → ¬ NamesNetwork request →
      (∀ x shutdown, (routes.answer x shutdown request).exchange = x) → Replies request
  | response {r : Response} : ¬ (Asks request "POST" "/api/wifi" ∧ ¬ NamesNetwork request) →
      Answers request r →
        (∀ x shutdown, (routes.answer x shutdown request).exchange = (x.send r).2) → Replies request

theorem replies_of_notFound (notFound : routes.find? request = none) : Replies request := by
  refine .response ?_ (.notFound notFound) ?_
  · rintro ⟨asks, -⟩
    have listed : Route.post "/api/wifi" joinNetworkJson ∈ routes := by
      unfold routes
      simp
    apply List.find?_eq_none.1 notFound _ listed
    apply Route.accepts_iff.2
    refine ⟨asks.path, ?_⟩
    rintro method ⟨⟩
    exact asks.method.symm
  · intro x shutdown
    exact (RouteTable.answer_of_notFound notFound x shutdown).2

/-- A route that sends one response replies with it. -/
theorem replies_of_respond {route : Route} {r : Response}
    (found : routes.find? request = some route)
    (allowed : ¬ (Asks request "POST" "/api/wifi" ∧ ¬ NamesNetwork request))
    (answers : Answers request r) (reply : route.handler request = .respond r) :
    Replies request := by
  apply Replies.response allowed answers
  intro x shutdown
  rw [(RouteTable.answer_of_found found x shutdown).2, reply]
  rfl

/-- A route that gives up replies with nothing. -/
theorem replies_of_fail {route : Route} {reason : String}
    (found : routes.find? request = some route) (asks : Asks request "POST" "/api/wifi")
    (absent : ¬ NamesNetwork request) (reply : route.handler request = .fail reason) :
    Replies request := by
  apply Replies.nothing asks absent
  intro x shutdown
  rw [(RouteTable.answer_of_found found x shutdown).2, reply]
  rfl

/-- A form for joining a network gets one response. -/
theorem exists_answer_joinNetwork (asks : Asks request "POST" "/wifi/apply") :
    ∃ r, Answers request r ∧ joinNetwork request = .respond r := by
  cases text : foundText? (Lookup.anywhere {} request "ssid") with
  | none =>
    refine ⟨_, .nameless asks text, ?_⟩
    simp only [joinNetwork, text]
    rfl
  | some ssid =>
    refine ⟨_, .page (.saved asks text), ?_⟩
    simp only [joinNetwork, text, channel_alike (Lookup.anywhere {} request "ssid").2]
    rfl

/-- An upload gets one response. -/
theorem exists_answer_receiveFirmware (asks : Asks request "POST" "/fw/upload") :
    ∃ r, Answers request r ∧ receiveFirmware request = .respond r := by
  cases file : Multipart.file? request "fw" with
  | none =>
    refine ⟨_, .fileless asks file, ?_⟩
    simp only [receiveFirmware, file]
    rfl
  | some part =>
    refine ⟨_, .page (.received asks file), ?_⟩
    simp only [receiveFirmware, file]
    rfl

/-- A program that names a network gets one response. -/
theorem exists_answer_joinNetworkJson (asks : Asks request "POST" "/api/wifi")
    (named : NamesNetwork request) :
    ∃ r, Answers request r ∧ joinNetworkJson request = .respond r := by
  cases text : foundText? (Lookup.inJson {} request "ssid") with
  | none => exact absurd named (foundText?_inJson_eq_none_iff.1 text)
  | some ssid =>
    refine ⟨_, .joined asks text, ?_⟩
    simp only [joinNetworkJson, text, wantsOn_alike (Lookup.inJson {} request "ssid").2]

/-- A program that names none gets nothing. -/
theorem joinNetworkJson_of_nameless (absent : ¬ NamesNetwork request) :
    joinNetworkJson request = .fail "json body needs ssid" := by
  rw [joinNetworkJson]
  simp only [foundText?_inJson_eq_none_iff.2 absent]

/-- **A request gets one response**, unless it names no network where it has to. -/
theorem replies (request : Request) : Replies request := by
  cases found : routes.find? request with
  | none => exact replies_of_notFound found
  | some route =>
    have accepts : route.accepts request = true :=
      List.find?_some (p := fun r : Route => r.accepts request) found
    have path := (Route.accepts_iff.1 accepts).1
    -- Only one of the routes has the path under which a request may be of no use.
    have elsewhere (other : route.path ≠ "/api/wifi") :
        ¬ (Asks request "POST" "/api/wifi" ∧ ¬ NamesNetwork request) := by
      rintro ⟨asks, -⟩
      exact other (path.symm.trans asks.path)
    have mem := List.mem_of_find?_eq_some found
    simp only [routes, List.mem_cons, List.not_mem_nil, or_false] at mem
    obtain rfl | rfl | rfl | rfl | rfl | rfl := mem
    · have asks : Asks request "GET" "/" := asks_of_accepts rfl accepts
      exact replies_of_respond found (elsewhere (by decide)) (.page (.start asks)) rfl
    · obtain ⟨r, answers, reply⟩ := exists_answer_joinNetwork (asks_of_accepts rfl accepts)
      exact replies_of_respond found (elsewhere (by decide)) answers reply
    · have asks : Asks request "POST" "/api/wifi" := asks_of_accepts rfl accepts
      by_cases named : NamesNetwork request
      · obtain ⟨r, answers, reply⟩ := exists_answer_joinNetworkJson asks named
        exact replies_of_respond found (fun refused => refused.2 named) answers reply
      · exact replies_of_fail found asks named (joinNetworkJson_of_nameless named)
    · have asks : Asks request "GET" "/upload" := asks_of_accepts rfl accepts
      exact replies_of_respond found (elsewhere (by decide)) (.page (.firmware asks)) rfl
    · obtain ⟨r, answers, reply⟩ := exists_answer_receiveFirmware (asks_of_accepts rfl accepts)
      exact replies_of_respond found (elsewhere (by decide)) answers reply
    · exact replies_of_respond found (elsewhere (by decide)) (.page (.echo path)) rfl

/-! ## One connection -/

/-- What is written to a connection over which given bytes have come. -/
structure AnswersWhole (d : Bytes) (c ended : Connection) : Prop where
  /-- To bytes that are of no use, nothing is written. -/
  silent : Unusable d → ended.written = c.written
  /-- All others are a request and get one response, of which nothing is missing unless the
  connection does not take it. -/
  response : ¬ Unusable d → ∃ request r, Request.ofBytes (d.take 8192) = .ok request ∧
    Answers request r ∧ (∃ sent, sent <+: r.message ∧ ended.written = c.written ++ sent) ∧
      ((∀ kind, ¬ c.Obstructs kind) → ended.written = c.written ++ r.message)
  /-- So a peer that gets nothing knows why. -/
  silent_iff : (∀ kind, ¬ c.Obstructs kind) → (ended.written = c.written ↔ Unusable d)
  /-- The page that the request gets has all of its widgets. -/
  page : ∀ {request : Request} {title : String} {widgets : List Widget},
    Request.ofBytes (d.take 8192) = .ok request → Shows request title widgets →
      (Page.ofWidgets title widgets).truncated = false
  /-- The header of the response fits. -/
  header : ∀ {request : Request} {r : Response}, Request.ofBytes (d.take 8192) = .ok request →
    Answers request r → (Utf8.encode r.headerText).length ≤ 512

variable {s : Server} {c : Connection}

/-- Receiving adds no obstruction to a connection. -/
theorem obstructs_of_receive {b : ReceiveBuffer} {kind : FaultKind}
    (later : (Reception.receive b c).connection.Obstructs kind) : c.Obstructs kind := by
  have reads : Connection.ReadSimulation fun c' c'' =>
      c' = c'' ∧ (c'.Obstructs kind → c.Obstructs kind) := by
    apply Connection.ReadSimulation.ofInvariant
    intro c' room before after
    apply before
    cases after with
    | fault mem lasting => exact .fault mem lasting
    | stall mem => exact .stall mem
    | standstill none => exact .standstill none
  exact (Reception.related_resume reads (d := c) ⟨rfl, id⟩ b.reset).2.2.2 later

/-- A request that was received is answered on the connection as its reception has left it. -/
theorem written_attend_of_received
    (received : (Reception.receive s.receiveBuffer c).outcome = .ok (some request)) :
    (s.attend c).2.written =
      (s.routes.answer
        (.opened (Reception.receive s.receiveBuffer c).connection s.headerBuffer) s.shutdown
          request).exchange.connection.written := by
  rw [Server.attend, Server.handle]
  simp only [received]
  rfl

/-- What is written of a response that fits. -/
theorem written_send_of_fits {b : HeaderBuffer} {r : Response} (ends : r.ExtraHeadersEnd)
    (fits : (Utf8.encode r.headerText).length ≤ b.capacity) :
    (∃ sent, sent <+: r.message ∧
        ((Exchange.opened c b).send r).2.connection.written = c.written ++ sent) ∧
      ((∀ kind, ¬ c.Obstructs kind) →
        ((Exchange.opened c b).send r).2.connection.written = c.written ++ r.message) := by
  have sends := Exchange.sends_send (x := .opened c b) rfl ends
  refine ⟨sends.accepted.beginning, ?_⟩
  intro clear
  generalize ((Exchange.opened c b).send r).1 = answer, ((Exchange.opened c b).send r).2 = y
    at sends
  cases sends with
  | overflow tooLong => exact absurd fits (Nat.not_le.2 tooLong)
  | fits _ _ written transmits =>
    cases transmits with
    | whole | unflushed => exact written
    | cutOff _ _ obstructs => exact absurd obstructs (clear _)

theorem extraHeadersEnd_of_answers {r : Response} (answers : Answers request r) :
    r.ExtraHeadersEnd := by
  cases answers <;> exact .inl rfl

section Attend

variable (facilities : s.facilities = ⟨routes, 8192, 512⟩) (delivers : DeliversAtOnce d c.arrivals)
include facilities delivers

/-- The request that is received is the one that the bytes read as. -/
theorem received_iff (request : Request) :
    (Reception.receive s.receiveBuffer c).outcome = .ok (some request) ↔
      Request.ofBytes (d.take 8192) = .ok request := by
  have capacity : s.receiveBuffer.capacity = 8192 := congrArg Facilities.receiveCapacity facilities
  rw [← capacity]
  apply Reception.received_iff_of_deliversAtOnce delivers
  rw [capacity]
  decide

/-- To bytes that are of no use, nothing is written. -/
theorem written_attend_of_unusable (unusable : Unusable d) :
    (s.attend c).2.written = c.written := by
  rw [unusable_iff] at unusable
  by_cases read : ∃ request, Request.ofBytes (d.take 8192) = .ok request
  · obtain ⟨request, read⟩ := read
    have same : s.routes = routes := congrArg Facilities.routes facilities
    rw [written_attend_of_received ((received_iff facilities delivers request).2 read), same]
    cases replies request with
    | nothing _ _ reply =>
      rw [reply]
      exact Reception.written_resume _ _
    | response allowed => exact absurd (unusable request read) allowed
  · apply (Server.unanswered_attend ?_).1
    intro request received
    exact read ⟨request, (received_iff facilities delivers request).1 received⟩

/-- To all others, one response is written. -/
theorem exists_written_attend (usable : ¬ Unusable d) :
    ∃ request r, Request.ofBytes (d.take 8192) = .ok request ∧ Answers request r ∧
      (∃ sent, sent <+: r.message ∧ (s.attend c).2.written = c.written ++ sent) ∧
        ((∀ kind, ¬ c.Obstructs kind) → (s.attend c).2.written = c.written ++ r.message) := by
  simp only [unusable_iff, not_forall] at usable
  obtain ⟨request, read, allowed⟩ := usable
  have same : s.routes = routes := congrArg Facilities.routes facilities
  have capacity : s.headerBuffer.capacity = 512 := congrArg Facilities.headerCapacity facilities
  have unread : (Reception.receive s.receiveBuffer c).connection.written = c.written :=
    Reception.written_resume _ _
  cases replies request with
  | nothing asks absent => exact absurd ⟨asks, absent⟩ allowed
  | @response r _ answers reply =>
    have fits : (Utf8.encode r.headerText).length ≤ s.headerBuffer.capacity := by
      rw [capacity]
      exact length_headerText_le_of_answers answers
    obtain ⟨beginning, complete⟩ := written_send_of_fits
      (c := (Reception.receive s.receiveBuffer c).connection)
      (extraHeadersEnd_of_answers answers) fits
    rw [unread] at beginning complete
    rw [written_attend_of_received ((received_iff facilities delivers request).2 read), same, reply]
    refine ⟨request, r, read, answers, beginning, ?_⟩
    intro clear
    exact complete fun kind obstructs => clear kind (obstructs_of_receive obstructs)

/-- **A connection of the portal is answered completely.** -/
theorem answersWhole_attend : AnswersWhole d c (s.attend c).2 where
  silent := written_attend_of_unusable facilities delivers
  response := exists_written_attend facilities delivers
  silent_iff := by
    intro clear
    refine ⟨?_, written_attend_of_unusable facilities delivers⟩
    intro unwritten
    by_contra usable
    obtain ⟨request, r, -, -, -, complete⟩ := exists_written_attend facilities delivers usable
    rw [complete clear, List.append_right_eq_self] at unwritten
    exact r.message_ne_nil unwritten
  page := by
    intro request title widgets read shown
    apply truncated_of_shows shown
    exact (Request.length_body_le_of_ofBytes read).trans (List.length_take_le _ _)
  header _ answers := length_headerText_le_of_answers answers

end Attend

/-! ## Any history -/

theorem facilities_bind {source : ConnectionSource} {device : Device}
    (bound : bind source device = .ok s) : s.facilities = ⟨routes, 8192, 512⟩ :=
  Server.facilities_bind bound

/-- **The portal answers every usable request completely**, to a peer that sends it in one piece,
and after any history in which nobody exchanges its routes. -/
theorem every_usable_request_answered {source : ConnectionSource} {device : Device}
    (bound : bind source device = .ok s) {history : List Server.Call}
    (kept : ∀ table, .influence (.routes table) ∉ history) (accepts : (s.after history).Accepts c)
    (delivers : DeliversAtOnce d c.arrivals) :
    ∃ ended,
      (s.after history).step.2.source.served = (s.after history).source.served ++ [ended] ∧
        AnswersWhole d c ended := by
  obtain ⟨-, handedBack⟩ := Server.step_of_accepts accepts
  have facilities := (Server.facilities_after_of_kept kept).trans (facilities_bind bound)
  exact ⟨_, congrArg Service.served handedBack, answersWhole_attend facilities delivers⟩

/-- The name of the network has to be escaped. Before it come a request that is cut off, one that
names no network, and a restart. -/
theorem escaped_name_answered :
    let cutOff := Utf8.encode "POST /api/wifi HTTP/1.1\r\nContent-Length: 5\r\n\r\nab"
    let nameless := Utf8.encode "POST /api/wifi HTTP/1.1\r\n\r\n"
    let d := Utf8.encode "POST /wifi/apply?ssid=%3Ctwo%22 HTTP/1.1\r\n\r\n"
    let c : Connection := { arrivals := [.fault .interrupted, .data d] }
    let source : ConnectionSource :=
      { accepts := [
          .connection { arrivals := [.data cutOff] },
          .connection { arrivals := [.data nameless] },
          .connection c] }
    let history : List Server.Call := [.step, .step, .restart]
    ∃ s, bind source {} = .ok s ∧ ∃ ended,
      (s.after history).step.2.source.served = (s.after history).source.served ++ [ended] ∧
        AnswersWhole d c ended := by
  intro cutOff nameless d c source history
  have answered (s : Server) (bound : bind source {} = .ok s)
      (accepts : (s.after history).Accepts c) : ∃ ended,
      (s.after history).step.2.source.served = (s.after history).source.served ++ [ended] ∧
        AnswersWhole d c ended := by
    have kept : ∀ table, .influence (.routes table) ∉ history := by simp [history]
    have delivers : DeliversAtOnce d c.arrivals :=
      .interruption (.piece (by decide) .usedUp)
    exact every_usable_request_answered bound kept accepts delivers
  refine ⟨_, rfl, answered _ rfl ⟨?_, ?_⟩⟩
  · decide +kernel
  · decide +kernel

end SetupPortal

end DeviceHttp
