import DeviceHttp.Proofs.CutNames
import DeviceHttp.Proofs.LineGrammar

/-!
# Routing by the names that were sent

A request whose method and path are short keeps them as a whole, so its route is a matter of what
the peer has sent and of nothing else. **The handler of the first route that the line names is
called, once, and no other one**; if the line names no route, no handler is called and the answer is
404 (`RouteTable.routes_by_sentNames`).

What the line is follows from the bytes by the grammar of request lines (`SentLine.StandsIn`). It
leaves open how many spaces there are, what query and version the line has, and everything behind
the line. So two requests that agree in method and path have the same route, and routes that are
added behind the others take no request from them.

## Main definitions

* `SentLine.StandsIn` — the line with which some bytes begin
* `RouteTable.dispatch` — answering a request row by row, with a record of the handlers that are
  called
* `RouteTable.IsFirstNamed` — the first route of a table that a line names, and its place

## How

The search stops at the first row that accepts the request, and one pass over the rows shows that
its record has the place of that row and nothing more (`RouteTable.run_dispatchFrom`). A row accepts
a request with short names exactly if the line names it (`Request.SentAs.accepts_iff_namedBy`).
-/

namespace DeviceHttp

/-! ## The line in the bytes -/

namespace SentLine

variable {sent : SentLine} {d : Bytes}

/-- The bytes begin with the line and a line ending. The method is its first token, and path and
query are the parts of the second one. -/
def StandsIn (sent : SentLine) (d : Bytes) : Prop :=
  ∃ (text : String) (rest : Bytes) (uri : List Char) (others : List (List Char)),
    d = Utf8.encode text ++ (Bytes.crlf ++ rest) ∧ ¬ Bytes.crlf <:+: Utf8.encode text ∧
      RequestLine.TokensOf text.toList (sent.method.toList :: uri :: others) ∧
        RequestLine.DividesInto uri sent.path.toList sent.query.toList

theorem ofChars?_eq_some_iff {cs : List Char} : ofChars? cs = some sent ↔
    ∃ uri others, RequestLine.TokensOf cs (sent.method.toList :: uri :: others) ∧
      RequestLine.DividesInto uri sent.path.toList sent.query.toList := by
  simp only [RequestLine.tokensOf_iff, RequestLine.dividesInto_iff]
  rw [ofChars?]
  constructor
  · intro named
    split at named
    · next method uri others tokens =>
      cases named
      refine ⟨uri, others, ?_, ?_⟩
      · rw [tokens, String.toList_ofList]
      · simp only [String.toList_ofList]
        rfl
    · cases named
  · rintro ⟨uri, others, tokens, divides⟩
    rw [tokens]
    simp only [divides, String.ofList_toList]

/-- The line is the one that is found in the bytes. -/
theorem standsIn_iff : sent.StandsIn d ↔ ofBytes? d = some sent := by
  simp only [ofBytes?, Option.bind_eq_bind, Option.bind_eq_some_iff, Utf8.decode?_eq_some_iff,
    ofChars?_eq_some_iff]
  constructor
  · rintro ⟨text, rest, uri, others, rfl, unended, tokens, divides⟩
    have ended : Bytes.indexOf? Bytes.crlf (Utf8.encode text ++ (Bytes.crlf ++ rest)) =
        some (Utf8.encode text).length := Bytes.indexOf?_append_needle (by decide) unended rest
    exact ⟨_, ended, text, List.take_left, uri, others, tokens, divides⟩
  · rintro ⟨lineEnd, ended, text, line, uri, others, tokens, divides⟩
    obtain ⟨-, rest, behind⟩ := Bytes.drop_of_indexOf? ended
    refine ⟨text, rest, uri, others, ?_, ?_, tokens, divides⟩
    · rw [← line, ← behind, List.take_append_drop]
    · rw [← line]
      exact Bytes.not_infix_take_of_indexOf? ended

end SentLine

/-- What a line names is a matter of its method and its path. -/
theorem Route.namedBy_congr {route : Route} {sent sent' : SentLine}
    (method : sent.method = sent'.method) (path : sent.path = sent'.path) :
    route.NamedBy sent ↔ route.NamedBy sent' :=
  ⟨fun named => ⟨path ▸ named.path, fun m asked => method ▸ named.method m asked⟩,
    fun named => ⟨path ▸ named.path, fun m asked => method ▸ named.method m asked⟩⟩

/-- The request was sent with the line: it holds what was read from bytes that begin with it. -/
def Request.SentAs (r : Request) (sent : SentLine) : Prop :=
  ∃ d, r.ReadFrom d ∧ sent.StandsIn d

theorem Request.exists_sentAs {d : Bytes} {sent : SentLine}
    (readable : (Request.ofBytes d).toOption.isSome = true)
    (named : SentLine.ofBytes? d = some sent) : ∃ r : Request, r.SentAs sent := by
  obtain ⟨r, read⟩ := Option.isSome_iff_exists.1 readable
  cases outcome : Request.ofBytes d with
  | ok r => exact ⟨r, d, .whole outcome, SentLine.standsIn_iff.2 named⟩
  | error e =>
    rw [outcome] at read
    cases read

/-- A route accepts a request with short names exactly if the line names the route. -/
theorem Request.SentAs.accepts_iff_namedBy {route : Route} {sent : SentLine} {r : Request}
    (sentAs : r.SentAs sent) (fits : sent.Fits) :
    route.accepts r = true ↔ route.NamedBy sent := by
  obtain ⟨d, read, stands⟩ := sentAs
  rw [Route.accepts_iff_namedBy_kept read (SentLine.standsIn_iff.1 stands)]
  have method : sent.kept.method = sent.method := BoundedText.text_copyOf_of_fits fits.method
  have path : sent.kept.path = sent.path := BoundedText.text_copyOf_of_fits fits.path
  exact Route.namedBy_congr method path

namespace RouteTable

/-! ## Dispatching row by row -/

section Dispatch

variable (x : Exchange) (shutdown : Bool) (request : Request)

/-- Calls the handler of a row and writes down the place of the row. -/
def call (place : Nat) (route : Route) : StateM (List Nat) Ending := do
  modify (· ++ [place])
  let ending := (route.handler request).run x shutdown
  return ⟨handled ending, ending.exchange, ending.shutdown⟩

/-- Sends a 404. -/
def sendNotFound : Ending :=
  let (outcome, x) := x.send .notFound
  ⟨outcome.map fun () => .notFound, x, shutdown⟩

/-- Compares the rows with the request one by one, the first of which has the given place. -/
def dispatchFrom : (place : Nat) → (routes : RouteTable) → StateM (List Nat) Ending
  | _, [] => return sendNotFound x shutdown
  | place, route :: routes =>
    if route.accepts request then call x shutdown request place route
    else dispatchFrom (place + 1) routes

/-- Answers a request. The second result is the places of the handlers that were called, in
order. -/
def dispatch (routes : RouteTable) : Ending × List Nat :=
  (dispatchFrom x shutdown request 0 routes).run []

/-- **The record holds the place of the first row that accepts the request, if there is one**, and
the ending is the answer of the table. -/
theorem run_dispatchFrom (routes : RouteTable) (place : Nat) (calls : List Nat) :
    (dispatchFrom x shutdown request place routes).run calls =
      (routes.answer x shutdown request,
        calls ++ ((routes.findIdx? (·.accepts request)).map (· + place)).toList) := by
  induction routes generalizing place with
  | nil =>
    rw [List.findIdx?_nil, Option.map_none, Option.toList_none, List.append_nil]
    rfl
  | cons route routes ih =>
    rw [dispatchFrom, List.findIdx?_cons]
    cases accepts : route.accepts request with
    | true =>
      have found : find? (route :: routes) request = some route := List.find?_cons_of_pos accepts
      rw [if_pos rfl, if_pos rfl, Option.map_some, Nat.zero_add, answer, found]
      rfl
    | false =>
      have passed : find? (route :: routes) request = find? routes request :=
        List.find?_cons_of_neg (by rw [accepts]; exact Bool.false_ne_true)
      have shifted : (· + place) ∘ (· + 1) = (· + (place + 1)) := by
        funext i
        exact Nat.add_right_comm i 1 place
      rw [if_neg Bool.false_ne_true, if_neg Bool.false_ne_true, ih, Option.map_map, shifted,
        answer, answer, passed]

theorem dispatch_eq (routes : RouteTable) : dispatch x shutdown request routes =
    (routes.answer x shutdown request, (routes.findIdx? (·.accepts request)).toList) := by
  have unmoved : ((routes.findIdx? (·.accepts request)).map (· + 0)).toList =
      (routes.findIdx? (·.accepts request)).toList := congrArg Option.toList Option.map_id'
  rw [dispatch, run_dispatchFrom, List.nil_append, unmoved]

end Dispatch

/-! ## The route of a line -/

variable {routes : RouteTable} {sent : SentLine} {r : Request} {place : Nat}
  {route : Route}

/-- The route stands at a place of the table, the line names it, and it names no route in front of
it. -/
structure IsFirstNamed (routes : RouteTable) (sent : SentLine) (place : Nat) (route : Route) :
    Prop where
  stands : routes[place]? = some route
  named : route.NamedBy sent
  first : ∀ earlier < place, ∀ other, routes[earlier]? = some other → ¬ other.NamedBy sent

/-- Routes behind the others do not change which one is the first. -/
theorem IsFirstNamed.append (first : routes.IsFirstNamed sent place route) (more : RouteTable) :
    (routes ++ more).IsFirstNamed sent place route := by
  obtain ⟨inside, stands⟩ := List.getElem?_eq_some_iff.1 first.stands
  refine ⟨?_, first.named, fun earlier before other there => ?_⟩
  · rw [List.getElem?_append_left inside, first.stands]
  · rw [List.getElem?_append_left (Nat.lt_trans before inside)] at there
    exact first.first earlier before other there

/-- A search for a named route finds the first one. -/
theorem findIdx?_eq_some_iff_of_names {p : Route → Bool}
    (names : ∀ route, p route = true ↔ route.NamedBy sent) :
    routes.findIdx? p = some place ↔ ∃ route, routes.IsFirstNamed sent place route := by
  rw [List.findIdx?_eq_some_iff_getElem]
  constructor
  · rintro ⟨inside, named, first⟩
    refine ⟨routes[place], List.getElem?_eq_getElem inside, (names _).1 named, ?_⟩
    intro earlier before other there
    obtain ⟨_, rfl⟩ := List.getElem?_eq_some_iff.1 there
    exact fun other => first earlier before ((names _).2 other)
  · rintro ⟨route, there, named, first⟩
    obtain ⟨inside, rfl⟩ := List.getElem?_eq_some_iff.1 there
    refine ⟨inside, (names _).2 named, fun earlier before other => ?_⟩
    have there := List.getElem?_eq_getElem (Nat.lt_trans before inside)
    exact first earlier before _ there ((names _).1 other)

theorem findIdx?_eq_none_iff_of_names {p : Route → Bool}
    (names : ∀ route, p route = true ↔ route.NamedBy sent) :
    routes.findIdx? p = none ↔ ∀ route ∈ routes, ¬ route.NamedBy sent := by
  simp only [List.findIdx?_eq_none_iff, ← names, Bool.not_eq_true]

/-- A line names a first route, or it names none. -/
theorem exists_isFirstNamed_or (routes : RouteTable) (sent : SentLine) :
    (∃ place route, routes.IsFirstNamed sent place route) ∨
      ∀ route ∈ routes, ¬ route.NamedBy sent := by
  have names : ∀ route : Route, decide (route.NamedBy sent) = true ↔ route.NamedBy sent :=
    fun _ => decide_eq_true_iff
  cases found : routes.findIdx? fun route => decide (route.NamedBy sent) with
  | some place => exact .inl ⟨place, (findIdx?_eq_some_iff_of_names names).1 found⟩
  | none => exact .inr ((findIdx?_eq_none_iff_of_names names).1 found)

/-- What is done for a request without a route: a complete 404 is attempted, and how that went is
how the request was answered. -/
structure AttemptsNotFound (x : Exchange) (shutdown : Bool) (ending : Ending) : Prop where
  exchange : ending.exchange = (x.send .notFound).2
  sent : (x.send .notFound).1 = .ok () → ending.outcome = .ok .notFound
  failed : ∀ {e : Error}, (x.send .notFound).1 = .error e → ending.outcome = .error e
  shutdown : ending.shutdown = shutdown
  /-- Unless there was a response before, the sending goes as that of every response. -/
  accepted : x.answered = false →
    x.Accepted .notFound (x.send .notFound).1 ending.exchange
  complete : x.answered = false → ending.outcome = .ok .notFound →
    ending.exchange.connection.written = x.connection.written ++ Utf8.encode
      ("HTTP/1.1 404 Not Found\r\nContent-Type: text/plain\r\nContent-Length: 15\r\n" ++
        "Connection: close\r\n\r\n404 Not Found\r\n")

theorem attemptsNotFound (x : Exchange) (shutdown : Bool) :
    AttemptsNotFound x shutdown (sendNotFound x shutdown) := by
  have accepted : x.answered = false →
      x.Accepted .notFound (x.send .notFound).1 (x.send .notFound).2 :=
    fun unanswered => (Exchange.sends_send unanswered (.inl rfl)).accepted
  have outcome : (sendNotFound x shutdown).outcome =
      (x.send .notFound).1.map fun () => .notFound := rfl
  refine ⟨rfl, fun sent => ?_, fun failed => ?_, rfl, accepted, fun unanswered ok => ?_⟩
  · rw [outcome, sent]
    rfl
  · rw [outcome, failed]
    rfl
  · have sent : (x.send .notFound).1 = .ok () := by
      rw [outcome] at ok
      cases answer : (x.send .notFound).1 with
      | ok => rfl
      | error e =>
        rw [answer] at ok
        cases ok
    have message : Response.notFound.message = Utf8.encode
        ("HTTP/1.1 404 Not Found\r\nContent-Type: text/plain\r\nContent-Length: 15\r\n" ++
          "Connection: close\r\n\r\n404 Not Found\r\n") := by decide +kernel
    rw [← message]
    exact (accepted unanswered).complete sent

/-! ## Tables and requests -/

/-- How a table of routes treats the requests with short names. -/
structure RoutesBySentNames (routes : RouteTable) : Prop where
  /-- A line names a first route, or it names none. -/
  exists_or : ∀ sent : SentLine, (∃ place route, routes.IsFirstNamed sent place route) ∨
    ∀ route ∈ routes, ¬ route.NamedBy sent
  /-- The handler of the first route that the line names is called, once, and no other one. -/
  called : ∀ {r : Request} {sent : SentLine} {place : Nat} {route : Route}, r.SentAs sent →
    sent.Fits → routes.IsFirstNamed sent place route → ∀ (x : Exchange) (shutdown : Bool),
      (dispatch x shutdown r routes).2 = [place] ∧
        (dispatch x shutdown r routes).1.outcome = handled ((route.handler r).run x shutdown) ∧
          (dispatch x shutdown r routes).1.exchange = ((route.handler r).run x shutdown).exchange
  /-- If the line names no route, no handler is called. -/
  missed : ∀ {r : Request} {sent : SentLine}, r.SentAs sent → sent.Fits →
    (∀ route ∈ routes, ¬ route.NamedBy sent) → ∀ (x : Exchange) (shutdown : Bool),
      (dispatch x shutdown r routes).2 = [] ∧
        AttemptsNotFound x shutdown (dispatch x shutdown r routes).1
  /-- Requests that agree in method and path have the same route, whatever else they hold. -/
  alike : ∀ {r r' : Request} {sent sent' : SentLine}, r.SentAs sent → r'.SentAs sent' →
    sent.Fits → sent.method = sent'.method → sent.path = sent'.path →
      ∀ (x x' : Exchange) (shutdown shutdown' : Bool),
        (dispatch x shutdown r routes).2 = (dispatch x' shutdown' r' routes).2
  /-- Routes behind the others take no request from them. -/
  extended : ∀ {r : Request} {sent : SentLine} {place : Nat} {route : Route}, r.SentAs sent →
    sent.Fits → routes.IsFirstNamed sent place route →
      ∀ (more : RouteTable) (x : Exchange) (shutdown : Bool),
        dispatch x shutdown r (routes ++ more) = dispatch x shutdown r routes
  /-- The record is only written beside what a table answers. -/
  answers : ∀ (r : Request) (x : Exchange) (shutdown : Bool),
    (dispatch x shutdown r routes).1 = routes.answer x shutdown r

theorem dispatch_of_isFirstNamed (sentAs : r.SentAs sent) (fits : sent.Fits)
    (first : routes.IsFirstNamed sent place route) (x : Exchange) (shutdown : Bool) :
    dispatch x shutdown r routes =
      (⟨handled ((route.handler r).run x shutdown), ((route.handler r).run x shutdown).exchange,
        ((route.handler r).run x shutdown).shutdown⟩, [place]) := by
  have names : ∀ route : Route, route.accepts r = true ↔ route.NamedBy sent :=
    fun _ => sentAs.accepts_iff_namedBy fits
  have found := (findIdx?_eq_some_iff_of_names names).2 ⟨route, first⟩
  have same : routes.find? r = some route := by
    rw [find?, List.find?_eq_bind_findIdx?_getElem?, found]
    exact first.stands
  rw [dispatch_eq, found, answer, same]
  rfl

theorem dispatch_of_unnamed (sentAs : r.SentAs sent) (fits : sent.Fits)
    (unnamed : ∀ route ∈ routes, ¬ route.NamedBy sent) (x : Exchange) (shutdown : Bool) :
    dispatch x shutdown r routes = (sendNotFound x shutdown, []) := by
  have names : ∀ route : Route, route.accepts r = true ↔ route.NamedBy sent :=
    fun _ => sentAs.accepts_iff_namedBy fits
  have missed := (findIdx?_eq_none_iff_of_names names).2 unnamed
  have same : routes.find? r = none := by
    rw [find?, List.find?_eq_bind_findIdx?_getElem?, missed]
    rfl
  rw [dispatch_eq, missed, answer, same]
  rfl

/-- **Requests with short names are routed by the names that were sent.** -/
theorem routes_by_sentNames (routes : RouteTable) : routes.RoutesBySentNames where
  exists_or := exists_isFirstNamed_or routes
  called sentAs fits first x shutdown := by
    rw [dispatch_of_isFirstNamed sentAs fits first]
    exact ⟨rfl, rfl, rfl⟩
  missed sentAs fits unnamed x shutdown := by
    rw [dispatch_of_unnamed sentAs fits unnamed]
    exact ⟨rfl, attemptsNotFound x shutdown⟩
  alike {r r' sent sent'} sentAs sentAs' fits method path x x' shutdown shutdown' := by
    have fits' : sent'.Fits := ⟨method ▸ fits.method, path ▸ fits.path⟩
    have accepts : (fun route : Route => route.accepts r) = fun route => route.accepts r' := by
      funext route
      rw [Bool.eq_iff_iff, sentAs.accepts_iff_namedBy fits, sentAs'.accepts_iff_namedBy fits']
      exact Route.namedBy_congr method path
    rw [dispatch_eq, dispatch_eq, accepts]
  extended sentAs fits first more x shutdown := by
    rw [dispatch_of_isFirstNamed sentAs fits first,
      dispatch_of_isFirstNamed sentAs fits (first.append more)]
  answers r x shutdown := by rw [dispatch_eq]

/-- Two spellings of one line, and a path in another case. The third route is the first one that
the line names, and the routes behind it change nothing. -/
theorem routes_by_sentNames_respelled :
    let greet : Handler := fun _ => .respond (.ok MediaType.plainText (Utf8.encode "hello"))
    let routes : RouteTable := [.post "/a" greet, .any "/a/" greet, .any "/a" greet]
    let more : RouteTable := [.get "/a" greet, .any "/a" greet]
    ∃ r r' r'' : Request, r.SentAs ⟨"GET", "/a", "z=1"⟩ ∧ r'.SentAs ⟨"GET", "/a", ""⟩ ∧
      r''.SentAs ⟨"GET", "/A", ""⟩ ∧ ∀ (x : Exchange) (shutdown : Bool),
        (dispatch x shutdown r routes).2 = [2] ∧
          (dispatch x shutdown r routes).1 = (dispatch x shutdown r (routes ++ more)).1 ∧
            (dispatch x shutdown r' routes).2 = [2] ∧ (dispatch x shutdown r'' routes).2 = [] := by
  intro greet routes more
  obtain ⟨r, sentAs⟩ : ∃ r : Request, r.SentAs ⟨"GET", "/a", "z=1"⟩ :=
    Request.exists_sentAs (d := Utf8.encode "GET /a?z=1 HTTP/1.1\r\n\r\n") (by decide +kernel)
      (by decide +kernel)
  obtain ⟨r', sentAs'⟩ : ∃ r : Request, r.SentAs ⟨"GET", "/a", ""⟩ :=
    Request.exists_sentAs
      (d := Utf8.encode "  GET   /a HTTP/2.0 more\r\nContent-Length: 1\r\n\r\nx")
      (by decide +kernel) (by decide +kernel)
  obtain ⟨r'', sentAs''⟩ : ∃ r : Request, r.SentAs ⟨"GET", "/A", ""⟩ :=
    Request.exists_sentAs (d := Utf8.encode "GET /A HTTP/1.1\r\n\r\n") (by decide +kernel)
      (by decide +kernel)
  have fits : SentLine.Fits ⟨"GET", "/a", "z=1"⟩ := by decide
  have names : ∀ route : Route, decide (route.NamedBy ⟨"GET", "/a", "z=1"⟩) = true ↔
      route.NamedBy ⟨"GET", "/a", "z=1"⟩ := fun _ => decide_eq_true_iff
  have third : routes.findIdx? (fun route => decide (route.NamedBy ⟨"GET", "/a", "z=1"⟩)) =
      some 2 := by decide
  obtain ⟨route, first⟩ := (findIdx?_eq_some_iff_of_names names).1 third
  have unnamed : ∀ route ∈ routes, ¬ route.NamedBy ⟨"GET", "/A", ""⟩ := by decide
  refine ⟨r, r', r'', sentAs, sentAs', sentAs'', fun x shutdown => ?_⟩
  have called := ((routes_by_sentNames routes).called sentAs fits first x shutdown).1
  have extended := (routes_by_sentNames routes).extended sentAs fits first more x shutdown
  have alike := (routes_by_sentNames routes).alike sentAs sentAs' fits rfl rfl x x shutdown shutdown
  have missed := (routes_by_sentNames routes).missed sentAs'' (by decide) unnamed x shutdown
  exact ⟨called, congrArg Prod.fst extended.symm, alike.symm.trans called, missed.1⟩

end RouteTable

end DeviceHttp
