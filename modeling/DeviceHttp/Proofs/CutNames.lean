import DeviceHttp.Proofs.Answering
import DeviceHttp.Proofs.LongestCopy
import DeviceHttp.Proofs.SentLine

/-!
# Routes that a longer name selects

A route is meant for the requests that name its path and its method. Routing compares what a request
has kept of the two, at most 127 and 7 bytes, and does not look at the mark of a copy that was cut.
So a route answers the requests that name it **and those that name something longer which was cut
down to its name** (`RouteTable.routesKeptNames`).

* **What is chosen.** A route is chosen for the names that a request has kept (`SentLine.kept`). The
  line named the route itself exactly if the names that the route asks for were not cut.
* **When it matters.** A cut happens in front of a character that no longer fits, and a character
  has at most four bytes. So a name is what is left of a longer one only if it comes within three
  bytes of the limit, and every such name is: a character of four bytes can be appended to it
  (`BoundedText.text_ofString_push`). A table is safe exactly if no route that a line selects comes
  that close (`RouteTable.routesByName_iff_leavesRoom`). For a method, whose limit is 7 bytes, this
  means three letters.
-/

namespace DeviceHttp

/-! ## Copies -/

/-- What fits is all of a beginning behind which there is no room. -/
theorem fittingChars_append_cons {room : Nat} {cs rest : List Char} {c : Char}
    (fits : Utf8.size cs ≤ room) (full : room < Utf8.size cs + c.utf8Size) :
    fittingChars room (cs ++ c :: rest) = cs := by
  induction cs generalizing room with
  | nil =>
    rw [Utf8.size_nil, Nat.zero_add] at full
    rw [List.nil_append, fittingChars, if_neg (by omega)]
  | cons d cs ih =>
    rw [Utf8.size_cons] at fits full
    rw [List.cons_append, fittingChars, if_pos (by omega), ih (by omega) (by omega)]

namespace BoundedText

variable {capacity : Nat} {s : String}

/-- The first character of a text is always kept. -/
theorem text_ofString_ne_nil (wide : 4 ≤ capacity) (nonempty : s.toList ≠ []) :
    (ofString s : BoundedText capacity).text.toList ≠ [] := by
  obtain ⟨c, cs, eq⟩ := List.exists_cons_of_ne_nil nonempty
  have narrow := c.utf8Size_le_four
  rw [toList_text_ofString, eq, fittingChars, if_pos (by omega)]
  exact List.cons_ne_nil _ _

theorem push_ne_self : s.push '😀' ≠ s := fun same => by
  have := congrArg String.length same
  simp at this

/-- **A text without room for one more character is what is left of a longer one.** -/
theorem text_ofString_push (fits : s.utf8ByteSize ≤ capacity)
    (full : capacity < s.utf8ByteSize + 4) :
    (ofString (s.push '😀') : BoundedText capacity).text = s := by
  have wide : '😀'.utf8Size = 4 := by decide
  rw [Utf8.utf8ByteSize_eq_size] at fits full
  rw [← String.toList_inj, toList_text_ofString, String.toList_push]
  exact fittingChars_append_cons fits (wide ▸ full)

end BoundedText

/-! ## What a request keeps of its line -/

namespace SentLine

variable {sent : SentLine} {d : Bytes} {r : Request}

/-- The names that a request keeps. -/
def kept (sent : SentLine) : SentLine where
  method := (BoundedText.ofString sent.method : BoundedText 7).text
  path := (BoundedText.ofString sent.path : BoundedText 127).text
  query := (BoundedText.ofString sent.query : BoundedText 127).text

/-- Method and path are kept as a whole. Routing does not look at the query. -/
structure Fits (sent : SentLine) : Prop where
  method : sent.method.utf8ByteSize ≤ 7
  path : sent.path.utf8ByteSize ≤ 127

instance (sent : SentLine) : Decidable sent.Fits :=
  decidable_of_iff (sent.method.utf8ByteSize ≤ 7 ∧ sent.path.utf8ByteSize ≤ 127)
    ⟨fun ⟨method, path⟩ => ⟨method, path⟩, fun h => ⟨h.method, h.path⟩⟩

theorem fits_kept (sent : SentLine) : sent.kept.Fits where
  method := (BoundedText.ofString sent.method).fits
  path := (BoundedText.ofString sent.path).fits

theorem kept_kept (sent : SentLine) : sent.kept.kept = sent.kept := by
  simp only [kept, BoundedText.text_ofString_text]

/-- A request has the names of its line that are kept. -/
theorem names_of_readFrom (read : r.ReadFrom d) (named : ofBytes? d = some sent) :
    r.method = sent.kept.method ∧ r.path = sent.kept.path := by
  have copied := isCopiedTo read named
  rw [Request.method, copied.method, Request.path, copied.path]
  exact ⟨rfl, rfl⟩

theorem IsPart.push {s : String} (h : IsPart s.toList) : IsPart (s.push '😀').toList := by
  have octets : Utf8.encodeChars ['😀'] = 240 :: [159, 152, 128] := by decide
  rw [String.toList_push]
  refine ⟨?_, ?_⟩
  · simp [h.unspaced]
  · rw [Utf8.encodeChars_append, octets]
    intro ends
    rcases infix_of_infix_append_cons ends (by decide) with ends | ends
    · exact h.unended ends
    · exact absurd (ends.subset List.mem_cons_self) (by decide)

namespace Sendable

/-- What is kept of a line can be sent. -/
theorem kept (h : sent.Sendable) : sent.kept.Sendable where
  method_ne_nil := BoundedText.text_ofString_ne_nil (by decide) h.method_ne_nil
  method := h.method.mono BoundedText.prefix_text_ofString.isInfix
  path := h.path.mono BoundedText.prefix_text_ofString.isInfix
  path_plain mark := h.path_plain (BoundedText.prefix_text_ofString.subset mark)
  query := h.query.mono BoundedText.prefix_text_ofString.isInfix

/-- The line with a longer method can be sent. -/
theorem push_method (h : sent.Sendable) :
    Sendable { sent with method := sent.method.push '😀' } where
  method_ne_nil := by simp [String.toList_push]
  method := h.method.push
  path := h.path
  path_plain := h.path_plain
  query := h.query

/-- The line with a longer path can be sent. -/
theorem push_path (h : sent.Sendable) :
    Sendable { sent with path := sent.path.push '😀' } where
  method_ne_nil := h.method_ne_nil
  method := h.method
  path := h.path.push
  path_plain := by
    rw [String.toList_push]
    simp [h.path_plain]
  query := h.query

end Sendable

end SentLine

/-! ## Routes -/

namespace Route

variable {route : Route} {sent : SentLine} {d : Bytes} {r : Request}

/-- A line names a route by its path and, if the route asks for one, by its method. -/
structure NamedBy (route : Route) (sent : SentLine) : Prop where
  path : sent.path = route.path
  method : ∀ method, route.method = some method → sent.method = method

instance (route : Route) (sent : SentLine) : Decidable (route.NamedBy sent) :=
  decidable_of_iff (sent.path = route.path ∧ ∀ method ∈ route.method, sent.method = method)
    ⟨fun ⟨path, method⟩ => ⟨path, method⟩, fun h => ⟨h.path, h.method⟩⟩

/-- One more character would fit behind each name that the route asks for. -/
structure LeavesRoom (route : Route) : Prop where
  path : route.path.utf8ByteSize + 4 ≤ 127
  method : ∀ method, route.method = some method → method.utf8ByteSize + 4 ≤ 7

/-- A route accepts the requests whose kept names are its own. -/
theorem accepts_iff_namedBy_kept (read : r.ReadFrom d) (named : SentLine.ofBytes? d = some sent) :
    route.accepts r = true ↔ route.NamedBy sent.kept := by
  obtain ⟨method, path⟩ := SentLine.names_of_readFrom read named
  rw [accepts_iff, method, path]
  constructor
  · rintro ⟨path, method⟩
    exact ⟨path, fun m asked => (method m asked).symm⟩
  · rintro ⟨path, method⟩
    exact ⟨path, fun m asked => (method m asked).symm⟩

/-- If what is kept of a line names a route, the line itself does exactly if nothing that the route
asks for was cut. -/
theorem namedBy_iff_of_kept (kept : route.NamedBy sent.kept) :
    route.NamedBy sent ↔
      sent.path.utf8ByteSize ≤ 127 ∧ (route.method ≠ none → sent.method.utf8ByteSize ≤ 7) := by
  constructor
  · rintro ⟨path, method⟩
    refine ⟨BoundedText.text_ofString_eq_self_iff.1 (kept.path.trans path.symm), fun asks => ?_⟩
    obtain ⟨m, asked⟩ := Option.ne_none_iff_exists'.1 asks
    exact BoundedText.text_ofString_eq_self_iff.1
      ((kept.method m asked).trans (method m asked).symm)
  · rintro ⟨path, method⟩
    refine ⟨(BoundedText.text_copyOf_of_fits path).symm.trans kept.path, fun m asked => ?_⟩
    have short := method (by rw [asked]; exact Option.some_ne_none m)
    exact (BoundedText.text_copyOf_of_fits short).symm.trans (kept.method m asked)

/-- A name with room behind it is not what is left of a longer one. -/
theorem LeavesRoom.namedBy (room : route.LeavesRoom) (kept : route.NamedBy sent.kept) :
    route.NamedBy sent where
  path := by
    have short := room.path
    rw [← kept.path] at short ⊢
    exact (BoundedText.text_ofString_of_room short).symm
  method m asked := by
    have short := room.method m asked
    rw [← kept.method m asked] at short ⊢
    exact (BoundedText.text_ofString_of_room short).symm

end Route

/-! ## Route tables -/

namespace RouteTable

variable {routes : RouteTable} {d d' : Bytes} {r r' : Request} {sent sent' : SentLine}

/-- Requests that have kept the same names have the same route. -/
theorem find?_congr (method : r.method = r'.method) (path : r.path = r'.path) :
    routes.find? r = routes.find? r' := by
  have same : (fun route : Route => route.accepts r) = fun route => route.accepts r' := by
    funext route
    rw [Route.accepts, Route.accepts, method, path]
  rw [find?, find?, same]

theorem namedBy_kept_of_find? {route : Route} (read : r.ReadFrom d)
    (named : SentLine.ofBytes? d = some sent) (found : routes.find? r = some route) :
    route.NamedBy sent.kept := by
  rw [find?] at found
  have accepts := List.find?_some found
  exact (Route.accepts_iff_namedBy_kept read named).1 accepts

/-- What counts as handled has a route. -/
theorem exists_find?_of_handled {x : Exchange} {shutdown : Bool}
    (handled : (routes.answer x shutdown r).outcome = .ok .handled) :
    ∃ route ∈ routes, routes.find? r = some route := by
  cases found : routes.find? r with
  | some route => exact ⟨route, List.mem_of_find?_eq_some found, rfl⟩
  | none =>
    rw [(answer_of_notFound found x shutdown).1] at handled
    cases sending : (x.send .notFound).1 <;> rw [sending] at handled <;> cases handled

/-- A request whose line was cut is handled only by a route that the line names. -/
def RoutesByName (routes : RouteTable) : Prop :=
  ∀ {d : Bytes} {r : Request} {sent : SentLine} {route : Route}, r.ReadFrom d →
    SentLine.ofBytes? d = some sent → ¬ sent.Fits → routes.find? r = some route →
      route.NamedBy sent

/-- A line that cannot be told from a route's name by what is kept of it is a request for the
route. -/
theorem exists_find?_of_kept {route : Route} (read : r.ReadFrom d)
    (named : SentLine.ofBytes? d = some sent) (found : routes.find? r = some route)
    (sendable : sent'.Sendable) (method : sent'.kept.method = sent.kept.method)
    (path : sent'.kept.path = sent.kept.path) :
    ∃ r' : Request, r'.ReadFrom sent'.bytes ∧ SentLine.ofBytes? sent'.bytes = some sent' ∧
      routes.find? r' = some route := by
  obtain ⟨r', read', named'⟩ := sendable.exists_readFrom
  obtain ⟨method₁, path₁⟩ := SentLine.names_of_readFrom read named
  obtain ⟨method₂, path₂⟩ := SentLine.names_of_readFrom read' named'
  refine ⟨r', read', named', ?_⟩
  rw [← found]
  exact find?_congr (method₂.trans (method.trans method₁.symm))
    (path₂.trans (path.trans path₁.symm))

/-- A route that a line selects leaves room, if the table routes by name: else the line with one
more character would select it as well. -/
theorem RoutesByName.leavesRoom {route : Route} (byName : routes.RoutesByName) (read : r.ReadFrom d)
    (named : SentLine.ofBytes? d = some sent) (fits : sent.Fits)
    (found : routes.find? r = some route) : route.LeavesRoom := by
  have sendable := SentLine.sendable_of_ofBytes? named
  have kept := namedBy_kept_of_find? read named found
  have path_kept : sent.kept.path = sent.path := BoundedText.text_copyOf_of_fits fits.path
  have method_kept : sent.kept.method = sent.method := BoundedText.text_copyOf_of_fits fits.method
  constructor
  · rw [← kept.path, path_kept]
    refine Nat.le_of_not_lt fun full => ?_
    have cut : (BoundedText.ofString (sent.path.push '😀') : BoundedText 127).text = sent.path :=
      BoundedText.text_ofString_push fits.path full
    obtain ⟨r', read', named', found'⟩ := exists_find?_of_kept read named found
      sendable.push_path rfl (cut.trans path_kept.symm)
    have long : ¬ SentLine.Fits { sent with path := sent.path.push '😀' } := fun fits' =>
      BoundedText.push_ne_self ((BoundedText.text_copyOf_of_fits fits'.path).symm.trans cut)
    exact BoundedText.push_ne_self
      ((byName read' named' long found').path.trans (kept.path.symm.trans path_kept))
  · intro m asked
    rw [← kept.method m asked, method_kept]
    refine Nat.le_of_not_lt fun full => ?_
    have cut : (BoundedText.ofString (sent.method.push '😀') : BoundedText 7).text = sent.method :=
      BoundedText.text_ofString_push fits.method full
    obtain ⟨r', read', named', found'⟩ := exists_find?_of_kept read named found
      sendable.push_method (cut.trans method_kept.symm) rfl
    have long : ¬ SentLine.Fits { sent with method := sent.method.push '😀' } := fun fits' =>
      BoundedText.push_ne_self ((BoundedText.text_copyOf_of_fits fits'.method).symm.trans cut)
    exact BoundedText.push_ne_self (((byName read' named' long found').method m asked).trans
      ((kept.method m asked).symm.trans method_kept))

/-- **A table routes by name exactly if every route that a line selects leaves room.** -/
theorem routesByName_iff_leavesRoom : routes.RoutesByName ↔
    ∀ {d : Bytes} {r : Request} {sent : SentLine} {route : Route}, r.ReadFrom d →
      SentLine.ofBytes? d = some sent → sent.Fits → routes.find? r = some route →
        route.LeavesRoom := by
  constructor
  · intro byName d r sent route read named fits found
    exact byName.leavesRoom read named fits found
  · intro room d r sent route read named _ found
    -- what is kept of the line is itself a line, which fits and selects the same route
    have sendable := (SentLine.sendable_of_ofBytes? named).kept
    have again := sent.kept_kept
    obtain ⟨r', read', named', found'⟩ := exists_find?_of_kept read named found sendable
      (by rw [again]) (by rw [again])
    exact (room read' named' sent.fits_kept found').namedBy
      (namedBy_kept_of_find? read named found)

/-- How a table of routes answers what was sent. -/
structure RoutesKeptNames (routes : RouteTable) : Prop where
  /-- A handler answers exactly if its route is the first one that the kept names name. The line
  named the route itself exactly if nothing that the route asks for was cut. -/
  handled : ∀ {d : Bytes} {r : Request} {sent : SentLine} {route : Route}, r.ReadFrom d →
    SentLine.ofBytes? d = some sent → routes.find? r = some route →
      (∃ before after, routes = before ++ route :: after ∧ route.NamedBy sent.kept ∧
        ∀ other ∈ before, ¬ other.NamedBy sent.kept) ∧
      (route.NamedBy sent ↔
        sent.path.utf8ByteSize ≤ 127 ∧ (route.method ≠ none → sent.method.utf8ByteSize ≤ 7)) ∧
      ∀ (x : Exchange) (shutdown : Bool),
        (routes.answer x shutdown r).outcome =
            RouteTable.handled ((route.handler r).run x shutdown) ∧
          (routes.answer x shutdown r).exchange = ((route.handler r).run x shutdown).exchange
  /-- If the kept names name no route, the answer is 404. -/
  missed : ∀ {d : Bytes} {r : Request} {sent : SentLine}, r.ReadFrom d →
    SentLine.ofBytes? d = some sent → routes.find? r = none →
      (∀ route ∈ routes, ¬ route.NamedBy sent.kept) ∧
      ∀ (x : Exchange) (shutdown : Bool),
        (routes.answer x shutdown r).outcome = (x.send .notFound).1.map (fun () => .notFound) ∧
          (routes.answer x shutdown r).exchange = (x.send .notFound).2
  /-- No line that was cut reaches a route that it does not name, exactly if every route that a line
  selects leaves room. -/
  byName_iff : routes.RoutesByName ↔
    ∀ {d : Bytes} {r : Request} {sent : SentLine} {route : Route}, r.ReadFrom d →
      SentLine.ofBytes? d = some sent → sent.Fits → routes.find? r = some route →
        route.LeavesRoom

/-- **A table routes by what a request has kept of its names**, and by the names themselves exactly
if its routes leave room. -/
theorem routesKeptNames (routes : RouteTable) : routes.RoutesKeptNames where
  handled {d r sent route} read named found := by
    refine ⟨?_, Route.namedBy_iff_of_kept (namedBy_kept_of_find? read named found),
      answer_of_found found⟩
    rw [find?] at found
    obtain ⟨accepts, before, after, eq, passed⟩ := List.find?_eq_some_iff_append.1 found
    refine ⟨before, after, eq, (Route.accepts_iff_namedBy_kept read named).1 accepts, ?_⟩
    intro other mem kept
    have refused := passed other mem
    rw [(Route.accepts_iff_namedBy_kept read named).2 kept] at refused
    cases refused
  missed {d r sent} read named notFound := by
    refine ⟨?_, answer_of_notFound notFound⟩
    intro route mem kept
    rw [find?] at notFound
    exact List.find?_eq_none.1 notFound route mem
      ((Route.accepts_iff_namedBy_kept read named).2 kept)
  byName_iff := routesByName_iff_leavesRoom

/-- Routes for GET with short paths are safe. -/
theorem routesByName_get_root : RoutesByName [.get "/" fun _ => .finish (.ok ())] := by
  refine (routesKeptNames _).byName_iff.2 fun {d r sent route} _ _ _ found => ?_
  rw [find?] at found
  rw [List.mem_singleton.1 (List.mem_of_find?_eq_some found)]
  exact ⟨by decide, fun method asked => Option.some.inj asked ▸ by decide⟩

/-- A route for a method of four letters answers a longer method, and so does a route for a method
of seven letters. -/
theorem longer_methods_are_handled :
    let greet : Handler := fun _ => .respond (.ok MediaType.plainText (Utf8.encode "hello"))
    let routes : RouteTable := [.post "/" greet, ⟨"/", some "OPTIONS", greet⟩]
    let lines : List SentLine := [⟨"POST😀", "/", ""⟩, ⟨"OPTIONSX", "/", ""⟩]
    ¬ routes.RoutesByName ∧ ∀ sent ∈ lines,
      SentLine.ofBytes? sent.bytes = some sent ∧ ¬ sent.Fits ∧
        (∀ route ∈ routes, ¬ route.NamedBy sent) ∧
          (Request.ofBytes sent.bytes).map (fun r =>
            (routes.answer (.opened {} (.new 256)) false r).outcome) = .ok (.ok .handled) := by
  intro greet routes lines
  have handled : ∀ sent ∈ lines,
      SentLine.ofBytes? sent.bytes = some sent ∧ ¬ sent.Fits ∧
        (∀ route ∈ routes, ¬ route.NamedBy sent) ∧
          (Request.ofBytes sent.bytes).map (fun r =>
            (routes.answer (.opened {} (.new 256)) false r).outcome) = .ok (.ok .handled) := by
    decide +kernel
  refine ⟨fun byName => ?_, handled⟩
  obtain ⟨named, long, unnamed, answer⟩ := handled _ List.mem_cons_self
  cases read : Request.ofBytes (SentLine.bytes ⟨"POST😀", "/", ""⟩) with
  | error e =>
    rw [read] at answer
    cases answer
  | ok r =>
    rw [read] at answer
    obtain ⟨route, mem, found⟩ := exists_find?_of_handled (Except.ok.inj answer)
    exact unnamed route mem (byName (.whole read) named long found)

end RouteTable

end DeviceHttp
