import DeviceHttp.Proofs.PageBuilding
import DeviceHttp.Proofs.Portal

/-!
# The page that shows a request

`Handler.echo` answers with what it was asked: the method, the path and the query of the request, in
a paragraph each. These are texts from outside, up to 127 bytes long, and an escaped character takes
up to six bytes, so there are two ways in which the page could go wrong. A paragraph could be left
out because the page is full, or a text could show as something else.

**Neither happens** (`Handler.echoes`). Over a connection that takes everything, the page is sent
whole, and a reader finds the three paragraphs in it, each with the text that the request holds.

## Main definitions

* `Html.paragraphs` — the paragraphs of a document, found by their tags
* `Html.ShowsParagraphs` — these are the texts that a reader sees in them

## How

An escaped text has no angle bracket, so each paragraph is a tag of its own in a document that is
taken apart at the opening brackets (`Html.paragraphsAmong_paragraph`). All other tags are passed
over, and the title is no paragraph either, whatever it is (`Page.showsParagraphs_ofWidgets`).
-/

namespace DeviceHttp

namespace Html

/-! ## Reading paragraphs -/

/-- The paragraphs among the pieces of a document that begin behind its opening angle brackets. A
paragraph has nothing but text between its tags. -/
def paragraphsAmong : List (List Char) → List String
  | opened :: closed :: pieces =>
    match dropStart? "p>".toList opened with
    | some text =>
      if startsWith "/p>".toList closed then
        String.ofList text :: paragraphsAmong (closed :: pieces)
      else paragraphsAmong (closed :: pieces)
    | none => paragraphsAmong (closed :: pieces)
  | _ => []

/-- The paragraphs of a document, as they are written. -/
def paragraphs (document : String) : List String :=
  paragraphsAmong (segments (· == '<') document.toList)

/-- The paragraphs of a document show these texts, in this order. -/
def ShowsParagraphs (document : String) (texts : List String) : Prop :=
  List.Forall₂ IsEscapeOf texts (paragraphs document)

/-- Another tag is passed over. -/
theorem paragraphsAmong_cons {piece : List Char} (other : startsWith "p>".toList piece = false)
    (pieces : List (List Char)) : paragraphsAmong (piece :: pieces) = paragraphsAmong pieces := by
  rw [startsWith, Option.isSome_eq_false_iff, Option.isNone_iff_eq_none] at other
  cases pieces with
  | nil => rfl
  | cons next pieces => rw [paragraphsAmong, other]

theorem paragraphsAmong_append {front : List (List Char)}
    (others : ∀ piece ∈ front, startsWith "p>".toList piece = false) (pieces : List (List Char)) :
    paragraphsAmong (front ++ pieces) = paragraphsAmong pieces := by
  induction front with
  | nil => rfl
  | cons piece front ih =>
    rw [List.cons_append, paragraphsAmong_cons (others piece List.mem_cons_self),
      ih fun p mem => others p (List.mem_cons_of_mem piece mem)]

/-- A paragraph is read together with its closing tag. -/
theorem paragraphsAmong_paragraph (text : List Char) (pieces : List (List Char)) :
    paragraphsAmong (("p>".toList ++ text) :: "/p>".toList :: pieces) =
      String.ofList text :: paragraphsAmong pieces := by
  rw [paragraphsAmong, dropStart?_append]
  show (if true = true then _ else _) = _
  rw [if_pos rfl, paragraphsAmong_cons rfl]

theorem notMem_escape (s : String) : '<' ∉ (escape s).toList := fun mem => by
  have marked := isMarkup_of_mem_escape mem
  cases marked

end Html

namespace Page

open Html

/-- A paragraph is two tags. -/
theorem toList_paragraph (escaped : String) : ("<p>" ++ escaped ++ "</p>").toList =
    '<' :: (("p>".toList ++ escaped.toList) ++ '<' :: "/p>".toList) := by
  have opened : "<p>".toList = '<' :: "p>".toList := by decide
  have closed : "</p>".toList = '<' :: "/p>".toList := by decide
  rw [String.toList_append, String.toList_append, opened, closed]
  simp only [List.cons_append, List.append_assoc]

/-- Paragraphs and the closing tags. -/
def bodyOf (texts : List String) : String :=
  String.join (texts.map fun text => (Widget.paragraph text).render) ++ closing

/-- Behind the first angle bracket exactly the paragraphs are read. The induction is on the texts. -/
theorem exists_paragraphs (texts : List String) :
    ∃ more, (bodyOf texts).toList = '<' :: more ∧
      paragraphsAmong (segments (· == '<') more) = texts.map escape := by
  induction texts with
  | nil => exact ⟨"/body></html>".toList, rfl, by decide⟩
  | cons text texts ih =>
    obtain ⟨more, rest, read⟩ := ih
    refine ⟨("p>".toList ++ (escape text).toList) ++ '<' :: ("/p>".toList ++ '<' :: more), ?_, ?_⟩
    · have whole : (bodyOf (text :: texts)).toList =
          (Widget.paragraph text).render.toList ++ (bodyOf texts).toList := by
        rw [bodyOf, List.map_cons, String.join_cons, String.append_assoc, String.toList_append,
          bodyOf]
      refine whole.trans ((congrArg₂ (· ++ ·) (toList_paragraph (escape text)) rest).trans ?_)
      simp only [List.cons_append, List.append_assoc]
    · have opened : '<' ∉ "p>".toList ++ (escape text).toList := by
        rw [List.mem_append, not_or]
        exact ⟨by decide, notMem_escape text⟩
      have closed : '<' ∉ "/p>".toList := by decide
      rw [segments_append_cons (unmarked_of_notMem opened) rfl,
        segments_append_cons (unmarked_of_notMem closed) rfl, paragraphsAmong_paragraph, read,
        String.ofList_toList, List.map_cons]

/-- Two pieces without angle brackets between others, and one behind them. -/
theorem segments_two_pieces {front title middle heading last : List Char}
    (title_plain : '<' ∉ title) (heading_plain : '<' ∉ heading) (last_plain : '<' ∉ last) :
    segments (· == '<')
        (front ++ '<' :: (title ++ '<' :: (middle ++ '<' :: (heading ++ '<' :: last)))) =
      segments (· == '<') front ++ title :: (segments (· == '<') middle ++ [heading, last]) := by
  rw [@segments_append_mark Char (· == '<') '<' rfl,
    segments_append_cons (unmarked_of_notMem title_plain) rfl,
    @segments_append_mark Char (· == '<') '<' rfl,
    segments_append_cons (unmarked_of_notMem heading_plain) rfl,
    segments_of_unmarked (unmarked_of_notMem last_plain)]

/-- A title without angle brackets stands in two tags. -/
theorem toList_opening (escaped : String) :
    ("<html><head><title>" ++ escaped ++ "</title>" ++ style ++ "</head><body><h2>" ++ escaped ++
        "</h2>").toList =
      "<html><head>".toList ++ '<' :: (("title>".toList ++ escaped.toList) ++ '<' ::
        (("/title>".toList ++ (style.toList ++ "</head><body>".toList)) ++ '<' ::
          (("h2>".toList ++ escaped.toList) ++ '<' :: "/h2>".toList))) := by
  simp only [String.toList_append, String.reduceToList, List.append_assoc, List.cons_append,
    List.nil_append]

/-- No tag in front of the widgets is that of a paragraph, whatever the title is. -/
theorem startsWith_eq_false_of_mem_opening {title : String} {piece : List Char}
    (mem : piece ∈ segments (· == '<') (opening title).toList) :
    startsWith "p>".toList piece = false := by
  have front : ∀ piece ∈ segments (· == '<') "<html><head>".toList,
      startsWith "p>".toList piece = false := by decide
  have middle : ∀ piece ∈ segments (· == '<')
      ("/title>".toList ++ (style.toList ++ "</head><body>".toList)),
      startsWith "p>".toList piece = false := by
    simp only [style, String.toList_append, String.reduceToList]
    decide +kernel
  have plain {tag : List Char} (bare : '<' ∉ tag) : '<' ∉ tag ++ (escape title).toList := by
    rw [List.mem_append, not_or]
    exact ⟨bare, notMem_escape title⟩
  have pieces := (congrArg (segments (· == '<')) (toList_opening (escape title))).trans
    (segments_two_pieces (plain (by decide)) (plain (by decide)) (by decide))
  have among := Eq.subst (motive := fun pieces => piece ∈ pieces) pieces mem
  simp only [List.mem_append, List.mem_cons, List.not_mem_nil, or_false] at among
  rcases among with inFront | inTitle | inMiddle | inHeading | inLast
  · exact front piece inFront
  · rw [inTitle]
    rfl
  · exact middle piece inMiddle
  · rw [inHeading]
    rfl
  · rw [inLast]
    rfl

/-- **A page of paragraphs shows their texts**, if it was not cut short. -/
theorem showsParagraphs_ofWidgets {title : String} {texts : List String}
    (complete : (ofWidgets title (texts.map .paragraph)).truncated = false) :
    ShowsParagraphs (ofWidgets title (texts.map .paragraph)).document texts := by
  obtain ⟨more, rest, read⟩ := exists_paragraphs texts
  have chars : (ofWidgets title (texts.map .paragraph)).document.toList =
      (opening title).toList ++ '<' :: more := by
    rw [document, html_ofWidgets complete, List.map_map, String.append_assoc, String.toList_append]
    exact congrArg _ rest
  have pieces := @segments_append_mark Char (· == '<') '<' rfl (opening title).toList more
  rw [ShowsParagraphs, paragraphs, chars, pieces,
    paragraphsAmong_append fun _ => startsWith_eq_false_of_mem_opening, read,
    List.forall₂_map_right_iff]
  exact List.forall₂_same.2 fun text _ => isEscapeOf_escape text

end Page

/-! ## Sending the page -/

namespace Page

/-- The header in front of a page is short. -/
theorem utf8ByteSize_header_le {size : Nat} (small : size ≤ capacity) :
    (header size).utf8ByteSize ≤ 85 := by
  have front :
      "HTTP/1.1 200 OK\r\nContent-Type: text/html\r\nContent-Length: ".utf8ByteSize = 58 := by
    decide
  have back : "\r\nConnection: close\r\n\r\n".utf8ByteSize = 23 := by decide
  have digits : (toString size).utf8ByteSize ≤ 4 :=
    utf8ByteSize_toString_le (by decide) (Nat.lt_of_le_of_lt small (by decide))
  unfold header
  simp only [String.utf8ByteSize_append, front, back]
  omega

end Page

namespace Handler

variable (request : Request)

/-- What a request is shown as. -/
def echoTexts : List String :=
  ["Method: " ++ request.method, "Path: " ++ request.path, "Query: " ++ request.query]

/-- The page that shows a request. -/
def echoPage : Page := Page.ofWidgets "wisp" ((echoTexts request).map .paragraph)

/-- The handler sends that page and nothing more. -/
theorem echo_eq : echo request = .respond (echoPage request).response := rfl

/-- The request is shown to the peer, and the handler says so. -/
structure Echoes (x : Exchange) (ending : Reply.Ending) : Prop where
  succeeds : ending.outcome = .ok ()
  /-- No paragraph is left out. -/
  whole : (echoPage request).truncated = false
  /-- The page is sent with status 200 and the media type of pages, and nothing else is. -/
  sent : ending.exchange.connection.written = x.connection.written ++
    Utf8.encode (Page.header (echoPage request).document.utf8ByteSize ++
      (echoPage request).document)
  /-- A reader finds the method, the path and the query of the request. -/
  shows : Html.ShowsParagraphs (echoPage request).document (echoTexts request)

/-- **Every request is shown in full**, whatever it holds. -/
theorem echoes {x : Exchange} (unanswered : x.answered = false)
    (room : 256 ≤ x.headerBuffer.capacity) (free : ∀ kind, ¬ x.connection.Obstructs kind)
    (flushes : x.connection.flushFault = none) (shutdown : Bool) :
    Echoes request x ((echo request).run x shutdown) := by
  have whole : (echoPage request).truncated = false := SetupPortal.truncated_echo request
  have short := Page.utf8ByteSize_header_le (echoPage request).utf8ByteSize_document_le
  have delivers := (echoPage request).delivers_response unanswered (by omega)
  have sent := delivers.succeeds free flushes
  rw [echo_eq]
  exact ⟨sent, whole, delivers.complete sent, Page.showsParagraphs_ofWidgets whole⟩

/-- A request full of markup, over a connection that takes a few bytes at a time. -/
theorem echoes_markup :
    let request : Request := {
      bytes := []
      line := ⟨.ofString "<\"&'>", .ofString "/</p>&lt;", .ofString "k=<p>&", 1, 1⟩
      headerBlock := []
      body := []
      contentLength := 0 }
    let x : Exchange := {
      connection := { writeAnswers := [.accept 1, .fault .interrupted], maxWrite := some 7 }
      headerBuffer := .new 256 }
    x.answered = false ∧ 256 ≤ x.headerBuffer.capacity ∧
      (∀ kind, ¬ x.connection.Obstructs kind) ∧ x.connection.flushFault = none ∧
        Echoes request x ((echo request).run x true) ∧
          echoTexts request = ["Method: <\"&'>", "Path: /</p>&lt;", "Query: k=<p>&"] := by
  intro request x
  have room : 256 ≤ x.headerBuffer.capacity := Nat.le_of_eq (HeaderBuffer.capacity_new 256).symm
  have free : ∀ kind, ¬ x.connection.Obstructs kind := by
    rintro kind (⟨mem, lasting⟩ | mem | standstill)
    · simp [x] at mem
      exact lasting mem
    · simp [x] at mem
    · cases standstill
  exact ⟨rfl, room, free, rfl, echoes request rfl room free rfl true, by decide +kernel⟩

end Handler

end DeviceHttp
