import DeviceHttp.Html.Page
import DeviceHttp.Proofs.Transmission
import Mathlib.Data.List.Infix

/-!
# Building a page piece by piece

A page is added to as a whole or not at all, and `Page.append` says so. A device cannot know what
fits before it has written it. A widget is formatted in many small pieces, each character of a text
in a piece of its own, and any piece may be the first one that the page has no room for. What was
written until then has to be taken back. `Draft` builds pages this way.

There are two limits. A piece is refused when it exceeds the capacity, and a widget is taken back
when it leaves no room for the closing tags. Little is asked of the buffer that is written to: what
fits is added, and a text can be cut back to one that it was before (`TextBuffer`).

**A draft holds the longest run of whole widgets that fits** (`Draft.keeps_longest_run`), it takes
nothing more once something was left out, and its document can always be closed and sent.

## How

`Draft.add_ofPage` is the step: with its rollback, an addition does to a draft what `Page.append`
does to a page, for any splitting into pieces. A rollback never ends within a character, as the text
from before is a beginning of the one that is cut down. What a sequence of additions leaves is a
fact about `Page.append` alone, by induction on the last one (`Page.exists_keepsRun`).
-/

namespace DeviceHttp

/-! ## Texts with a limit -/

/-- A buffer for texts of limited size. A piece that fits is added. Of one that does not, a part may
be added all the same. -/
structure TextBuffer (capacity : Nat) where
  /-- Adds a piece, and tells whether all of it was added. -/
  push : (text piece : String) → Bool × String
  /-- Cuts a text down to its first bytes. This may fail within a character. -/
  truncate? : (text : String) → (size : Nat) → Option String
  push_of_fits : ∀ {text piece : String}, text.utf8ByteSize + piece.utf8ByteSize ≤ capacity →
    push text piece = (true, text ++ piece)
  push_of_full : ∀ {text piece : String}, capacity < text.utf8ByteSize + piece.utf8ByteSize →
    ∃ part, push text piece = (false, text ++ part)
  truncate?_append : ∀ text added : String,
    truncate? (text ++ added) text.utf8ByteSize = some text

namespace TextBuffer

/-- The buffer that leaves out a piece that does not fit, and cuts where no character is cut. -/
def whole (capacity : Nat) : TextBuffer capacity where
  push text piece :=
    if text.utf8ByteSize + piece.utf8ByteSize ≤ capacity then (true, text ++ piece)
    else (false, text)
  truncate? text size := Utf8.decode? ((Utf8.encode text).take size)
  push_of_fits fits := if_pos fits
  push_of_full full := ⟨"", by rw [if_neg (Nat.not_le.2 full), String.append_empty]⟩
  truncate?_append text added := by
    rw [Utf8.encode_append, List.take_left' (Utf8.length_encode text), Utf8.decode?_encode]

variable {capacity : Nat} (buffer : TextBuffer capacity)

/-- Adds pieces up to the first one that does not fit. -/
def pushAll : (text : String) → (pieces : List String) → Bool × String
  | text, [] => (true, text)
  | text, piece :: pieces =>
    match buffer.push text piece with
    | (true, text) => pushAll text pieces
    | (false, text) => (false, text)

theorem pushAll_of_fits {text : String} {pieces : List String}
    (fits : (text ++ String.join pieces).utf8ByteSize ≤ capacity) :
    buffer.pushAll text pieces = (true, text ++ String.join pieces) := by
  induction pieces generalizing text with
  | nil =>
    rw [String.join_nil, String.append_empty]
    rfl
  | cons piece pieces ih =>
    rw [String.join_cons, ← String.append_assoc] at fits ⊢
    have first : text.utf8ByteSize + piece.utf8ByteSize ≤ capacity := by
      rw [String.utf8ByteSize_append, String.utf8ByteSize_append] at fits
      omega
    rw [pushAll, buffer.push_of_fits first]
    exact ih fits

/-- Whatever is left of pieces stands behind the text. -/
theorem exists_pushAll_eq (text : String) (pieces : List String) :
    ∃ added, (buffer.pushAll text pieces).2 = text ++ added ∧
      ((buffer.pushAll text pieces).1 = true → added = String.join pieces) := by
  induction pieces generalizing text with
  | nil => exact ⟨"", String.append_empty.symm, fun _ => String.join_nil.symm⟩
  | cons piece pieces ih =>
    rcases Nat.lt_or_ge capacity (text.utf8ByteSize + piece.utf8ByteSize) with full | fits
    · obtain ⟨part, pushed⟩ := buffer.push_of_full full
      rw [pushAll, pushed]
      exact ⟨part, rfl, nofun⟩
    · rw [pushAll, buffer.push_of_fits fits]
      obtain ⟨added, text_eq, whole⟩ := ih (text ++ piece)
      refine ⟨piece ++ added, ?_, fun all => ?_⟩
      · exact text_eq.trans String.append_assoc
      · rw [whole all, String.join_cons]

end TextBuffer

/-! ## Pieces -/

/-- A text as it is written in HTML, character by character. -/
def Html.escapePieces (s : String) : List String :=
  s.toList.map fun c => String.ofList (escapeChar c)

/-- A number with its sign. -/
def numeralPieces : Int → List String
  | .ofNat n => [toString n]
  | .negSucc n => ["-", toString (n + 1)]

open Html (escapePieces)

/-- The pieces of an option. -/
def Widget.optionPieces (selected : Nat) (label : String) (index : Nat) : List String :=
  ["<option value=\"", toString index, "\"", if index = selected then " selected" else "", ">"] ++
    escapePieces label ++ ["</option>"]

/-- The pieces of a widget. -/
def Widget.pieces : Widget → List String
  | heading text => ["<h3>"] ++ escapePieces text ++ ["</h3>"]
  | paragraph text => ["<p>"] ++ escapePieces text ++ ["</p>"]
  | button href label =>
    ["<p><button onclick=\"location.href='"] ++ escapePieces href ++ ["'\">"] ++
      escapePieces label ++ ["</button></p>"]
  | form action method enctype =>
    ["<form action=\""] ++ escapePieces action ++ ["\" method=\""] ++ escapePieces method ++
      ["\" enctype=\""] ++ escapePieces enctype ++ ["\">"]
  | endForm => ["</form>"]
  | textbox name label value =>
    ["<label>"] ++ escapePieces label ++ ["</label><input type=\"text\" name=\""] ++
      escapePieces name ++ ["\" value=\""] ++ escapePieces value ++ ["\"><br>"]
  | checkbox name label checked =>
    ["<label>"] ++ escapePieces label ++ ["</label><input type=\"checkbox\" name=\""] ++
      escapePieces name ++ ["\"", if checked then " checked" else "", "><br>"]
  | number name label value =>
    ["<label>"] ++ escapePieces label ++ ["</label><input type=\"number\" name=\""] ++
      escapePieces name ++ ["\" value=\""] ++ numeralPieces value ++ ["\"><br>"]
  | select name options selected =>
    ["<label>"] ++ escapePieces name ++ ["</label><select name=\""] ++ escapePieces name ++
      ["\">"] ++
      (options.zipIdx.flatMap fun (label, index) => optionPieces selected label index) ++
      ["</select><br>"]
  | fileInput name label =>
    ["<label>"] ++ escapePieces label ++ ["</label><input type=\"file\" name=\""] ++
      escapePieces name ++ ["\"><br>"]
  | submit label => ["<input type=\"submit\" value=\""] ++ escapePieces label ++ ["\">"]
  | submitTo action label =>
    ["<form action=\""] ++ escapePieces action ++
      ["\" method=\"get\"><input type=\"submit\" value=\""] ++ escapePieces label ++
      ["\"></form>"]

/-- The pieces in front of the widgets. -/
def Page.openingPieces (title : String) : List String :=
  ["<html><head><title>"] ++ escapePieces title ++ ["</title>", style, "</head><body><h2>"] ++
    escapePieces title ++ ["</h2>"]

theorem Html.join_escapePieces (s : String) : String.join (escapePieces s) = escape s := by
  have chars (cs : List Char) : String.join (cs.map fun c => String.ofList (escapeChar c)) =
      String.ofList (cs.flatMap escapeChar) := by
    induction cs with
    | nil => rfl
    | cons c cs ih =>
      rw [List.map_cons, String.join_cons, ih, List.flatMap_cons, String.ofList_append]
  exact chars s.toList

theorem join_numeralPieces (value : Int) : String.join (numeralPieces value) = toString value := by
  cases value with
  | ofNat n => simp [numeralPieces]; rfl
  | negSucc n => simp [numeralPieces]; rfl

theorem Widget.join_optionPieces (selected : Nat) (label : String) (index : Nat) :
    String.join (optionPieces selected label index) = renderOption selected label index := by
  unfold optionPieces renderOption
  simp only [String.join_append, String.join_cons, String.join_nil, Html.join_escapePieces,
    String.append_empty, String.append_assoc]

theorem join_flatMap {α : Type} (f : α → List String) (l : List α) :
    String.join (l.flatMap f) = String.join (l.map fun a => String.join (f a)) := by
  induction l with
  | nil => rfl
  | cons a l ih => rw [List.flatMap_cons, String.join_append, ih, List.map_cons, String.join_cons]

/-- The pieces of a widget make up its markup. -/
theorem Widget.join_pieces (widget : Widget) : String.join widget.pieces = widget.render := by
  unfold pieces render
  cases widget <;>
  simp only [String.join_append, String.join_cons, String.join_nil, Html.join_escapePieces,
    join_numeralPieces, join_flatMap, join_optionPieces, String.append_empty, String.append_assoc]

theorem Page.join_openingPieces (title : String) :
    String.join (openingPieces title) = opening title := by
  unfold openingPieces opening
  simp only [String.join_append, String.join_cons, String.join_nil, Html.join_escapePieces,
    String.append_empty, String.append_assoc]

/-! ## Drafts -/

/-- A page that is being written, with nothing that keeps it small. -/
structure Draft where
  html : String
  truncated : Bool
deriving DecidableEq

namespace Draft

section Buffer

variable (buffer : TextBuffer Page.capacity)

/-- Adds pieces, or takes them back and marks the draft. Fails if that would cut a character. -/
def add (draft : Draft) (pieces : List String) : Option Draft :=
  if draft.truncated then some draft
  else
    let (all, html) := buffer.pushAll draft.html pieces
    if all ∧ html.utf8ByteSize + Page.closing.utf8ByteSize ≤ Page.capacity then
      some { draft with html }
    else (buffer.truncate? html draft.html.utf8ByteSize).map ({ html := ·, truncated := true })

/-- A draft with a title and widgets. -/
def build (title : String) (widgets : List Widget) : Option Draft := do
  let draft ← add buffer ⟨"", false⟩ (Page.openingPieces title)
  widgets.foldlM (fun draft widget => draft.add buffer widget.pieces) draft

/-- Closes the document and sends it, whether the closing tags fit or not. -/
def finish (draft : Draft) (x : Exchange) : Except Error Unit × Exchange :=
  let (_, html) := buffer.push draft.html Page.closing
  x.send (.ok MediaType.html (Utf8.encode html))

/-- The draft that a page is. -/
def ofPage (page : Page) : Draft := ⟨page.html, page.truncated⟩

/-- **An addition that does not fit leaves no trace but the mark**, in whichever pieces it comes. -/
theorem add_ofPage (page : Page) (pieces : List String) :
    (ofPage page).add buffer pieces = some (ofPage (page.append (String.join pieces))) := by
  obtain ⟨html, cut, room⟩ := page
  cases cut with
  | true => rfl
  | false =>
    have adds : (ofPage ⟨html, false, room⟩).add buffer pieces =
        let pushed := buffer.pushAll html pieces
        if pushed.1 ∧ pushed.2.utf8ByteSize + Page.closing.utf8ByteSize ≤ Page.capacity then
          some ⟨pushed.2, false⟩
        else (buffer.truncate? pushed.2 html.utf8ByteSize).map (⟨·, true⟩) := rfl
    dsimp only at adds
    rw [adds, Page.append, if_neg Bool.false_ne_true]
    by_cases fits : (html ++ String.join pieces).utf8ByteSize + Page.closing.utf8ByteSize ≤
        Page.capacity
    · rw [buffer.pushAll_of_fits (Nat.le_trans (Nat.le_add_right _ _) fits), if_pos ⟨rfl, fits⟩,
        dif_pos fits]
      rfl
    · obtain ⟨added, html_eq, whole⟩ := buffer.exists_pushAll_eq html pieces
      rw [dif_neg fits, if_neg, html_eq, buffer.truncate?_append]
      · rfl
      · rintro ⟨all, small⟩
        rw [html_eq, whole all] at small
        exact fits small

theorem foldlM_ofPage (page : Page) (widgets : List Widget) :
    widgets.foldlM (fun draft widget => draft.add buffer widget.pieces) (ofPage page) =
      some (ofPage (widgets.foldl Page.add page)) := by
  induction widgets generalizing page with
  | nil => rfl
  | cons widget widgets ih =>
    rw [List.foldlM_cons, add_ofPage, widget.join_pieces, List.foldl_cons]
    exact ih (page.add widget)

/-- **No rollback fails, and the draft is the page** that whole additions make. -/
theorem build_eq (title : String) (widgets : List Widget) :
    build buffer title widgets = some (ofPage (Page.ofWidgets title widgets)) := by
  have opened : add buffer ⟨"", false⟩ (Page.openingPieces title) =
      some (ofPage (Page.new title)) := by
    rw [Page.new, ← Page.join_openingPieces]
    exact add_ofPage buffer Page.empty _
  rw [build, opened]
  exact foldlM_ofPage buffer (Page.new title) widgets

end Buffer

end Draft

/-! ## Runs of whole texts -/

namespace Page

/-- The texts in a row leave room for the closing tags. -/
def LeavesRoom (texts : List String) : Prop :=
  (String.join texts).utf8ByteSize + closing.utf8ByteSize ≤ capacity

/-- The longest run of texts from the first one on, each with its predecessors leaving room. -/
structure IsLongestRun (texts run : List String) : Prop where
  initial : run <+: texts
  fits : ∀ front, front <+: run → LeavesRoom front
  longest : ∀ other, other <+: texts → (∀ front, front <+: other → LeavesRoom front) →
    other.length ≤ run.length

/-- What texts have become, and whether one was left out. -/
structure KeepsRun (page : Page) (texts run : List String) : Prop where
  longest : IsLongestRun texts run
  html_eq : page.html = String.join run
  truncated_iff : page.truncated = true ↔ run ≠ texts

/-- A run with a text more is a run if all of it leaves room. -/
theorem IsLongestRun.concat {texts : List String} {text : String}
    (longest : IsLongestRun texts texts) (room : LeavesRoom (texts ++ [text])) :
    IsLongestRun (texts ++ [text]) (texts ++ [text]) where
  initial := List.prefix_rfl
  fits front begins := by
    obtain rfl | before := List.prefix_concat_iff.1 begins
    · exact room
    · exact longest.fits front before
  longest _ begins _ := begins.length_le

/-- Where a text more would make no run, the longest run stays. -/
theorem IsLongestRun.keep {texts run : List String} {text : String}
    (longest : IsLongestRun texts run)
    (stuck : ¬ ∀ front, front <+: texts ++ [text] → LeavesRoom front) :
    IsLongestRun (texts ++ [text]) run where
  initial := longest.initial.trans (List.prefix_append _ _)
  fits := longest.fits
  longest other begins fits := by
    obtain rfl | before := List.prefix_concat_iff.1 begins
    · exact absurd fits stuck
    · exact longest.longest other before fits

theorem KeepsRun.exists_append {page : Page} {texts run : List String}
    (keeps : page.KeepsRun texts run) (text : String) :
    ∃ run', (page.append text).KeepsRun (texts ++ [text]) run' := by
  have shorter : run ≠ texts ++ [text] := by
    rintro rfl
    have := keeps.longest.initial.length_le
    rw [List.length_append, List.length_singleton] at this
    omega
  cases cut : page.truncated with
  | true =>
    -- a run of all texts and one more would have been a run of all texts before
    have stuck : ¬ ∀ front, front <+: texts ++ [text] → LeavesRoom front := by
      intro fits
      have whole := keeps.longest.longest texts List.prefix_rfl fun front begins =>
        fits front (begins.trans (List.prefix_append _ _))
      exact keeps.truncated_iff.1 cut (keeps.longest.initial.eq_of_length_le whole)
    refine ⟨run, keeps.longest.keep stuck, ?_, ?_⟩
    · rw [append, if_pos cut, keeps.html_eq]
    · rw [append, if_pos cut]
      exact iff_of_true cut shorter
  | false =>
    have all : run = texts := by
      by_contra left
      rw [keeps.truncated_iff.2 left] at cut
      cases cut
    subst all
    have joined : page.html ++ text = String.join (run ++ [text]) := by
      rw [keeps.html_eq, String.join_append, String.join_cons, String.join_nil,
        String.append_empty]
    have roomy : LeavesRoom (run ++ [text]) ↔
        (page.html ++ text).utf8ByteSize + closing.utf8ByteSize ≤ capacity := by
      rw [LeavesRoom, joined]
    rw [append, if_neg (Bool.eq_false_iff.1 cut)]
    by_cases room : (page.html ++ text).utf8ByteSize + closing.utf8ByteSize ≤ capacity
    · rw [dif_pos room]
      exact ⟨run ++ [text], keeps.longest.concat (roomy.2 room), joined, by simp⟩
    · rw [dif_neg room]
      have stuck : ¬ ∀ front, front <+: run ++ [text] → LeavesRoom front := fun fits =>
        room (roomy.1 (fits _ List.prefix_rfl))
      exact ⟨run, keeps.longest.keep stuck, keeps.html_eq, iff_of_true rfl shorter⟩

/-- **A page keeps a longest run.** The induction is on the text that was added last. -/
theorem exists_keepsRun (texts : List String) :
    ∃ run, (texts.foldl append empty).KeepsRun texts run := by
  induction texts using List.reverseRecOn with
  | nil =>
    have room : LeavesRoom [] := by
      rw [LeavesRoom, String.join_nil]
      exact empty.fits
    refine ⟨[], ⟨List.prefix_rfl, fun front begins => ?_, fun _ begins _ => begins.length_le⟩,
      String.join_nil.symm, ?_⟩
    · rw [List.prefix_nil.1 begins]
      exact room
    · simp [empty]
  | append_singleton texts text ih =>
    obtain ⟨run, keeps⟩ := ih
    rw [List.foldl_append]
    exact keeps.exists_append text

theorem ofWidgets_eq_foldl (title : String) (widgets : List Widget) :
    ofWidgets title widgets = (opening title :: widgets.map Widget.render).foldl append empty := by
  rw [List.foldl_cons, List.foldl_map]
  rfl

/-- A page from which something was left out takes nothing more. -/
theorem foldl_add_of_truncated {page : Page} (cut : page.truncated = true)
    (widgets : List Widget) : widgets.foldl add page = page := by
  induction widgets with
  | nil => rfl
  | cons widget widgets ih => rw [List.foldl_cons, add, append, if_pos cut, ih]

/-! ## Closing and sending -/

/-- The header in front of a document of so many bytes. -/
def header (size : Nat) : String :=
  "HTTP/1.1 200 OK\r\nContent-Type: text/html\r\nContent-Length: " ++ toString size ++
    "\r\nConnection: close\r\n\r\n"

theorem headerText_response (page : Page) :
    page.response.headerText = header page.document.utf8ByteSize := by
  have front : "HTTP/1.1 " ++ toString 200 ++ " " ++ "OK" ++ "\r\nContent-Type: " ++
      MediaType.html ++ "\r\nContent-Length: " =
        "HTTP/1.1 200 OK\r\nContent-Type: text/html\r\nContent-Length: " := by decide
  have back : "\r\n" ++ ("" ++ "Connection: close\r\n\r\n") =
      "\r\nConnection: close\r\n\r\n" := by decide
  show "HTTP/1.1 " ++ toString 200 ++ " " ++ "OK" ++ "\r\nContent-Type: " ++ MediaType.html ++
    "\r\nContent-Length: " ++ toString (Utf8.encode page.document).length ++ "\r\n" ++ "" ++
      "Connection: close\r\n\r\n" = _
  rw [front, Utf8.length_encode, String.append_assoc, String.append_assoc, back]
  rfl

end Page

namespace Exchange

/-- An exchange that answers with a message: all of it reaches the peer, unless the connection
fails. -/
structure Delivers (x : Exchange) (message : Bytes) (answer : Except Error Unit) (y : Exchange) :
    Prop where
  answered : y.answered = true
  beginning : ∃ sent, sent <+: message ∧ y.connection.written = x.connection.written ++ sent
  complete : answer = .ok () → y.connection.written = x.connection.written ++ message
  succeeds : (∀ kind, ¬ x.connection.Obstructs kind) → x.connection.flushFault = none →
    answer = .ok ()
  failed : ∀ {error : Error}, answer = .error error → ∃ kind, error = .transport (.plain kind)

theorem Accepted.delivers {x y : Exchange} {r : Response} {answer : Except Error Unit}
    (accepted : Accepted x r answer y)
    (fits : (Utf8.encode r.headerText).length ≤ x.headerBuffer.capacity) :
    x.Delivers r.message answer y where
  answered := accepted.answered
  beginning := accepted.beginning
  complete := accepted.complete
  succeeds free flushes := by
    obtain sent | overflow | ⟨fault, broken⟩ := accepted.answers
    · exact sent
    · exact absurd (accepted.overflow.1 overflow) (Nat.not_lt.2 fits)
    · obtain ⟨kind, -, ⟨obstructs, -⟩ | ⟨flushFault, -⟩⟩ := accepted.failed broken
      · exact absurd obstructs (free kind)
      · rw [flushes] at flushFault
        cases flushFault
  failed eq := by
    subst eq
    obtain sent | overflow | ⟨fault, broken⟩ := accepted.answers
    · cases sent
    · exact absurd (accepted.overflow.1 overflow) (Nat.not_lt.2 fits)
    · obtain ⟨kind, rfl, -⟩ := accepted.failed broken
      exact ⟨kind, Except.error.inj broken⟩

end Exchange

namespace Page

/-- A page is delivered with a header of its own. -/
theorem delivers_response (page : Page) {x : Exchange} (unanswered : x.answered = false)
    (fits : (header page.document.utf8ByteSize).utf8ByteSize ≤ x.headerBuffer.capacity) :
    x.Delivers (Utf8.encode (header page.document.utf8ByteSize ++ page.document))
      (x.send page.response).1 (x.send page.response).2 := by
  have message : page.response.message =
      Utf8.encode (header page.document.utf8ByteSize ++ page.document) := by
    rw [Response.message, page.headerText_response, Utf8.encode_append]
    rfl
  have plain : page.response.ExtraHeadersEnd := .inl rfl
  rw [← message]
  refine (Exchange.sends_send unanswered plain).accepted.delivers ?_
  rw [page.headerText_response, Utf8.length_encode]
  exact fits

end Page

namespace Draft

/-- What goes out for a draft: a header, its markup, and the closing tags. -/
def message (draft : Draft) : String :=
  Page.header (draft.html ++ Page.closing).utf8ByteSize ++ (draft.html ++ Page.closing)

/-- A draft can be closed and sent. -/
structure Finishes (buffer : TextBuffer Page.capacity) (draft : Draft) : Prop where
  closes : buffer.push draft.html Page.closing = (true, draft.html ++ Page.closing)
  small : (draft.html ++ Page.closing).utf8ByteSize ≤ Page.capacity
  delivers : ∀ x : Exchange, x.answered = false →
    (Page.header (draft.html ++ Page.closing).utf8ByteSize).utf8ByteSize ≤
      x.headerBuffer.capacity →
    x.Delivers (Utf8.encode draft.message) (draft.finish buffer x).1 (draft.finish buffer x).2

variable (buffer : TextBuffer Page.capacity)

theorem finishes_ofPage (page : Page) : (ofPage page).Finishes buffer := by
  have closes : buffer.push page.html Page.closing = (true, page.html ++ Page.closing) :=
    buffer.push_of_fits page.fits
  refine ⟨closes, page.utf8ByteSize_document_le, fun x unanswered fits => ?_⟩
  have sends : (ofPage page).finish buffer x = x.send page.response := by
    show x.send (.ok MediaType.html (Utf8.encode (buffer.push page.html Page.closing).2)) = _
    rw [closes]
    rfl
  rw [sends]
  exact page.delivers_response unanswered fits

/-- **A draft holds the longest run of whole widgets that fits.** No rollback fails, nothing is
added once something was left out, and the document can be closed and sent. -/
theorem keeps_longest_run (title : String) (widgets : List Widget) :
    ∃ draft run,
      build buffer title widgets = some draft ∧
      draft = ofPage (Page.ofWidgets title widgets) ∧
      Page.IsLongestRun (Page.opening title :: widgets.map Widget.render) run ∧
      draft.html = String.join run ∧
      (draft.truncated = true ↔ run ≠ Page.opening title :: widgets.map Widget.render) ∧
      (draft.truncated = true → ∀ more, build buffer title (widgets ++ more) = some draft) ∧
      draft.Finishes buffer := by
  obtain ⟨run, keeps⟩ :=
    Page.exists_keepsRun (Page.opening title :: widgets.map Widget.render)
  rw [← Page.ofWidgets_eq_foldl] at keeps
  refine ⟨_, run, build_eq buffer title widgets, rfl, keeps.longest, keeps.html_eq,
    keeps.truncated_iff, fun cut more => ?_, finishes_ofPage buffer _⟩
  have same : Page.ofWidgets title (widgets ++ more) = Page.ofWidgets title widgets := by
    rw [Page.ofWidgets, List.foldl_append]
    exact Page.foldl_add_of_truncated cut more
  rw [build_eq, same]

/-- Markup that is too long alone is left out. -/
theorem ofPage_append_of_long (page : Page) {markup : String}
    (long : Page.capacity < markup.utf8ByteSize) :
    ofPage (page.append markup) = ⟨page.html, true⟩ := by
  have large : ¬ (page.html ++ markup).utf8ByteSize + Page.closing.utf8ByteSize ≤
      Page.capacity := by
    rw [String.utf8ByteSize_append]
    omega
  rw [Page.append, dif_neg large]
  split
  · next cut => rw [ofPage, cut]
  · rfl

/-- An opening is longer than the title in it. -/
theorem utf8ByteSize_escape_le_opening (title : String) :
    (Html.escape title).utf8ByteSize ≤ (Page.opening title).utf8ByteSize := by
  have inside (front text back : String) :
      text.utf8ByteSize ≤ (front ++ text ++ back).utf8ByteSize := by
    rw [String.utf8ByteSize_append, String.utf8ByteSize_append]
    omega
  unfold Page.opening
  exact inside _ _ _

/-- Angle brackets take four bytes each, so with this title the page stays empty. A widget that
would fit is not added either, and the document is the closing tags. -/
theorem keeps_longest_run_of_long_title :
    let title := String.ofList (List.replicate 1025 '<')
    let draft : Draft := ⟨"", true⟩
    let x : Exchange := .opened {} (.new 83)
    let buffer : TextBuffer Page.capacity := .whole _
    build buffer title [] = some draft ∧ build buffer title [.endForm] = some draft ∧
      x.answered = false ∧ (Page.header 14).utf8ByteSize ≤ x.headerBuffer.capacity ∧
      (draft.finish buffer x).1 = .ok () ∧
      (draft.finish buffer x).2.connection.written =
        Utf8.encode (Page.header 14 ++ "</body></html>") := by
  intro title draft x buffer
  have size (n : Nat) : Utf8.size ((List.replicate n '<').flatMap Html.escapeChar) = 4 * n := by
    induction n with
    | zero => rfl
    | succ n ih =>
      rw [List.replicate_succ, List.flatMap_cons, Utf8.size_append, ih, Nat.mul_succ, Nat.add_comm]
      rfl
  have long : Page.capacity < (Html.escape title).utf8ByteSize := by
    rw [Html.escape, Utf8.utf8ByteSize_ofList, String.toList_ofList, size]
    decide
  clear_value title
  have room : (Page.header 14).utf8ByteSize ≤ x.headerBuffer.capacity := by decide
  have free : ∀ kind, ¬ x.connection.Obstructs kind := by
    rintro kind (⟨mem, -⟩ | mem | standstill)
    · cases mem
    · cases mem
    · cases standstill
  obtain ⟨draft', run, built, eq, -, -, -, closed, finishes⟩ :=
    keeps_longest_run buffer title []
  have left_out : ofPage (Page.empty.append (Page.opening title)) = draft :=
    ofPage_append_of_long Page.empty
      (Nat.lt_of_lt_of_le long (utf8ByteSize_escape_le_opening title))
  obtain rfl : draft' = draft := by
    rw [eq, Page.ofWidgets_eq_foldl, List.map_nil, List.foldl_cons, List.foldl_nil, left_out]
  have message : draft.message = Page.header 14 ++ "</body></html>" := by decide +kernel
  have delivers := finishes.delivers x rfl room
  have sent := delivers.succeeds free rfl
  rw [message] at delivers
  exact ⟨built, closed rfl [.endForm], rfl, room, sent, delivers.complete sent⟩

end Draft

end DeviceHttp
