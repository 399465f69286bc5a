import DeviceHttp.Html.Widget
import DeviceHttp.Response

/-!
# Pages

Small HTML documents for the user interface of a device. A page is a title and a sequence of
widgets, written to a text of at most `Page.capacity` bytes. A widget is added whole or not at all:
once one does not fit, the page is marked and nothing more is added. There is always room for the
closing tags.
-/

namespace DeviceHttp

namespace Page

/-- The size of a whole document in bytes. -/
def capacity : Nat := 4096

/-- The style sheet of every page. -/
def style : String :=
  "<style>" ++
  "body\x7bfont-family:Arial,Helvetica,sans-serif;margin:20px;\x7d" ++
  "button\x7bpadding:10px;margin:5px;\x7d" ++
  "input,select\x7bpadding:5px;margin:5px;\x7d" ++
  "label\x7bdisplay:inline-block;width:100px;\x7d" ++
  "</style>"

/-- The markup in front of the widgets. -/
def opening (title : String) : String :=
  "<html><head><title>" ++ Html.escape title ++ "</title>" ++ style ++ "</head><body><h2>" ++
    Html.escape title ++ "</h2>"

/-- The closing tags. -/
def closing : String := "</body></html>"

end Page

/-- A document under construction, still without its closing tags. -/
structure Page where
  html : String
  /-- Whether something did not fit. -/
  truncated : Bool
  fits : html.utf8ByteSize + Page.closing.utf8ByteSize ≤ Page.capacity

namespace Page

/-- A document without anything. -/
def empty : Page := ⟨"", false, by decide⟩

/-- Adds markup if it fits and nothing was left out before. -/
def append (page : Page) (markup : String) : Page :=
  if page.truncated then page
  else if h : (page.html ++ markup).utf8ByteSize + closing.utf8ByteSize ≤ capacity then
    ⟨page.html ++ markup, false, h⟩
  else { page with truncated := true }

/-- A page with a title. -/
def new (title : String) : Page := empty.append (opening title)

/-- Adds a widget. -/
def add (page : Page) (widget : Widget) : Page := page.append widget.render

/-- A page with a title and widgets. -/
def ofWidgets (title : String) (widgets : List Widget) : Page := widgets.foldl add (new title)

/-- The whole document. -/
def document (page : Page) : String := page.html ++ closing

/-- The response that shows a page. -/
def response (page : Page) : Response := .ok MediaType.html (Utf8.encode page.document)

theorem utf8ByteSize_document_le (page : Page) : page.document.utf8ByteSize ≤ capacity := by
  rw [document, String.utf8ByteSize_append]
  exact page.fits

end Page

end DeviceHttp
