import DeviceHttp.Html.Escape

/-!
# Widgets

The elements that a page is made of, and their markup.
-/

namespace DeviceHttp

/-- An element of a page. -/
inductive Widget where
  | heading (text : String)
  | paragraph (text : String)
  /-- A button that leads to another page. -/
  | button (href label : String)
  | form (action method enctype : String)
  | endForm
  | textbox (name label value : String)
  | checkbox (name label : String) (checked : Bool)
  | number (name label : String) (value : Int)
  /-- A choice between options, which are numbered from zero. -/
  | select (name : String) (options : List String) (selected : Nat)
  | fileInput (name label : String)
  /-- The button that sends the form around it. -/
  | submit (label : String)
  /-- A button in a form of its own. -/
  | submitTo (action label : String)
deriving DecidableEq, Repr

namespace Widget

/-- An option of a choice. -/
def renderOption (selected : Nat) (label : String) (index : Nat) : String :=
  "<option value=\"" ++ toString index ++ "\"" ++ (if index = selected then " selected" else "") ++
    ">" ++ Html.escape label ++ "</option>"

/-- The markup of a widget. -/
def render : Widget → String
  | heading text => "<h3>" ++ Html.escape text ++ "</h3>"
  | paragraph text => "<p>" ++ Html.escape text ++ "</p>"
  | button href label =>
    "<p><button onclick=\"location.href='" ++ Html.escape href ++ "'\">" ++ Html.escape label ++
      "</button></p>"
  | form action method enctype =>
    "<form action=\"" ++ Html.escape action ++ "\" method=\"" ++ Html.escape method ++
      "\" enctype=\"" ++ Html.escape enctype ++ "\">"
  | endForm => "</form>"
  | textbox name label value =>
    "<label>" ++ Html.escape label ++ "</label><input type=\"text\" name=\"" ++ Html.escape name ++
      "\" value=\"" ++ Html.escape value ++ "\"><br>"
  | checkbox name label checked =>
    "<label>" ++ Html.escape label ++ "</label><input type=\"checkbox\" name=\"" ++
      Html.escape name ++ "\"" ++ (if checked then " checked" else "") ++ "><br>"
  | number name label value =>
    "<label>" ++ Html.escape label ++ "</label><input type=\"number\" name=\"" ++
      Html.escape name ++ "\" value=\"" ++ toString value ++ "\"><br>"
  | select name options selected =>
    "<label>" ++ Html.escape name ++ "</label><select name=\"" ++ Html.escape name ++ "\">" ++
      String.join (options.zipIdx.map fun (label, index) => renderOption selected label index) ++
      "</select><br>"
  | fileInput name label =>
    "<label>" ++ Html.escape label ++ "</label><input type=\"file\" name=\"" ++ Html.escape name ++
      "\"><br>"
  | submit label => "<input type=\"submit\" value=\"" ++ Html.escape label ++ "\">"
  | submitTo action label =>
    "<form action=\"" ++ Html.escape action ++
      "\" method=\"get\"><input type=\"submit\" value=\"" ++ Html.escape label ++ "\"></form>"

end Widget

end DeviceHttp
