import DeviceHttp.Html.Page
import DeviceHttp.Proofs.Numerals

/-!
# Texts and markup

A page is put together from fixed markup and from texts that come from outside. The texts are
escaped, so **no text can change the markup of a page**: which angle brackets and quotes a document
has, and in which order, is a matter of its widgets and not of what they show.

## Main statements

* `Html.isEscapeOf_escape` — an escaped text is free of markup, its ampersands start entities, and
  it is read back
* `Page.texts_keep_markup` — two pages with the same widgets, apart from their texts, numbers and
  flags, have the same markup, unless one of them was cut short

## How

`Widget.skeleton` takes from a widget all that a caller can choose freely. `Html.markup` is a
homomorphism into lists of characters, and escaped texts and numerals are in its kernel, so a widget
has the markup of its skeleton (`Widget.markup_render`). A page that was not cut short is its
opening and the widgets in a row (`Page.html_ofWidgets`).
-/

namespace DeviceHttp

namespace Html

/-- The markup of a document: its angle brackets and quotes, in order. -/
def markup (s : String) : List Char := s.toList.filter isMarkup

@[simp] theorem markup_append (s t : String) : markup (s ++ t) = markup s ++ markup t := by
  rw [markup, String.toList_append, List.filter_append]
  rfl

@[simp] theorem markup_join (texts : List String) :
    markup (String.join texts) = texts.flatMap markup := by
  induction texts with
  | nil => rfl
  | cons s texts ih => rw [String.join_cons, markup_append, ih, List.flatMap_cons]

theorem markup_eq_nil_iff {s : String} : markup s = [] ↔ ∀ c ∈ s.toList, isMarkup c = false := by
  simp only [markup, List.filter_eq_nil_iff, Bool.not_eq_true]

/-- Escaped texts have no markup. -/
@[simp] theorem markup_escape (s : String) : markup (escape s) = [] :=
  markup_eq_nil_iff.2 fun _ => isMarkup_of_mem_escape

/-! ## Entities -/

/-- How the five characters that are escaped are written. -/
def entities : List String := ["&lt;", "&gt;", "&amp;", "&apos;", "&quot;"]

/-- Replaces entities by the characters that they stand for, from left to right. -/
def unescapeChars : List Char → List Char
  | [] => []
  | '&' :: 'l' :: 't' :: ';' :: cs => '<' :: unescapeChars cs
  | '&' :: 'g' :: 't' :: ';' :: cs => '>' :: unescapeChars cs
  | '&' :: 'a' :: 'm' :: 'p' :: ';' :: cs => '&' :: unescapeChars cs
  | '&' :: 'a' :: 'p' :: 'o' :: 's' :: ';' :: cs => '\x27' :: unescapeChars cs
  | '&' :: 'q' :: 'u' :: 'o' :: 't' :: ';' :: cs => '"' :: unescapeChars cs
  | c :: cs => c :: unescapeChars cs

/-- A text with its entities replaced. -/
def unescape (s : String) : String := String.ofList (unescapeChars s.toList)

/-- What it is for a text to be written so that it stays a text. -/
structure IsEscapeOf (s escaped : String) : Prop where
  free : ∀ c ∈ escaped.toList, isMarkup c = false
  /-- Every ampersand starts an entity. -/
  ampersands : ∀ {front back : List Char}, escaped.toList = front ++ '&' :: back →
    ∃ entity ∈ entities, entity.toList <+: '&' :: back
  /-- Replacing the entities gives the text back. -/
  inverse : unescape escaped = s

/-- A character is written as an entity, or it is no ampersand and stays. -/
theorem escapeChar_eq (c : Char) :
    (∃ entity ∈ entities, escapeChar c = entity.toList) ∨ escapeChar c = [c] ∧ c ≠ '&' := by
  unfold escapeChar
  split
  case h_6 _ _ differs _ _ => exact .inr ⟨rfl, differs⟩
  all_goals exact .inl ⟨_, by decide, rfl⟩

/-- An entity holds one ampersand, in front. -/
theorem exists_toList_of_mem_entities {entity : String} (mem : entity ∈ entities) :
    ∃ name, entity.toList = '&' :: name ∧ '&' ∉ name := by
  simp only [entities, List.mem_cons, List.not_mem_nil, or_false] at mem
  rcases mem with rfl | rfl | rfl | rfl | rfl <;> exact ⟨_, rfl, by decide⟩

/-- An ampersand in what is written for a character stands in front of an entity. -/
theorem mem_entities_of_escapeChar_eq {c : Char} {front back : List Char}
    (split : escapeChar c = front ++ '&' :: back) :
    front = [] ∧ ∃ entity ∈ entities, entity.toList = '&' :: back := by
  rcases escapeChar_eq c with ⟨entity, mem, written⟩ | ⟨written, differs⟩
  · obtain ⟨name, shape, absent⟩ := exists_toList_of_mem_entities mem
    rw [written, shape] at split
    cases front with
    | nil => exact ⟨rfl, entity, mem, shape.trans split⟩
    | cons d front =>
      rw [(List.cons.inj split).2] at absent
      exact absurd (List.mem_append_right front List.mem_cons_self) absent
  · rw [written] at split
    have inside : '&' ∈ [c] := split ▸ List.mem_append_right front List.mem_cons_self
    exact absurd (List.mem_singleton.1 inside).symm differs

theorem prefix_of_escape_eq {cs front back : List Char}
    (split : cs.flatMap escapeChar = front ++ '&' :: back) :
    ∃ entity ∈ entities, entity.toList <+: '&' :: back := by
  induction cs generalizing front with
  | nil => exact absurd split (by simp)
  | cons c cs ih =>
    rw [List.flatMap_cons] at split
    obtain ⟨more, -, later⟩ | ⟨more, here, later⟩ := List.append_eq_append_iff.1 split
    · exact ih later
    · cases more with
      | nil => exact ih (show _ = [] ++ '&' :: back from later.symm)
      | cons d more =>
        -- the ampersand stands in what is written for `c`
        rw [List.cons_append] at later
        obtain ⟨rfl, behind⟩ := List.cons.inj later
        obtain ⟨-, entity, mem, whole⟩ := mem_entities_of_escapeChar_eq here
        refine ⟨entity, mem, cs.flatMap escapeChar, ?_⟩
        rw [whole, behind, List.cons_append]

theorem unescapeChars_cons {c : Char} (differs : c ≠ '&') (cs : List Char) :
    unescapeChars (c :: cs) = c :: unescapeChars cs := by
  rw [unescapeChars.eq_7]
  all_goals
    rintro _ rfl
    exact fun _ => differs rfl

theorem unescapeChars_escapeChar_append (c : Char) (cs : List Char) :
    unescapeChars (escapeChar c ++ cs) = c :: unescapeChars cs := by
  unfold escapeChar
  split
  case h_6 _ _ differs _ _ => exact unescapeChars_cons differs cs
  all_goals rfl

theorem unescape_escape (s : String) : unescape (escape s) = s := by
  have chars (cs : List Char) : unescapeChars (cs.flatMap escapeChar) = cs := by
    induction cs with
    | nil => rfl
    | cons c cs ih => rw [List.flatMap_cons, unescapeChars_escapeChar_append, ih]
  rw [unescape, escape, String.toList_ofList, chars, String.ofList_toList]

/-- **An escaped text stays a text.** -/
theorem isEscapeOf_escape (s : String) : IsEscapeOf s (escape s) where
  free _ := isMarkup_of_mem_escape
  ampersands split := prefix_of_escape_eq (by rwa [escape, String.toList_ofList] at split)
  inverse := unescape_escape s

end Html

open Html

/-! ## Numerals and flags -/

theorem isMarkup_of_isDigit {c : Char} (digit : Text.isDigit c = true) : isMarkup c = false := by
  refine Bool.eq_false_iff.2 fun marked => ?_
  simp only [isMarkup, Bool.or_eq_true, decide_eq_true_eq] at marked
  rcases marked with ((rfl | rfl) | rfl) | rfl <;> exact absurd digit (by decide)

/-- A numeral has no markup. -/
@[simp] theorem markup_toString_nat (n : Nat) : markup (toString n) = [] :=
  markup_eq_nil_iff.2 fun _ mem => isMarkup_of_isDigit (isDigit_of_mem_toString mem)

@[simp] theorem markup_toString_int (n : Int) : markup (toString n) = [] := by
  cases n with
  | ofNat n => exact markup_toString_nat n
  | negSucc n =>
    show markup ("-" ++ toString (n + 1)) = []
    rw [markup_append, markup_toString_nat]
    decide

/-- A flag that is there or not has no markup either way. -/
theorem markup_flag {flag : String} (plain : markup flag = []) (p : Prop) [Decidable p] :
    markup (if p then flag else "") = [] := by
  split
  · exact plain
  · rfl

/-! ## Widgets -/

namespace Widget

/-- A widget without its texts, numbers and flags. Of a choice, the number of options is left. -/
def skeleton : Widget → Widget
  | heading _ => heading ""
  | paragraph _ => paragraph ""
  | button _ _ => button "" ""
  | form _ _ _ => form "" "" ""
  | endForm => endForm
  | textbox _ _ _ => textbox "" "" ""
  | checkbox _ _ _ => checkbox "" "" false
  | number _ _ _ => number "" "" 0
  | select _ options _ => select "" (options.map fun _ => "") 0
  | fileInput _ _ => fileInput "" ""
  | submit _ => submit ""
  | submitTo _ _ => submitTo "" ""

/-- The markup of an option. -/
def optionMarkup : List Char := markup "<option value=\"\"></option>"

/-- An option has the same markup whatever its label and its number are, selected or not. -/
theorem markup_renderOption (selected : Nat) (label : String) (index : Nat) :
    markup (renderOption selected label index) = optionMarkup := by
  have plain : markup " selected" = [] := by decide
  have parts : markup "<option value=\"" ++ markup "\"" ++ markup ">" ++ markup "</option>" =
      optionMarkup := by decide
  unfold renderOption
  simp only [markup_append, markup_toString_nat, markup_escape, markup_flag plain, List.append_nil]
  exact parts

/-- The markup of options depends on nothing but how many there are. -/
theorem markup_options (options : List String) (selected start : Nat) :
    markup (String.join ((options.zipIdx start).map fun (label, index) =>
        renderOption selected label index)) =
      (List.replicate options.length optionMarkup).flatten := by
  rw [markup_join, List.flatMap_map]
  induction options generalizing start with
  | nil => rfl
  | cons label options ih =>
    rw [List.zipIdx_cons, List.flatMap_cons, ih, markup_renderOption, List.length_cons,
      List.replicate_succ, List.flatten_cons]

/-- **A widget has the markup of its skeleton.** -/
theorem markup_render (w : Widget) : markup w.render = markup w.skeleton.render := by
  unfold skeleton render
  cases w with
  | select name options selected =>
    simp only [markup_append, markup_escape, markup_options, List.length_map]
  | checkbox name label checked =>
    have plain : markup " checked" = [] := by decide
    simp only [markup_append, markup_escape, markup_flag plain]
  | _ => simp only [markup_append, markup_escape, markup_toString_int]

end Widget

/-! ## Pages -/

namespace Page

variable {page : Page} {title : String} {widgets : List Widget}

/-- Where nothing is left out, everything was added. -/
theorem html_append {text : String} (complete : (page.append text).truncated = false) :
    page.truncated = false ∧ (page.append text).html = page.html ++ text := by
  by_cases cut : page.truncated = true
  · rw [append, if_pos cut, cut] at complete
    cases complete
  · rw [append, if_neg cut] at complete ⊢
    split at complete
    next room => exact ⟨Bool.eq_false_iff.2 cut, by rw [dif_pos room]⟩
    next => cases complete

theorem html_foldl_add (complete : (widgets.foldl add page).truncated = false) :
    page.truncated = false ∧
      (widgets.foldl add page).html = page.html ++ String.join (widgets.map Widget.render) := by
  induction widgets generalizing page with
  | nil => exact ⟨complete, (String.append_empty).symm⟩
  | cons widget widgets ih =>
    rw [List.foldl_cons] at complete ⊢
    obtain ⟨added, rest⟩ := ih complete
    obtain ⟨before, html⟩ := html_append added
    refine ⟨before, ?_⟩
    rw [rest, add, html, List.map_cons, String.join_cons, String.append_assoc]

/-- A page that was not cut short is its opening and the widgets in a row. -/
theorem html_ofWidgets (complete : (ofWidgets title widgets).truncated = false) :
    (ofWidgets title widgets).html =
      opening title ++ String.join (widgets.map Widget.render) := by
  obtain ⟨opened, html⟩ := html_foldl_add complete
  obtain ⟨-, first⟩ := html_append opened
  rw [ofWidgets, html, new, first]
  exact congrArg (· ++ _) String.empty_append

theorem markup_opening (title title' : String) :
    markup (opening title) = markup (opening title') := by
  unfold opening
  simp only [markup_append, markup_escape]

/-- The markup of a page comes from the skeletons of its widgets. -/
theorem markup_html (complete : (ofWidgets title widgets).truncated = false) :
    markup (ofWidgets title widgets).html =
      markup (opening "") ++ (widgets.map Widget.skeleton).flatMap (markup ·.render) := by
  have skeletons : (fun widget : Widget => markup widget.render) =
      fun widget => markup widget.skeleton.render := funext Widget.markup_render
  rw [html_ofWidgets complete, markup_append, markup_join, List.flatMap_map, List.flatMap_map,
    markup_opening title ""]
  exact congrArg (fun f => markup (opening "") ++ widgets.flatMap f) skeletons

/-- **No text can change the markup of a page.** Nor can a number, a flag or the choice of an
option, and of the texts nothing is lost. -/
theorem texts_keep_markup :
    (∀ {title title' : String} {widgets widgets' : List Widget},
      widgets.map Widget.skeleton = widgets'.map Widget.skeleton →
        (ofWidgets title widgets).truncated = false →
          (ofWidgets title' widgets').truncated = false →
            markup (ofWidgets title widgets).html = markup (ofWidgets title' widgets').html ∧
              markup (ofWidgets title widgets).document =
                markup (ofWidgets title' widgets').document) ∧
      ∀ s, IsEscapeOf s (escape s) := by
  refine ⟨?_, isEscapeOf_escape⟩
  intro title title' widgets widgets' skeletons complete complete'
  have html : markup (ofWidgets title widgets).html = markup (ofWidgets title' widgets').html := by
    rw [markup_html complete, markup_html complete', skeletons]
  refine ⟨html, ?_⟩
  rw [document, document, markup_append, markup_append, html]

/-- Texts that look like markup, and a choice between two options with another one selected. -/
theorem texts_keep_markup_lookalike :
    let widgets : List Widget :=
      [.heading "a", .select "b" ["c", "d"] 0, .checkbox "e" "f" false, .number "g" "h" 5]
    let widgets' : List Widget :=
      [.heading "</h3>", .select "\"" ["<br>", "&lt;"] 1, .checkbox "\x27" "" true,
        .number "<" ">" (-70)]
    widgets.map Widget.skeleton = widgets'.map Widget.skeleton ∧
      (ofWidgets "t" widgets).truncated = false ∧
        (ofWidgets "</title>" widgets').truncated = false ∧
          (markup (ofWidgets "t" widgets).html = markup (ofWidgets "</title>" widgets').html ∧
            markup (ofWidgets "t" widgets).document =
              markup (ofWidgets "</title>" widgets').document) ∧
            IsEscapeOf "&lt;" (escape "&lt;") := by
  intro widgets widgets'
  have skeletons : widgets.map Widget.skeleton = widgets'.map Widget.skeleton := by decide
  have complete : (ofWidgets "t" widgets).truncated = false := by decide +kernel
  have complete' : (ofWidgets "</title>" widgets').truncated = false := by decide +kernel
  exact ⟨skeletons, complete, complete', texts_keep_markup.1 skeletons complete complete',
    texts_keep_markup.2 "&lt;"⟩

end Page

end DeviceHttp
