import DeviceHttp.Proofs.Agreement
import DeviceHttp.Proofs.Markup
import DeviceHttp.Proofs.Transmission
import DeviceHttp.Proofs.WrittenForm
import DeviceHttp.Text.Quoted
import Mathlib.Data.Nat.Digits.Defs

/-!
# How large a page and a header can become

Pages and headers are put together in places of fixed size, from texts that come from outside. The
texts are bounded before they are escaped, and escaping makes them longer. The lemmas of this module
say by how much, so that the sizes of what is put together can be added up.

* An escaped text is at most six times as long (`Html.utf8ByteSize_escape_le`).
* A page has room for everything if the sizes add up (`Page.truncated_ofWidgets`).
* The data of a part are among the body (`Multipart.length_data_le_of_file?`), and the body is among
  the bytes that were received (`Request.length_body_le_of_ofBytes`).
* The size of a header is that of its parts (`Response.length_headerText`).
-/

namespace DeviceHttp

namespace Utf8

/-- No character takes more than four bytes. -/
theorem size_le_four_mul_length (cs : List Char) : size cs ≤ 4 * cs.length := by
  induction cs with
  | nil => exact Nat.le_refl 0
  | cons c cs ih =>
    have := c.utf8Size_le_four
    rw [size_cons, List.length_cons]
    omega

/-- A text grows by no more than its characters do. -/
theorem size_flatMap_le {f : Char → List Char} {k : Nat}
    (grows : ∀ c, size (f c) ≤ k * c.utf8Size) (cs : List Char) :
    size (cs.flatMap f) ≤ k * size cs := by
  induction cs with
  | nil => exact Nat.le_refl 0
  | cons c cs ih =>
    have first := grows c
    rw [List.flatMap_cons, size_append, size_cons, Nat.mul_add]
    omega

end Utf8

/-- A numeral is as long as its number has digits. -/
theorem utf8ByteSize_toString_le {n k : Nat} (pos : 0 < k) (small : n < 10 ^ k) :
    (toString n).utf8ByteSize ≤ k := by
  have ascii : ∀ c ∈ (toString n).toList, c.toNat ≤ 127 := by
    intro c mem
    have range := ascii_of_isDigit (isDigit_of_mem_toString mem)
    omega
  have digits : (toString n).toList = Nat.toDigits 10 n := Nat.toList_repr
  rw [Utf8.utf8ByteSize_eq_size, Utf8.size_of_ascii ascii, digits]
  exact Nat.toDigits_length 10 n k pos small

/-! ## Escaped and quoted texts -/

/-- The longest entities have six characters. -/
theorem Html.size_escapeChar_le (c : Char) :
    Utf8.size (escapeChar c) ≤ 6 * c.utf8Size := by
  have pos := c.utf8Size_pos
  have entity : ∀ {text : List Char}, Utf8.size text ≤ 6 → Utf8.size text ≤ 6 * c.utf8Size := by
    intro text short
    omega
  unfold escapeChar
  split
  case h_6 =>
    rw [Utf8.size_cons, Utf8.size_nil]
    omega
  all_goals
    apply entity
    decide

theorem Html.utf8ByteSize_escape_le (s : String) :
    (escape s).utf8ByteSize ≤ 6 * s.utf8ByteSize := by
  rw [escape, Utf8.utf8ByteSize_ofList, Utf8.utf8ByteSize_eq_size s]
  exact Utf8.size_flatMap_le size_escapeChar_le s.toList

/-- An escape has at most ten characters, six of them for the code point. -/
theorem Text.size_quoteChar_le (c : Char) : Utf8.size (quoteChar c) ≤ 40 * c.utf8Size := by
  have pos := c.utf8Size_pos
  have short : (quoteChar c).length ≤ 10 := by
    have codePoint : c.toNat < 16 ^ 6 := by
      have := c.valid
      have value : c.toNat = c.val.toNat := rfl
      unfold UInt32.isValidChar Nat.isValidChar at this
      omega
    have digits := Nat.toDigits_length 16 c.toNat 6 (by decide) codePoint
    unfold quoteChar
    repeat' split
    all_goals simp only [List.length_append, List.length_cons, List.length_nil]; omega
  have wide := Utf8.size_le_four_mul_length (quoteChar c)
  omega

theorem Text.utf8ByteSize_quoted_le (s : String) :
    (quoted s).utf8ByteSize ≤ 40 * s.utf8ByteSize + 2 := by
  have inner := Utf8.size_flatMap_le size_quoteChar_le s.toList
  have quotes : Utf8.size ['"'] = 1 := by decide
  rw [quoted, Utf8.utf8ByteSize_ofList, Utf8.size_append, Utf8.size_append, quotes,
    Utf8.utf8ByteSize_eq_size s]
  omega

/-! ## Pages -/

namespace Page

variable {page : Page}

/-- Markup that fits is added. -/
theorem append_of_fits (markup : String) (whole : page.truncated = false)
    (fits : page.html.utf8ByteSize + markup.utf8ByteSize + closing.utf8ByteSize ≤ capacity) :
    (page.append markup).truncated = false ∧
      (page.append markup).html.utf8ByteSize = page.html.utf8ByteSize + markup.utf8ByteSize := by
  rw [← String.utf8ByteSize_append] at fits ⊢
  rw [append, if_neg (Bool.eq_false_iff.1 whole), dif_pos fits]
  exact ⟨rfl, rfl⟩

/-- Widgets that fit together are all added. -/
theorem truncated_foldl_add {widgets : List Widget} (whole : page.truncated = false)
    (fits : page.html.utf8ByteSize + (widgets.map (·.render.utf8ByteSize)).sum +
      closing.utf8ByteSize ≤ capacity) :
    (widgets.foldl add page).truncated = false := by
  induction widgets generalizing page with
  | nil => exact whole
  | cons widget widgets ih =>
    rw [List.map_cons, List.sum_cons] at fits
    obtain ⟨still, size⟩ := append_of_fits widget.render whole (by omega)
    rw [List.foldl_cons]
    apply ih still
    show (page.append widget.render).html.utf8ByteSize + _ + _ ≤ _
    rw [size]
    omega

/-- **A page has room for everything** if its opening, its widgets and the closing tags fit. -/
theorem truncated_ofWidgets {title : String} {widgets : List Widget}
    (fits : (opening title).utf8ByteSize + (widgets.map (·.render.utf8ByteSize)).sum +
      closing.utf8ByteSize ≤ capacity) : (ofWidgets title widgets).truncated = false := by
  have nothing : empty.html.utf8ByteSize = 0 := rfl
  have started : empty.truncated = false := rfl
  have room : empty.html.utf8ByteSize + (opening title).utf8ByteSize + closing.utf8ByteSize ≤
      capacity := by
    rw [nothing]
    omega
  obtain ⟨whole, size⟩ := append_of_fits (opening title) started room
  have opened : (new title).truncated = false := whole
  apply truncated_foldl_add opened
  show (empty.append (opening title)).html.utf8ByteSize + _ + _ ≤ _
  rw [size, nothing]
  omega

end Page

theorem Widget.utf8ByteSize_paragraph_le (text : String) :
    (paragraph text).render.utf8ByteSize ≤ 6 * text.utf8ByteSize + 7 := by
  have escaped := Html.utf8ByteSize_escape_le text
  have opening : "<p>".utf8ByteSize = 3 := by decide
  have closing : "</p>".utf8ByteSize = 4 := by decide
  unfold render
  rw [String.utf8ByteSize_append, String.utf8ByteSize_append, opening, closing]
  omega

/-! ## Parts of a multipart body -/

namespace Part

theorem data_withParameter (part : Part) (parameter : List Char) :
    (part.withParameter parameter).data = part.data := by
  unfold withParameter
  split
  · rfl
  · dsimp only
    split
    · rfl
    · split <;> rfl

theorem data_withHeader (part : Part) (line : Bytes) :
    (part.withHeader line).data = part.data := by
  have disposition : ∀ value : String, (part.withDisposition value).data = part.data := by
    intro value
    unfold withDisposition
    apply List.foldlRecOn (motive := fun p : Part => p.data = part.data)
    · rfl
    · intro p same parameter _
      exact (p.data_withParameter parameter).trans same
  unfold withHeader
  split
  · split
    · exact disposition _
    · rfl
  · split <;> rfl

/-- Header lines do not touch the data of a part. -/
@[simp] theorem data_ofHeaders (headers data : Bytes) : (ofHeaders headers data).data = data := by
  unfold ofHeaders
  apply List.foldlRecOn (motive := fun p : Part => p.data = data)
  · rfl
  · intro p same line _
    exact (p.data_withHeader line).trans same

end Part

namespace PartCursor

theorem length_trimNewlines_le (data : Bytes) : (trimNewlines data).length ≤ data.length := by
  unfold trimNewlines dropEndWhile
  have dropped := (List.dropWhile_sublist (fun b => b = 13 || b = 10) (l := data.reverse)).length_le
  rw [List.length_reverse] at dropped ⊢
  exact dropped

/-- A part has no more data than there was behind its delimiter. -/
theorem length_data_lt_of_next {cursor after : PartCursor} {part : Part}
    (h : cursor.next = some (part, after)) : part.data.length < cursor.weight := by
  unfold next at h
  obtain ⟨rest, rest_eq, h⟩ := Option.bind_eq_some_iff.1 h
  obtain ⟨-, h⟩ := Option.ite_none_left_eq_some.1 h
  obtain ⟨⟨headers, tail⟩, split, h⟩ := Option.bind_eq_some_iff.1 h
  have made : Part.ofHeaders headers (trimNewlines (splitData cursor.delimiter tail).1) = part :=
    congrArg Prod.fst (Option.some.inj h)
  have tail_lt := length_splitHeaders?_lt split
  have trimmed := length_trimNewlines_le (splitData cursor.delimiter tail).1
  have data_le : (splitData cursor.delimiter tail).1.length ≤ tail.length := by
    unfold splitData
    split
    · exact List.length_take_le' _ _
    · exact Nat.le_refl _
  rw [← made, Part.data_ofHeaders, weight, rest_eq, Option.map_some, Option.getD_some]
  omega

theorem length_data_lt_of_mem {cursor : PartCursor} {part : Part} (mem : part ∈ cursor.toList) :
    part.data.length < cursor.weight := by
  induction cursor using toList.induct with
  | case1 cursor last =>
    rw [toList_of_none last] at mem
    cases mem
  | case2 cursor first after next ih =>
    rw [toList_of_some next, List.mem_cons] at mem
    obtain rfl | later := mem
    · exact length_data_lt_of_next next
    · exact Nat.lt_trans (ih later) (weight_next_lt next)

theorem weight_start_le (body : Bytes) (boundary : String) :
    (start body boundary).weight ≤ body.length + 1 := by
  unfold start weight
  dsimp only
  cases Bytes.indexOf? (Utf8.encode "--" ++ Utf8.encode boundary) body with
  | none => exact Nat.zero_le _
  | some i =>
    rw [Option.map_some, Option.map_some, Option.getD_some, List.length_drop]
    omega

end PartCursor

/-- **No part of a request is larger than its body.** -/
theorem Multipart.length_data_le_of_file? {request : Request} {name : String} {part : Part}
    (found : file? request name = some part) : part.data.length ≤ request.body.length := by
  unfold file? at found
  obtain ⟨-, found⟩ := Option.ite_none_left_eq_some.1 found
  have mem := List.mem_of_find?_eq_some found
  unfold parts at mem
  split at mem
  · cases mem
  · next boundary _ =>
    have small := PartCursor.length_data_lt_of_mem mem
    have whole := PartCursor.weight_start_le request.body boundary
    omega

/-- The body of a request is among the bytes that it was read from. -/
theorem Request.length_body_le_of_ofBytes {b : Bytes} {request : Request}
    (read : ofBytes b = .ok request) : request.body.length ≤ b.length := by
  have judged := judges_ofBytes b
  rw [read] at judged
  cases judged with
  | @complete i head =>
    show (if 0 < head.contentLength then _ else _ : Bytes).length ≤ _
    split
    · rw [List.length_drop, List.length_take]
      omega
    · rw [List.length_drop]
      omega

/-! ## Headers -/

/-- The size of a header is that of its variable parts and of the fixed text around them. -/
theorem Response.length_headerText (r : Response) :
    (Utf8.encode r.headerText).length =
      67 + (toString r.status).utf8ByteSize + r.reason.utf8ByteSize +
        r.contentType.utf8ByteSize + (toString r.body.length).utf8ByteSize +
          r.extraHeaders.utf8ByteSize := by
  have version : "HTTP/1.1 ".utf8ByteSize = 9 := by decide
  have space : " ".utf8ByteSize = 1 := by decide
  have contentType : "\r\nContent-Type: ".utf8ByteSize = 16 := by decide
  have contentLength : "\r\nContent-Length: ".utf8ByteSize = 18 := by decide
  have lineEnd : "\r\n".utf8ByteSize = 2 := by decide
  have connection : "Connection: close\r\n\r\n".utf8ByteSize = 21 := by decide
  rw [Utf8.length_encode]
  unfold headerText
  simp only [String.utf8ByteSize_append, version, space, contentType, contentLength, lineEnd,
    connection]
  omega

end DeviceHttp
