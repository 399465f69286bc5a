import DeviceHttp.Proofs.Announcement
import DeviceHttp.Proofs.PartPlaces

/-!
# Which boundaries are read

A content type comes from outside and may hold anything. What `Multipart.boundary?` returns is put
behind a line ending and two hyphens, and every part of the body is found by that delimiter. So a
boundary that is not usable must never be returned, and one that is announced plainly must not be
missed (`Multipart.boundary?_usable_and_complete`).

* A boundary that is returned is a piece of the content type, is not empty, and holds nothing that
  could end it. The delimiter that is made from it fits into its buffer whole.
* Of a multipart form every boundary without escapes is found, in each of the ways in which an
  `Announcement` may be written.
* No other media type has a boundary. It is told by what stands in front of the first semicolon,
  `MediaType.nameOf`.

## How

The value is handed down through the steps of the search: a segment of the content type, the end of
a parameter behind its equals sign, and what is left of that without blanks and quotes in front and
without everything behind the boundary. Each of these is a piece of the one before.
-/

namespace DeviceHttp

namespace MediaType

/-- The name of a media type in a content type: what stands in front of the parameters, without the
white space around it. -/
def nameOf (contentType : String) : List Char :=
  Text.trim (contentType.toList.takeWhile (· != ';'))

/-- Whether a content type is exactly of a media type. Case does not matter, and parameters may
follow. -/
def IsOf (mediaType contentType : String) : Prop :=
  Text.eqIgnoreCase (nameOf contentType) mediaType.toList = true

instance (mediaType contentType : String) : Decidable (IsOf mediaType contentType) :=
  inferInstanceAs (Decidable (_ = true))

end MediaType

namespace Multipart

/-! ## What is returned -/

theorem suffix_of_boundaryValue? {parameter value : List Char}
    (found : boundaryValue? parameter = some value) : value <:+ parameter := by
  obtain ⟨⟨name, behind⟩, pieces, named⟩ := Option.bind_eq_some_iff.1 found
  obtain ⟨-, eq⟩ := Option.ite_none_right_eq_some.1 named
  obtain rfl : behind = value := Option.some.inj eq
  obtain ⟨m, whole, -⟩ := cut?_eq_some_iff.1 pieces
  exact ⟨name ++ [m], by rw [whole, List.append_assoc, List.singleton_append]⟩

theorem infix_bareBoundary (value : List Char) : bareBoundary value <:+: value := by
  have front : bareBoundary value <:+: (Text.trimStart value).dropWhile (· == '"') :=
    (List.takeWhile_prefix _).isInfix
  have unquoted : (Text.trimStart value).dropWhile (· == '"') <:+: Text.trimStart value :=
    (List.dropWhile_suffix _).isInfix
  have trimmed : Text.trimStart value <:+: value := (List.dropWhile_suffix _).isInfix
  exact front.trans (unquoted.trans trimmed)

/-- A boundary that can be put into a delimiter and found again. -/
structure IsUsable (contentType boundary : String) : Prop where
  /-- It is a piece of the content type. -/
  isInfix : boundary.toList <:+: contentType.toList
  pos : 1 ≤ boundary.utf8ByteSize
  short : boundary.utf8ByteSize ≤ maxBoundary
  plain : ∀ c ∈ boundary.toList, Text.isAsciiBlank c = false ∧ c ≠ '"' ∧ c ≠ ';'
  /-- The delimiter that is made from it is whole, in whatever buffer and for whatever body. -/
  uncut : ∀ (buffer : Bytes.Buffer (maxBoundary + 4)) (body : Bytes),
    (PartScan.start buffer body boundary).delimiter = Utf8.encode ("\r\n--" ++ boundary)
  /-- So the parts are found as if the buffer had no limit. -/
  cursor_eq : ∀ (buffer : Bytes.Buffer (maxBoundary + 4)) (body : Bytes),
    (PartScan.start buffer body boundary).cursor = PartCursor.start body boundary

/-- The first parameter that is named boundary lies between semicolons, and the boundary in it. -/
theorem IsUsable.of_boundary? {contentType boundary : String}
    (found : boundary? contentType = some boundary) : IsUsable contentType boundary := by
  obtain ⟨mediaType, parameters, value, pieces, -, first, rfl, nonempty, short⟩ :=
    boundary?_eq_some_iff.1 found
  obtain ⟨parameter, listed, named⟩ := List.exists_of_findSome?_eq_some first
  have segment : parameter ∈ segments (· == ';') contentType.toList := by
    rw [pieces]
    exact List.mem_cons_of_mem mediaType listed
  have inParameter : bareBoundary value <:+: parameter :=
    (infix_bareBoundary value).trans (suffix_of_boundaryValue? named).isInfix
  refine ⟨?_, ?_, short, ?_, fun buffer body => PartScan.delimiter_start buffer body short,
    fun buffer body => PartScan.cursor_start buffer body short⟩
  · rw [String.toList_ofList]
    exact inParameter.trans (infix_of_mem_segments segment)
  · exact Nat.pos_of_ne_zero fun zero => nonempty (String.utf8ByteSize_eq_zero_iff.1 zero)
  · rw [String.toList_ofList]
    intro c inside
    have stays := endsBoundary_eq_false_of_mem inside
    rw [endsBoundary, Bool.or_eq_false_iff, beq_eq_false_iff_ne] at stays
    have between := unmarked_of_mem_segments segment c (inParameter.subset inside)
    exact ⟨stays.1, stays.2, beq_eq_false_iff_ne.1 between⟩

/-- Only multipart forms have boundaries. -/
theorem isOf_of_boundary? {contentType boundary : String}
    (found : boundary? contentType = some boundary) :
    MediaType.IsOf MediaType.multipartForm contentType := by
  obtain ⟨mediaType, parameters, value, pieces, form, -⟩ := boundary?_eq_some_iff.1 found
  obtain ⟨others, pieces'⟩ := exists_segments_eq_takeWhile_cons (· == ';') contentType.toList
  obtain ⟨rfl, -⟩ := List.cons.inj (pieces.symm.trans pieces')
  exact form

/-- **Boundaries that are read are usable, and plain ones are read.** -/
theorem boundary?_usable_and_complete (contentType : String) :
    (∀ boundary, boundary? contentType = some boundary → IsUsable contentType boundary) ∧
      (∀ a : Announcement, a.text = contentType →
        boundary? contentType = some a.boundary.text) ∧
      (¬ MediaType.IsOf MediaType.multipartForm contentType → boundary? contentType = none) := by
  refine ⟨fun _ => IsUsable.of_boundary?, ?_, fun other => ?_⟩
  · rintro a rfl
    exact a.boundary?_text
  · exact Option.eq_none_iff_forall_ne_some.2 fun _ found => other (isOf_of_boundary? found)

/-- A parameter without an equals sign in front, another one behind, case, quotes, and a boundary
that holds an equals sign itself. -/
def spelledAnnouncement : Announcement where
  boundary := { chars := "--a=b'".toList }
  quoted := true
  mediaType := "Multipart/FORM-data".toList
  name := "Boundary".toList
  aroundMediaType := { before := [' '], after := [' '] }
  aroundName := { before := [' ', ' '] }
  aroundValue := { before := [' '], after := [' '] }
  earlier := [" flag".toList, " charset=utf-8".toList]
  later := [" boundary=c".toList]

/-- The boundary of a form in an unusual spelling is read, so it is usable. A media type that only
begins like that of a multipart form has none. -/
theorem boundary?_usable_and_complete_spelled :
    boundary? " Multipart/FORM-data ; flag; charset=utf-8;  Boundary= \"--a=b'\" ; boundary=c" =
        some "--a=b'" ∧
      IsUsable " Multipart/FORM-data ; flag; charset=utf-8;  Boundary= \"--a=b'\" ; boundary=c"
        "--a=b'" ∧
      boundary? "multipart/form-data2; boundary=c" = none := by
  have text : spelledAnnouncement.text =
      " Multipart/FORM-data ; flag; charset=utf-8;  Boundary= \"--a=b'\" ; boundary=c" := by
    decide +kernel
  have found := (boundary?_usable_and_complete _).2.1 spelledAnnouncement text
  have other : ¬ MediaType.IsOf MediaType.multipartForm "multipart/form-data2; boundary=c" := by
    decide +kernel
  exact ⟨found, (boundary?_usable_and_complete _).1 _ found,
    (boundary?_usable_and_complete _).2.2 other⟩

end Multipart

end DeviceHttp
