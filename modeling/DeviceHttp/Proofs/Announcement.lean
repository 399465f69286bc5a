import DeviceHttp.Multipart.Boundary
import DeviceHttp.Proofs.Octets
import DeviceHttp.Proofs.Pieces

/-!
# Content types that announce a boundary

`Announcement` lists the ways in which the content type of a multipart form may be written: the
media type and the name of the parameter in any case, white space around them and around the value,
other parameters on either side, and quotes around the boundary or none. `Multipart.boundary?`
returns the boundary in all of them (`Announcement.boundary?_text`).

The boundary itself is a `Boundary`, up to seventy printable ASCII characters without the space, the
quote and the semicolon. So it can be told from everything that stands around it.
-/

namespace DeviceHttp

namespace Text

/-- White space is neither capital nor small. -/
theorem lowerAscii_of_isBlank {c : Char} (blank : isBlank c = true) : lowerAscii c = c := by
  rw [lowerAscii]
  split
  next capital =>
    obtain ⟨fromA, toZ⟩ := capital
    rw [Char.le_def, UInt32.le_iff_toNat_le] at fromA toZ
    have low : 65 ≤ c.toNat := fromA
    have high : c.toNat ≤ 90 := toZ
    simp only [isBlank, Bool.or_eq_true, Bool.and_eq_true, decide_eq_true_eq] at blank
    omega
  next => rfl

/-- Letters written in another case hold no character that case does not change. -/
theorem notMem_of_eqIgnoreCase {cs ds : List Char} (h : eqIgnoreCase cs ds = true) {c : Char}
    (still : lowerAscii c = c) (absent : c ∉ ds.map lowerAscii) : c ∉ cs := by
  intro mem
  rw [eqIgnoreCase, beq_iff_eq] at h
  rw [← h] at absent
  exact absent (List.mem_map.2 ⟨c, mem, still⟩)

theorem length_eq_of_eqIgnoreCase {cs ds : List Char} (same : eqIgnoreCase cs ds = true) :
    cs.length = ds.length := by
  rw [eqIgnoreCase, beq_iff_eq] at same
  simpa using congrArg List.length same

/-- Trimming takes off the white space around a text that has none at its ends. -/
theorem trim_append {before cs after : List Char} (blank : ∀ c ∈ before, isBlank c = true)
    (blank' : ∀ c ∈ after, isBlank c = true) (ne_nil : cs ≠ [])
    (first : ∀ c ∈ cs.head?, isBlank c = false) (last : ∀ c ∈ cs.getLast?, isBlank c = false) :
    trim (before ++ (cs ++ after)) = cs := by
  have stops : ∀ c ∈ (cs ++ after).head?, isBlank c = false := by
    obtain ⟨d, cs, rfl⟩ := List.exists_cons_of_ne_nil ne_nil
    exact first
  rw [trim, trimStart, dropWhile_append_of_stops blank stops,
    dropEndWhile_append_of_stops blank' last]

end Text

namespace Multipart

/-- The characters of a boundary that needs no escape: printable ASCII without space, quote and
semicolon. -/
def isBoundaryChar (c : Char) : Bool :=
  33 ≤ c.toNat && c.toNat ≤ 126 && c != '"' && c != ';'

/-- A boundary that needs no escape. -/
structure Boundary where
  chars : List Char
  ne_nil : chars ≠ [] := by decide
  length_le : chars.length ≤ maxBoundary := by decide
  plain : chars.all isBoundaryChar = true := by decide

namespace Boundary

variable (b : Boundary)

/-- The boundary as a text. -/
def text : String := String.ofList b.chars

theorem isBoundaryChar_of_mem {c : Char} (mem : c ∈ b.chars) :
    (33 ≤ c.toNat ∧ c.toNat ≤ 126) ∧ c ≠ '"' ∧ c ≠ ';' := by
  have := List.all_eq_true.1 b.plain c mem
  simp only [isBoundaryChar, Bool.and_eq_true, decide_eq_true_eq, bne_iff_ne] at this
  exact ⟨this.1.1, this.1.2, this.2⟩

theorem isBlank_eq_false {c : Char} (mem : c ∈ b.chars) : Text.isBlank c = false := by
  have range := (b.isBoundaryChar_of_mem mem).1
  simp only [Text.isBlank, Bool.or_eq_false_iff, Bool.and_eq_false_iff, decide_eq_false_iff_not]
  omega

theorem endsBoundary_eq_false {c : Char} (mem : c ∈ b.chars) : endsBoundary c = false := by
  have blank : Text.isAsciiBlank c = false := by
    refine Bool.eq_false_iff.2 fun ascii => ?_
    have := Text.isBlank_of_isAsciiBlank ascii
    rw [b.isBlank_eq_false mem] at this
    cases this
  rw [endsBoundary, blank, Bool.false_or]
  exact beq_eq_false_iff_ne.2 (b.isBoundaryChar_of_mem mem).2.1

/-- A boundary takes one byte for each character. -/
theorem encode_text : Utf8.encode b.text = b.chars.map Utf8.asciiOctet := by
  rw [text, Utf8.encode, String.toList_ofList]
  refine Utf8.encodeChars_of_ascii fun c mem => ?_
  have := (b.isBoundaryChar_of_mem mem).1
  omega

theorem utf8ByteSize_text_le : b.text.utf8ByteSize ≤ maxBoundary := by
  rw [← Utf8.length_encode, encode_text, List.length_map]
  exact b.length_le

end Boundary

/-- White space that may stand around a token. -/
structure Padding where
  before : List Char := []
  after : List Char := []
  blank : (before ++ after).all Text.isAsciiBlank = true := by decide

namespace Padding

variable (p : Padding)

/-- The token with the white space around it. -/
def around (cs : List Char) : List Char := p.before ++ (cs ++ p.after)

theorem isBlank_of_mem_before {c : Char} (mem : c ∈ p.before) : Text.isBlank c = true :=
  Text.isBlank_of_isAsciiBlank (List.all_eq_true.1 p.blank c (List.mem_append_left _ mem))

theorem isAsciiBlank_of_mem_after {c : Char} (mem : c ∈ p.after) : Text.isAsciiBlank c = true :=
  List.all_eq_true.1 p.blank c (List.mem_append_right _ mem)

theorem notMem_around {cs : List Char} {c : Char} (absent : c ∉ cs)
    (dark : Text.isAsciiBlank c = false) : c ∉ p.around cs := by
  intro mem
  have inside : c ∈ p.before ++ p.after := by
    simp only [around, List.mem_append] at mem
    rcases mem with before | core | after
    · exact List.mem_append_left _ before
    · exact absurd core absent
    · exact List.mem_append_right _ after
  have := List.all_eq_true.1 p.blank c inside
  rw [dark] at this
  cases this

/-- Letters in any case are found between the white space. -/
theorem trim_around {cs ds : List Char} (h : Text.eqIgnoreCase cs ds = true) (ne_nil : ds ≠ [])
    (dark : (ds.map Text.lowerAscii).any Text.isBlank = false) :
    Text.trim (p.around cs) = cs := by
  have inside : ∀ c ∈ cs, Text.isBlank c = false := by
    intro c mem
    refine Bool.eq_false_iff.2 fun blank => ?_
    refine Text.notMem_of_eqIgnoreCase h (Text.lowerAscii_of_isBlank blank) (fun listed => ?_) mem
    exact List.any_eq_false.1 dark c listed blank
  have nonempty : cs ≠ [] := by
    rintro rfl
    rw [Text.eqIgnoreCase, beq_iff_eq] at h
    exact ne_nil (List.map_eq_nil_iff.1 h.symm)
  exact Text.trim_append (fun _ => p.isBlank_of_mem_before)
    (fun c mem => Text.isBlank_of_isAsciiBlank (p.isAsciiBlank_of_mem_after mem)) nonempty
    (fun c mem => inside c (List.mem_of_mem_head? mem))
    (fun c mem => inside c (List.mem_of_mem_getLast? mem))

end Padding

/-- Whether a parameter is named boundary. What stands between semicolons need not have a name. -/
def IsNamedBoundary (parameter : List Char) : Prop :=
  ∃ name value, parameter = name ++ '=' :: value ∧ '=' ∉ name ∧
    Text.eqIgnoreCase (Text.trim name) "boundary".toList = true

/-- Exactly the parameters with that name have a boundary as their value. -/
theorem boundaryValue?_eq_none_iff {parameter : List Char} :
    boundaryValue? parameter = none ↔ ¬ IsNamedBoundary parameter := by
  rw [boundaryValue?]
  cases pieces : cut? (· == '=') parameter with
  | none =>
    have noEquals := cut?_eq_none_iff.1 pieces
    refine iff_of_true rfl ?_
    rintro ⟨name, value, rfl, -, -⟩
    have := noEquals '=' (List.mem_append_right name List.mem_cons_self)
    rw [beq_self_eq_true] at this
    cases this
  | some pair =>
    obtain ⟨name, value⟩ := pair
    show (if Text.eqIgnoreCase (Text.trim name) "boundary".toList = true then some value
      else none) = none ↔ _
    obtain ⟨m, eq, marked, before⟩ := cut?_eq_some_iff.1 pieces
    rw [beq_iff_eq] at marked
    subst marked
    have plain : '=' ∉ name := fun inside => by
      have := before _ inside
      rw [beq_self_eq_true] at this
      cases this
    constructor
    · rintro unnamed ⟨name', value', eq', plain', named⟩
      have again := cut?_append_cons (unmarked_of_notMem plain') (beq_self_eq_true '=') value'
      rw [← eq', pieces] at again
      obtain ⟨rfl, rfl⟩ := Prod.mk.inj (Option.some.inj again)
      rw [if_pos named] at unnamed
      cases unnamed
    · intro unnamed
      exact if_neg fun named => unnamed ⟨name, value, eq, plain, named⟩

instance : DecidablePred IsNamedBoundary := fun _ =>
  decidable_of_iff _ ((not_congr boundaryValue?_eq_none_iff).trans Classical.not_not)

/-- A boundary is the value of the first parameter with that name, if the media type is that of a
multipart form. -/
theorem boundary?_eq_some_iff {contentType boundary : String} :
    boundary? contentType = some boundary ↔
      ∃ mediaType parameters value,
        segments (· == ';') contentType.toList = mediaType :: parameters ∧
          Text.eqIgnoreCase (Text.trim mediaType) MediaType.multipartForm.toList = true ∧
          parameters.findSome? boundaryValue? = some value ∧
          String.ofList (bareBoundary value) = boundary ∧ boundary ≠ "" ∧
          boundary.utf8ByteSize ≤ maxBoundary := by
  rw [boundary?]
  cases pieces : segments (· == ';') contentType.toList with
  | nil => exact absurd pieces (segments_ne_nil _ _)
  | cons mediaType parameters =>
    simp only [Option.bind_eq_bind, Option.ite_none_right_eq_some, Option.bind_eq_some_iff,
      Option.ite_none_left_eq_some, Option.some.injEq, String.isEmpty_iff, not_or, Nat.not_lt]
    constructor
    · rintro ⟨form, value, found, ⟨nonempty, short⟩, rfl⟩
      exact ⟨_, _, value, rfl, form, found, rfl, nonempty, short⟩
    · rintro ⟨_, _, value, same, form, found, rfl, nonempty, short⟩
      obtain ⟨rfl, rfl⟩ := List.cons.inj same
      exact ⟨form, value, found, ⟨nonempty, short⟩, rfl⟩

/-- What ends a boundary does not stand in it. -/
theorem endsBoundary_eq_false_of_mem {value : List Char} {c : Char}
    (mem : c ∈ bareBoundary value) : endsBoundary c = false := by
  have stays : (!endsBoundary c) = true := List.all_eq_true.1 List.all_takeWhile c mem
  rwa [Bool.not_eq_true'] at stays

/-- A content type that announces a multipart form, piece by piece. -/
structure Announcement where
  boundary : Boundary
  /-- Whether the boundary stands between double quotes. -/
  quoted : Bool
  mediaType : List Char
  name : List Char
  mediaType_eq : Text.eqIgnoreCase mediaType MediaType.multipartForm.toList = true := by decide
  name_eq : Text.eqIgnoreCase name "boundary".toList = true := by decide
  aroundMediaType : Padding := {}
  aroundName : Padding := {}
  aroundValue : Padding := {}
  /-- The parameters in front of the boundary. -/
  earlier : List (List Char) := []
  earlier_plain : ∀ p ∈ earlier, ';' ∉ p ∧ ¬ IsNamedBoundary p := by decide
  /-- Whatever follows behind further semicolons. -/
  later : List (List Char) := []

namespace Announcement

variable (a : Announcement)

/-- The boundary as it is written, bare or between quotes. -/
def value : List Char :=
  if a.quoted then '"' :: (a.boundary.chars ++ ['"']) else a.boundary.chars

/-- The parameter that gives the boundary. -/
def parameter : List Char := a.aroundName.around a.name ++ '=' :: a.aroundValue.around a.value

/-- The content type: the media type and, behind a semicolon each, the parameters. -/
def text : String := String.ofList
  (a.aroundMediaType.around a.mediaType ++
    (a.earlier ++ a.parameter :: a.later).flatMap (';' :: ·))

/-- Pieces without semicolons, with semicolons between them, are found again. What follows them
behind a semicolon changes nothing. -/
theorem segments_append_flatMap {piece : List Char} {pieces : List (List Char)}
    (plain : ∀ p ∈ piece :: pieces, ';' ∉ p) (later : List (List Char)) :
    ∃ more, segments (· == ';') (piece ++ (pieces ++ later).flatMap (';' :: ·)) =
      piece :: (pieces ++ more) := by
  have unmarked := unmarked_of_notMem (plain piece List.mem_cons_self)
  induction pieces generalizing piece with
  | nil =>
    cases later with
    | nil => exact ⟨[], by rw [List.append_nil, List.flatMap_nil, List.append_nil]; exact
        segments_of_unmarked unmarked⟩
    | cons l later => exact ⟨_, segments_append_cons unmarked rfl _⟩
  | cons p pieces ih =>
    have plain' : ∀ q ∈ p :: pieces, ';' ∉ q := fun q mem =>
      plain q (List.mem_cons_of_mem piece mem)
    obtain ⟨more, found⟩ := ih plain' (unmarked_of_notMem (plain' p List.mem_cons_self))
    refine ⟨more, ?_⟩
    rw [List.cons_append, List.flatMap_cons, List.cons_append, segments_append_cons unmarked rfl,
      found]
    rfl

/-- The white space at the end of the value, or the closing quote, ends the boundary. -/
theorem bareBoundary_value : bareBoundary (a.aroundValue.around a.value) = a.boundary.chars := by
  obtain ⟨d, ds, eq⟩ := List.exists_cons_of_ne_nil a.boundary.ne_nil
  have first : d ∈ a.boundary.chars := by rw [eq]; exact List.mem_cons_self
  have inside : ∀ c ∈ a.boundary.chars, (!endsBoundary c) = true := by
    intro c mem
    rw [a.boundary.endsBoundary_eq_false mem]
    rfl
  have unquoted : (d == '"') = false :=
    beq_eq_false_iff_ne.2 (a.boundary.isBoundaryChar_of_mem first).2.1
  have skipped : Text.trimStart (a.aroundValue.around a.value) =
      a.value ++ a.aroundValue.after := by
    refine dropWhile_append_of_stops (fun _ => a.aroundValue.isBlank_of_mem_before) ?_
    unfold value
    split
    · intro c quote
      rw [← Option.some.inj quote]
      rfl
    · intro c head
      rw [eq] at head
      rw [← Option.some.inj head]
      exact a.boundary.isBlank_eq_false first
  rw [bareBoundary, skipped, value]
  split
  next =>
    -- the opening quote is dropped, and the closing one ends the boundary
    have opened : (('"' :: (a.boundary.chars ++ ['"'])) ++ a.aroundValue.after).dropWhile
        (· == '"') = a.boundary.chars ++ '"' :: a.aroundValue.after := by
      rw [List.cons_append, List.dropWhile_cons_of_pos rfl, List.append_assoc]
      refine dropWhile_eq_self_of_head fun c head => ?_
      rw [eq] at head
      rw [← Option.some.inj head]
      exact unquoted
    rw [opened]
    refine takeWhile_append_of_stops inside fun c head => ?_
    rw [← Option.some.inj head]
    rfl
  next =>
    have bare : (a.boundary.chars ++ a.aroundValue.after).dropWhile (· == '"') =
        a.boundary.chars ++ a.aroundValue.after := by
      refine dropWhile_eq_self_of_head fun c head => ?_
      rw [eq] at head
      rw [← Option.some.inj head]
      exact unquoted
    rw [bare]
    refine takeWhile_append_of_stops inside fun c head => ?_
    rw [endsBoundary, a.aroundValue.isAsciiBlank_of_mem_after (List.mem_of_mem_head? head)]
    rfl

/-- The parameter is known by its name, and no earlier one is taken for it. -/
theorem findSome?_parameters (more : List (List Char)) :
    (a.earlier ++ a.parameter :: more).findSome? boundaryValue? =
      some (a.aroundValue.around a.value) := by
  have here : boundaryValue? a.parameter = some (a.aroundValue.around a.value) := by
    have noEquals : '=' ∉ a.aroundName.around a.name := by
      refine a.aroundName.notMem_around ?_ rfl
      exact Text.notMem_of_eqIgnoreCase a.name_eq rfl (by decide)
    have trimmed := a.aroundName.trim_around a.name_eq (by decide) (by decide)
    have equals := cut?_append_cons (unmarked_of_notMem noEquals) (beq_self_eq_true '=')
      (a.aroundValue.around a.value)
    rw [boundaryValue?, parameter, equals]
    show (if Text.eqIgnoreCase (Text.trim _) _ then _ else _) = _
    rw [trimmed, if_pos a.name_eq]
  have others : ∀ p ∈ a.earlier, boundaryValue? p = none := fun p mem =>
    boundaryValue?_eq_none_iff.2 (a.earlier_plain p mem).2
  rw [List.findSome?_append, List.findSome?_eq_none_iff.2 others, List.findSome?_cons, here]
  rfl

theorem notMem_value : ';' ∉ a.value := by
  have plain : ';' ∉ a.boundary.chars := fun mem => (a.boundary.isBoundaryChar_of_mem mem).2.2 rfl
  unfold value
  split
  · simp [plain]
  · exact plain

/-- Neither the media type nor a parameter up to that of the boundary holds a semicolon. -/
theorem notMem_pieces :
    ∀ p ∈ a.aroundMediaType.around a.mediaType :: (a.earlier ++ [a.parameter]), ';' ∉ p := by
  have inMediaType : ';' ∉ a.aroundMediaType.around a.mediaType := by
    refine a.aroundMediaType.notMem_around ?_ rfl
    exact Text.notMem_of_eqIgnoreCase a.mediaType_eq rfl (by decide)
  have inName : ';' ∉ a.aroundName.around a.name := by
    refine a.aroundName.notMem_around ?_ rfl
    exact Text.notMem_of_eqIgnoreCase a.name_eq rfl (by decide)
  have inValue : ';' ∉ a.aroundValue.around a.value :=
    a.aroundValue.notMem_around a.notMem_value rfl
  intro p mem
  simp only [List.mem_cons, List.mem_append, List.not_mem_nil, or_false] at mem
  rcases mem with rfl | early | rfl
  · exact inMediaType
  · exact (a.earlier_plain p early).1
  · simp [parameter, inName, inValue]

/-- **The boundary that is announced is the one that is read.** -/
theorem boundary?_text : boundary? a.text = some a.boundary.text := by
  obtain ⟨more, pieces⟩ := segments_append_flatMap a.notMem_pieces a.later
  have trimmed := a.aroundMediaType.trim_around a.mediaType_eq (by decide) (by decide)
  have usable : ¬ (a.boundary.text.isEmpty = true ∨
      maxBoundary < a.boundary.text.utf8ByteSize) := by
    have short := a.boundary.utf8ByteSize_text_le
    have nonempty : a.boundary.text ≠ "" := fun empty =>
      a.boundary.ne_nil (String.ofList_eq_empty_iff.1 empty)
    rw [String.isEmpty_iff]
    exact fun bad => bad.elim nonempty (Nat.not_lt.2 short)
  rw [boundary?, text, String.toList_ofList, List.append_cons a.earlier, pieces, ← List.append_cons]
  show (if Text.eqIgnoreCase (Text.trim (a.aroundMediaType.around a.mediaType)) _ = true then
    ((a.earlier ++ a.parameter :: more).findSome? boundaryValue?).bind fun value =>
      if (String.ofList (bareBoundary value)).isEmpty = true ∨ _ then none
      else some (String.ofList (bareBoundary value)) else none) = _
  rw [trimmed, if_pos a.mediaType_eq, a.findSome?_parameters, Option.bind_some,
    a.bareBoundary_value]
  exact if_neg usable

end Announcement

end Multipart

end DeviceHttp
