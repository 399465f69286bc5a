import DeviceHttp.Proofs.PartPlaces
import DeviceHttp.Proofs.WrittenForm

/-!
# What a part is taken from

The parts of a body stand between delimiters, so each part has a section of the body for itself:
what follows its opening delimiter, up to the next one. Two searches read the part, and neither
knows of the section. The header lines end at the first empty line of everything that follows. The
data end at the first delimiter behind that empty line.

**A part is taken from its own section if the section has an empty line, and from what follows it as
well if it has none** (`Multipart.parts_from_sections`). In the first case the two searches meet the
places that they would meet in the section alone. In the second case the delimiter behind the
section is not recognized: it is among the header lines, or the data begin with it. The part then
takes over the name, the data or the content type of the next one, which is lost
(`Multipart.header_lines_pass_delimiter`).

## Main definitions

* `PartCursor.ownSection` — what follows a delimiter, up to the next one
* `PartCursor.ReadsPart` — what is read behind a delimiter, in every case
* `PartCursor.Reaches` — the places that the reading of the parts comes to

## How

`PartCursor.cases_of_overlap` says how a delimiter and an empty line may share bytes. A delimiter
has a carriage return in front and no other one, so they are apart, or the line ending of the
delimiter is the second half of the empty line. Where a part begins depends on all parts before it,
so the parts themselves need an induction on the steps that lead to them (`PartCursor.Reaches`).
-/

namespace DeviceHttp

/-! ## Openings and delimiters -/

namespace Multipart

/-- Two hyphens and the boundary. -/
def openingOf (boundary : String) : Bytes := Utf8.encode "--" ++ Utf8.encode boundary

/-- An opening on a line of its own. -/
def delimiterOf (boundary : String) : Bytes := Bytes.crlf ++ openingOf boundary

/-- A usable boundary has no line endings. -/
theorem notMem_of_boundary? {contentType boundary : String}
    (usable : boundary? contentType = some boundary) : '\r' ∉ boundary.toList := by
  obtain ⟨-, -, value, -, -, -, rfl, -, -⟩ := boundary?_eq_some_iff.1 usable
  rw [String.toList_ofList]
  intro mem
  cases endsBoundary_eq_false_of_mem mem

theorem notMem_openingOf {contentType boundary : String}
    (usable : boundary? contentType = some boundary) : 13 ∉ openingOf boundary := by
  have hyphens : 13 ∉ Utf8.encode "--" := by decide
  intro mem
  rcases List.mem_append.1 mem with inHyphens | inBoundary
  · exact hyphens inHyphens
  · exact absurd inBoundary (Utf8.notMem_encodeChars (notMem_of_boundary? usable))

end Multipart

namespace Bytes

/-- The end of a line and an empty line behind it. -/
def emptyLine : Bytes := crlf ++ crlf

theorem emptyLine_ne_nil : emptyLine ≠ [] := List.cons_ne_nil _ _

end Bytes

namespace PartCursor

open Bytes Multipart PartScan

/-! ## The header lines -/

/-- What does not start with a line ending does not do so if less of it is there. -/
theorem skipCrlf_take {rest : Bytes} (absent : dropStart? crlf rest = none) (i : Nat) :
    skipCrlf (rest.take i) = rest.take i := by
  cases inFront : dropStart? crlf (rest.take i) with
  | none => rw [skipCrlf, inFront, Option.getD_none]
  | some lines =>
    have eq := dropStart?_eq_some_iff.1 inFront
    rw [← List.take_append_drop i rest, eq, List.append_assoc, dropStart?_append] at absent
    cases absent

/-- A line ending in front of something else is no part of an empty line. -/
theorem indexOf?_emptyLine_append {lines : Bytes} (absent : dropStart? crlf lines = none) :
    indexOf? emptyLine (crlf ++ lines) = (indexOf? emptyLine lines).map (· + 2) := by
  have notHere : startsWith emptyLine (13 :: 10 :: lines) = false := by
    refine Bool.eq_false_iff.2 fun starts => ?_
    obtain ⟨data, eq⟩ := startsWith_iff.1 starts
    obtain rfl : lines = crlf ++ data := (List.cons.inj (List.cons.inj eq).2).2
    rw [dropStart?_append] at absent
    cases absent
  have notNext : startsWith emptyLine (10 :: lines) = false := rfl
  show indexOf? emptyLine (13 :: 10 :: lines) = _
  rw [indexOf?_cons_of_not_startsWith notHere, indexOf?_cons_of_not_startsWith notNext,
    Option.map_map]
  rfl

/-- **The header lines end at the first empty line of all that follows the delimiter.** -/
theorem splitHeaders?_eq_indexOf? (rest : Bytes) : splitHeaders? rest =
    (indexOf? emptyLine rest).map fun i => (skipCrlf (rest.take i), rest.drop (i + 4)) := by
  rw [splitHeaders?]
  cases leading : dropStart? crlf rest with
  | none =>
    simp only [leading, Option.getD_none, skipCrlf_take leading]
    rfl
  | some lines =>
    obtain rfl := dropStart?_eq_some_iff.1 leading
    simp only [Option.getD_some]
    cases empty : dropStart? crlf lines with
    | some data =>
      -- the line ending behind the delimiter is the first half of the empty line
      obtain rfl := dropStart?_eq_some_iff.1 empty
      have here : indexOf? emptyLine (crlf ++ (crlf ++ data)) = some 0 :=
        indexOf?_cons_of_startsWith emptyLine_ne_nil (startsWith_iff.2 ⟨data, rfl⟩)
      rw [here]
      rfl
    | none =>
      rw [indexOf?_emptyLine_append empty, Option.map_map]
      rfl

/-! ## Delimiters and empty lines -/

section Overlap

variable {opening own behind front tail : Bytes}

/-- A delimiter does not begin as an empty line does. -/
theorem delimiter_ne_emptyLine (plain : 13 ∉ opening) (nonempty : opening ≠ []) :
    crlf ++ opening ++ behind ≠ emptyLine ++ tail := by
  obtain ⟨x, opening, rfl⟩ := List.exists_cons_of_ne_nil nonempty
  intro eq
  have first : x = 13 := (List.cons.inj (List.cons.inj (List.cons.inj eq).2).2).1
  exact plain (first ▸ List.mem_cons_self)

/-- An empty line that begins behind the first byte of a delimiter begins behind the delimiter. -/
theorem exists_of_emptyLine_later (plain : 13 ∉ opening) {more : Bytes} (later : more ≠ [])
    (eq : crlf ++ opening ++ behind = more ++ (emptyLine ++ tail)) :
    ∃ others, more = crlf ++ opening ++ others := by
  obtain ⟨others, inside, -⟩ | ⟨others, whole, eq⟩ := List.append_eq_append_iff.1 eq
  · exact ⟨others, inside⟩
  · cases others with
    | nil => exact ⟨[], by rw [List.append_nil, whole, List.append_nil]⟩
    | cons z others =>
      -- the delimiter would have a carriage return behind its first byte
      obtain rfl : 13 = z := (List.cons.inj eq).1
      obtain ⟨y, more, rfl⟩ := List.exists_cons_of_ne_nil later
      have same : 10 :: opening = more ++ 13 :: others := (List.cons.inj whole).2
      have within : 13 ∈ 10 :: opening := by
        rw [same]
        exact List.mem_append_right more List.mem_cons_self
      exact absurd (List.mem_of_ne_of_mem (by decide) within) plain

/-- A delimiter that begins behind the first byte of an empty line begins behind the empty line, or
with its second half. -/
theorem cases_of_delimiter_later {more : Bytes} (later : more ≠ [])
    (eq : emptyLine ++ tail = more ++ (crlf ++ opening ++ behind)) :
    (∃ others, more = emptyLine ++ others) ∨ more = crlf ∧ tail = opening ++ behind := by
  obtain ⟨others, inside, -⟩ | ⟨others, whole, eq⟩ := List.append_eq_append_iff.1 eq
  · exact .inl ⟨others, inside⟩
  · obtain _ | ⟨a, _ | ⟨b, _ | ⟨c, _ | ⟨d, more⟩⟩⟩⟩ := more
    all_goals
      simp only [emptyLine, crlf, List.cons_append, List.nil_append, List.cons.injEq] at whole
    · exact absurd rfl later
    · obtain ⟨rfl, rfl⟩ := whole
      cases (List.cons.inj eq).1
    · obtain ⟨rfl, rfl, rfl⟩ := whole
      exact .inr ⟨rfl, (List.cons.inj (List.cons.inj eq).2).2.symm⟩
    · obtain ⟨rfl, rfl, rfl, rfl⟩ := whole
      cases (List.cons.inj eq).1
    · obtain ⟨rfl, rfl, rfl, rfl, nothing⟩ := whole
      rw [(List.append_eq_nil_iff.1 nothing.symm).1]
      exact .inl ⟨[], rfl⟩

/-- **Of a delimiter and an empty line in the same bytes, one is behind the other, or the delimiter
makes the empty line.** -/
theorem cases_of_overlap (plain : 13 ∉ opening) (nonempty : opening ≠ [])
    (same : own ++ (crlf ++ opening ++ behind) = front ++ (emptyLine ++ tail)) :
    (∃ more, own = front ++ (emptyLine ++ more)) ∨
      (∃ more, front = own ++ (crlf ++ opening ++ more)) ∨
        own = front ++ crlf ∧ tail = opening ++ behind := by
  obtain ⟨more, rfl, eq⟩ | ⟨more, rfl, eq⟩ := List.append_eq_append_iff.1 same
  · have later : more ≠ [] := by
      rintro rfl
      exact delimiter_ne_emptyLine plain nonempty eq
    obtain ⟨others, rfl⟩ := exists_of_emptyLine_later plain later eq
    exact .inr (.inl ⟨others, rfl⟩)
  · have later : more ≠ [] := by
      rintro rfl
      exact delimiter_ne_emptyLine plain nonempty eq.symm
    obtain ⟨others, rfl⟩ | ⟨rfl, tail_eq⟩ := cases_of_delimiter_later later eq
    · exact .inl ⟨others, rfl⟩
    · exact .inr (.inr ⟨rfl, tail_eq⟩)

end Overlap

/-! ## The section of a part -/

/-- What follows a delimiter, up to the next one. -/
def ownSection (delimiter rest : Bytes) : Bytes := (splitData delimiter rest).1

section Sections

variable {opening : Bytes} (plain : 13 ∉ opening)

theorem splitData_of_absent {data : Bytes} (absent : ¬ crlf ++ opening <:+: data) :
    splitData (crlf ++ opening) data = (data, none) := by
  have missed : indexOf? (crlf ++ opening) data = none :=
    (indexOf?_eq_none_iff (List.cons_ne_nil _ _)).2 absent
  rw [splitData, missed]

include plain in
theorem splitData_append {data : Bytes} (absent : ¬ crlf ++ opening <:+: data) (behind : Bytes) :
    splitData (crlf ++ opening) (data ++ (crlf ++ opening ++ behind)) = (data, some behind) := by
  have once : 13 ∉ 10 :: opening := fun mem => plain (List.mem_of_ne_of_mem (by decide) mem)
  have found : indexOf? (crlf ++ opening) (data ++ (crlf ++ opening ++ behind)) =
      some data.length := indexOf?_append_needle once absent behind
  rw [splitData, found]
  show (List.take data.length _, some (List.drop (data.length + (crlf ++ opening).length) _)) = _
  rw [List.take_left, List.drop_length_add_append, List.drop_left]

/-- The section ends at the next delimiter, or else where the body ends. -/
theorem cases_splitData (delimiter rest : Bytes) (nonempty : delimiter ≠ []) :
    (¬ delimiter <:+: rest ∧ splitData delimiter rest = (rest, none)) ∨
      ∃ own behind, rest = own ++ (delimiter ++ behind) ∧ ¬ delimiter <:+: own ∧
        splitData delimiter rest = (own, some behind) := by
  cases found : indexOf? delimiter rest with
  | none =>
    exact .inl ⟨(indexOf?_eq_none_iff nonempty).1 found, by rw [splitData, found]⟩
  | some i =>
    obtain ⟨-, behind, stands⟩ := drop_of_indexOf? found
    refine .inr ⟨rest.take i, behind, ?_, not_infix_take_of_indexOf? found, ?_⟩
    · rw [← stands, List.take_append_drop]
    · rw [splitData, found]
      show (rest.take i, some (rest.drop (i + delimiter.length))) = _
      rw [← List.drop_drop, stands, List.drop_left]

include plain in
/-- **A part whose section has an empty line is read from its section.** -/
theorem next_ownSection {rest : Bytes} (goesOn : startsWith (Utf8.encode "--") rest = false)
    (ended : emptyLine <:+: ownSection (crlf ++ opening) rest) :
    ∃ part,
      next ⟨crlf ++ opening, some (ownSection (crlf ++ opening) rest)⟩ =
        some (part, finished (crlf ++ opening)) ∧
      next ⟨crlf ++ opening, some rest⟩ =
        some (part, ⟨crlf ++ opening, (splitData (crlf ++ opening) rest).2⟩) := by
  obtain ⟨i, found⟩ := exists_indexOf?_of_infix emptyLine_ne_nil ended
  obtain ⟨absent, split⟩ | ⟨own, behind, rfl, absent, split⟩ :=
    cases_splitData (crlf ++ opening) rest (List.cons_ne_nil _ _)
  · rw [ownSection, split] at found ⊢
    have headers := splitHeaders?_eq_indexOf? rest
    rw [found] at headers
    have data := splitData_of_absent fun inside =>
      absent (inside.trans (List.drop_suffix (i + 4) rest).isInfix)
    exact ⟨_, next_eq_some goesOn headers data, next_eq_some goesOn headers data⟩
  · rw [ownSection, split] at found ⊢
    have short : i + 4 ≤ own.length := add_length_le_of_indexOf? found
    have within : startsWith (Utf8.encode "--") own = false :=
      Bool.eq_false_iff.2 fun starts => by
        rw [startsWith_append starts] at goesOn
        cases goesOn
    have headers := splitHeaders?_eq_indexOf? own
    have all := splitHeaders?_eq_indexOf? (own ++ (crlf ++ opening ++ behind))
    rw [found] at headers
    -- the rest of the body does not move the empty line
    rw [indexOf?_append found, Option.map_some, List.take_append_of_le_length (by omega),
      List.drop_append_of_le_length short] at all
    have apart : ¬ crlf ++ opening <:+: own.drop (i + 4) := fun inside =>
      absent (inside.trans (List.drop_suffix (i + 4) own).isInfix)
    exact ⟨_, next_eq_some within headers (splitData_of_absent apart),
      next_eq_some goesOn all (splitData_append plain apart behind)⟩

include plain in
/-- **A part whose section has no empty line is read from what follows the section as well.** -/
theorem next_crosses {rest : Bytes} (nonempty : opening ≠ [])
    (goesOn : startsWith (Utf8.encode "--") rest = false) (ended : emptyLine <:+: rest)
    (unended : ¬ emptyLine <:+: ownSection (crlf ++ opening) rest) :
    ∃ front tail,
      rest = front ++ (emptyLine ++ tail) ∧ EndsAtFirst emptyLine (front ++ emptyLine) ∧
      ((∃ more, front = ownSection (crlf ++ opening) rest ++ (crlf ++ opening ++ more)) ∨
        ownSection (crlf ++ opening) rest = front ++ crlf ∧ opening <+: tail) ∧
      next ⟨crlf ++ opening, some rest⟩ =
        some (Part.ofHeaders (skipCrlf front) (trimNewlines (splitData (crlf ++ opening) tail).1),
          ⟨crlf ++ opening, (splitData (crlf ++ opening) tail).2⟩) := by
  obtain ⟨i, found⟩ := exists_indexOf?_of_infix emptyLine_ne_nil ended
  obtain ⟨-, tail, stands⟩ := drop_of_indexOf? found
  have whole : rest = rest.take i ++ (emptyLine ++ tail) := by
    rw [← stands, List.take_append_drop]
  have headers := splitHeaders?_eq_indexOf? rest
  have tail_eq : rest.drop (i + 4) = tail := by
    rw [← List.drop_drop, stands]
    rfl
  rw [found, Option.map_some, tail_eq] at headers
  have first := endsAtFirst_take_of_indexOf? found
  rw [take_add_of_indexOf? found] at first
  refine ⟨rest.take i, tail, whole, first, ?_, next_eq_some goesOn headers rfl⟩
  obtain ⟨-, split⟩ | ⟨own, behind, cut, -, split⟩ :=
    cases_splitData (crlf ++ opening) rest (List.cons_ne_nil _ _)
  · rw [ownSection, split] at unended
    exact absurd ended unended
  · rw [ownSection, split] at unended ⊢
    obtain ⟨more, own_eq⟩ | among | ⟨own_eq, tail_eq⟩ :=
      cases_of_overlap plain nonempty (cut.symm.trans whole)
    · exact absurd ⟨rest.take i, more, by rw [own_eq, List.append_assoc]⟩ unended
    · exact .inl among
    · exact .inr ⟨own_eq, behind, tail_eq.symm⟩

end Sections

/-- What is read behind a delimiter, given all that follows it in the body. -/
structure ReadsPart (boundary : String) (rest : Bytes) : Prop where
  /-- Two hyphens close the body. -/
  closed : startsWith (Utf8.encode "--") rest = true →
    next ⟨delimiterOf boundary, some rest⟩ = none
  /-- Header lines that never end are none. -/
  unended : ¬ emptyLine <:+: rest → next ⟨delimiterOf boundary, some rest⟩ = none
  /-- With an empty line in the section, the rest of the body does not matter. -/
  own : startsWith (Utf8.encode "--") rest = false →
    emptyLine <:+: ownSection (delimiterOf boundary) rest →
    ∃ part,
      next ⟨delimiterOf boundary, some (ownSection (delimiterOf boundary) rest)⟩ =
        some (part, finished (delimiterOf boundary)) ∧
      next ⟨delimiterOf boundary, some rest⟩ =
        some (part, ⟨delimiterOf boundary, (splitData (delimiterOf boundary) rest).2⟩)
  /-- With none, the delimiter behind the section is among the header lines, or the data begin
  with it. -/
  crosses : startsWith (Utf8.encode "--") rest = false → emptyLine <:+: rest →
    ¬ emptyLine <:+: ownSection (delimiterOf boundary) rest →
    ∃ front tail,
      rest = front ++ (emptyLine ++ tail) ∧ EndsAtFirst emptyLine (front ++ emptyLine) ∧
      ((∃ more, front = ownSection (delimiterOf boundary) rest ++ (delimiterOf boundary ++ more)) ∨
        ownSection (delimiterOf boundary) rest = front ++ crlf ∧ openingOf boundary <+: tail) ∧
      next ⟨delimiterOf boundary, some rest⟩ =
        some (Part.ofHeaders (skipCrlf front)
            (trimNewlines (splitData (delimiterOf boundary) tail).1),
          ⟨delimiterOf boundary, (splitData (delimiterOf boundary) tail).2⟩)

theorem readsPart {boundary : String} (plain : 13 ∉ openingOf boundary) (rest : Bytes) :
    ReadsPart boundary rest where
  closed closes := by simp [next, closes]
  unended absent := by
    have missed : indexOf? emptyLine rest = none :=
      (indexOf?_eq_none_iff emptyLine_ne_nil).2 absent
    have headers := splitHeaders?_eq_indexOf? rest
    rw [missed, Option.map_none] at headers
    cases closes : startsWith (Utf8.encode "--") rest <;> simp [next, closes, headers]
  own := next_ownSection plain
  crosses := next_crosses plain (List.cons_ne_nil _ _)

/-! ## The places of the parts -/

/-- The places that the reading of the parts comes to. -/
inductive Reaches (start : PartCursor) : PartCursor → Prop
  | here : Reaches start start
  | next {cursor after : PartCursor} {part : Part} (before : Reaches start cursor)
      (step : cursor.next = some (part, after)) : Reaches start after

theorem Reaches.of_next {start cursor after : PartCursor} {part : Part}
    (step : start.next = some (part, after)) (reached : Reaches after cursor) :
    Reaches start cursor := by
  induction reached with
  | here => exact .next .here step
  | next _ later ih => exact .next ih later

theorem Reaches.isSuffix_toList {start cursor : PartCursor} (reached : Reaches start cursor) :
    cursor.toList <:+ start.toList := by
  induction reached with
  | here => exact List.suffix_refl _
  | next _ step ih =>
    rw [toList_of_some step] at ih
    exact (List.suffix_cons _ _).trans ih

/-- Each part is read at a place that the reading comes to. -/
theorem mem_toList_iff {start : PartCursor} {part : Part} :
    part ∈ start.toList ↔
      ∃ cursor after, Reaches start cursor ∧ cursor.next = some (part, after) := by
  constructor
  · intro mem
    induction start using toList.induct with
    | case1 start last =>
      rw [toList_of_none last] at mem
      cases mem
    | case2 start first after step ih =>
      rw [toList_of_some step, List.mem_cons] at mem
      obtain rfl | later := mem
      · exact ⟨start, after, .here, step⟩
      · obtain ⟨cursor, after, reached, read⟩ := ih later
        exact ⟨cursor, after, reached.of_next step, read⟩
  · rintro ⟨cursor, after, reached, read⟩
    have suffix := reached.isSuffix_toList
    rw [toList_of_some read] at suffix
    exact suffix.subset List.mem_cons_self

/-- A cursor stands behind an opening, or at the end. -/
structure StandsBehind (body opening : Bytes) (cursor : PartCursor) : Prop where
  delimiter_eq : cursor.delimiter = crlf ++ opening
  behind : ∀ rest ∈ cursor.rest, opening ++ rest <:+ body

theorem standsBehind_start (body : Bytes) (boundary : String) :
    StandsBehind body (openingOf boundary) (start body boundary) where
  delimiter_eq := rfl
  behind rest mem := by
    obtain ⟨i, found, rfl⟩ := Option.map_eq_some_iff.1 mem
    refine ⟨body.take i, ?_⟩
    rw [openingOf, ← List.append_assoc, ← take_add_of_indexOf? found,
      List.take_append_drop]

/-- A step goes on behind the delimiter that is found next in some end of what follows. -/
theorem exists_of_next {cursor after : PartCursor} {part : Part}
    (step : cursor.next = some (part, after)) :
    ∃ rest tail, cursor.rest = some rest ∧ tail <:+ rest ∧
      after = ⟨cursor.delimiter, (splitData cursor.delimiter tail).2⟩ := by
  unfold next at step
  obtain ⟨rest, rest_eq, step⟩ := Option.bind_eq_some_iff.1 step
  obtain ⟨-, step⟩ := Option.ite_none_left_eq_some.1 step
  obtain ⟨⟨headers, tail⟩, split, step⟩ := Option.bind_eq_some_iff.1 step
  rw [splitHeaders?_eq_indexOf?] at split
  obtain ⟨i, -, split⟩ := Option.map_eq_some_iff.1 split
  obtain rfl : rest.drop (i + 4) = tail := congrArg Prod.snd split
  exact ⟨rest, _, rest_eq, List.drop_suffix _ _, (congrArg Prod.snd (Option.some.inj step)).symm⟩

/-- What follows the data of a part stands behind an opening. -/
theorem isSuffix_of_splitData {opening tail later : Bytes}
    (goesOn : (splitData (crlf ++ opening) tail).2 = some later) : opening ++ later <:+ tail := by
  obtain ⟨-, split⟩ | ⟨own, behind, rfl, -, split⟩ :=
    cases_splitData (crlf ++ opening) tail (List.cons_ne_nil _ _)
  · rw [split] at goesOn
    cases goesOn
  · rw [split] at goesOn
    cases goesOn
    exact ⟨own ++ crlf, by simp only [List.append_assoc]⟩

theorem standsBehind_next {body opening : Bytes} {cursor after : PartCursor} {part : Part}
    (stands : StandsBehind body opening cursor) (step : cursor.next = some (part, after)) :
    StandsBehind body opening after := by
  obtain ⟨rest, tail, rest_eq, ending, rfl⟩ := exists_of_next step
  refine ⟨stands.delimiter_eq, fun later mem => ?_⟩
  rw [stands.delimiter_eq] at mem
  have within : tail <:+ body :=
    (ending.trans (List.suffix_append _ _)).trans (stands.behind rest rest_eq)
  exact (isSuffix_of_splitData mem).trans within

theorem Reaches.standsBehind {body : Bytes} {boundary : String} {cursor : PartCursor}
    (reached : Reaches (start body boundary) cursor) :
    StandsBehind body (openingOf boundary) cursor := by
  induction reached with
  | here => exact standsBehind_start body boundary
  | next _ step ih => exact standsBehind_next ih step

end PartCursor

namespace Multipart

open PartCursor

theorem parts_eq_toList {r : Request} {boundary : String}
    (announced : r.contentType?.bind boundary? = some boundary) :
    parts r = (start r.body boundary).toList := by
  rw [parts, announced]

/-- **A part is read from its own section if this has an empty line, and from what follows it as
well if it has none.** Behind each opening that the reading of a request comes to, all that follows
in the body decides, in one of four ways, which part is read and where the reading goes on. -/
theorem parts_from_sections {r : Request} {boundary : String}
    (announced : r.contentType?.bind boundary? = some boundary) :
    (∀ part, part ∈ parts r ↔ ∃ rest after,
      Reaches (start r.body boundary) ⟨delimiterOf boundary, some rest⟩ ∧
        next ⟨delimiterOf boundary, some rest⟩ = some (part, after)) ∧
    (∀ rest, Reaches (start r.body boundary) ⟨delimiterOf boundary, some rest⟩ →
      openingOf boundary ++ rest <:+ r.body) ∧
    ∀ rest, ReadsPart boundary rest := by
  obtain ⟨contentType, -, usable⟩ := Option.bind_eq_some_iff.1 announced
  refine ⟨fun part => ?_, fun rest reached => ?_, fun rest => ?_⟩
  · rw [parts_eq_toList announced, mem_toList_iff]
    constructor
    · rintro ⟨⟨delimiter, rest⟩, after, reached, read⟩
      obtain rfl : delimiter = delimiterOf boundary := reached.standsBehind.delimiter_eq
      cases rest with
      | none => cases read
      | some rest => exact ⟨rest, after, reached, read⟩
    · rintro ⟨rest, after, reached, read⟩
      exact ⟨_, after, reached, read⟩
  · exact reached.standsBehind.behind rest rfl
  · exact readsPart (notMem_openingOf usable) rest

/-- A part, a note and the end of the body, without the opening of the part. -/
def thenNote (first : String) : Bytes :=
  Utf8.encode ("\r\n" ++ first ++
    "\r\n--X\r\nContent-Disposition: form-data; name=\"note\"\r\n\r\nhello\r\n--X--")

/-- A request with two parts, of which the second one is a note. -/
def twoParts (first : String) : Request :=
  let headerBlock := Utf8.encode "Content-Type: multipart/form-data; boundary=X\r\n\r\n"
  let body := openingOf "X" ++ thenNote first
  { bytes := Utf8.encode "POST / HTTP/1.1\r\n" ++ headerBlock ++ body
    line := ⟨.ofString "POST", .ofString "/", .empty, 1, 1⟩
    headerBlock, body
    contentLength := 0 }

theorem start_twoParts (first : String) :
    start (twoParts first).body "X" = ⟨delimiterOf "X", some (thenNote first)⟩ := by
  have here : Bytes.indexOf? (openingOf "X") (openingOf "X" ++ thenNote first) = some 0 :=
    Bytes.indexOf?_cons_of_startsWith (List.cons_ne_nil _ _) (startsWith_iff.2 ⟨_, rfl⟩)
  show PartCursor.mk _ ((Bytes.indexOf? (openingOf "X") (openingOf "X" ++ thenNote first)).map
    fun i => (openingOf "X" ++ thenNote first).drop (i + (openingOf "X").length)) = _
  rw [here, Option.map_some, Nat.zero_add, List.drop_left]
  rfl

/-- With an empty line in its section, the first part is read from it. -/
theorem parts_from_sections_of_ended :
    let first := "Content-Disposition: form-data; name=\"fw\"\r\n\r\n1"
    (twoParts first).contentType?.bind boundary? = some "X" ∧
      ∃ part after,
        next ⟨delimiterOf "X", some (ownSection (delimiterOf "X") (thenNote first))⟩ =
          some (part, finished (delimiterOf "X")) ∧
        next ⟨delimiterOf "X", some (thenNote first)⟩ =
          some (part, ⟨delimiterOf "X", after⟩) ∧
        part ∈ parts (twoParts first) ∧ part.name = "fw" := by
  intro first
  have announced : (twoParts first).contentType?.bind boundary? = some "X" := by decide +kernel
  have goesOn : startsWith (Utf8.encode "--") (thenNote first) = false := by decide +kernel
  have ended : Bytes.emptyLine <:+: ownSection (delimiterOf "X") (thenNote first) := by
    decide +kernel
  have named : (next ⟨delimiterOf "X", some (thenNote first)⟩).map (·.1.name) = some "fw" := by
    decide +kernel
  obtain ⟨members, -, reads⟩ := parts_from_sections announced
  obtain ⟨part, own, whole⟩ := (reads (thenNote first)).own goesOn ended
  rw [whole] at named
  refine ⟨announced, part, _, own, whole, ?_, Option.some.inj named⟩
  have reached : Reaches (start (twoParts first).body "X")
      ⟨delimiterOf "X", some (thenNote first)⟩ := start_twoParts first ▸ .here
  exact (members part).2 ⟨_, _, reached, whole⟩

/-- **A part takes name and data of the next one.** A part whose header lines do not end has a
section without an empty line. The delimiter behind it is passed over as one of the header lines,
the name is replaced by that of the next part, and the name of the file stays. -/
theorem header_lines_pass_delimiter :
    let first := "Content-Disposition: form-data; name=\"fw\"; filename=\"fw.bin\""
    let r := twoParts first
    Request.ofBytes r.bytes = .ok r ∧ r.contentType?.bind boundary? = some "X" ∧
      start r.body "X" = ⟨delimiterOf "X", some (thenNote first)⟩ ∧
      ¬ Bytes.emptyLine <:+: ownSection (delimiterOf "X") (thenNote first) ∧
      parts r =
        [{ name := "note", filename := .ofString "fw.bin", data := Utf8.encode "hello" }] := by
  intro first r
  have read : Request.ofBytes r.bytes = .ok r := by decide +kernel
  have announced : r.contentType?.bind boundary? = some "X" := by decide +kernel
  have unended : ¬ Bytes.emptyLine <:+: ownSection (delimiterOf "X") (thenNote first) := by
    decide +kernel
  -- one step, and no step behind it
  have steps : (start r.body "X").next.map (fun step => (step.1, step.2.next.map Prod.fst)) =
      some ({ name := "note", filename := .ofString "fw.bin", data := Utf8.encode "hello" },
        none) := by
    decide +kernel
  obtain ⟨⟨part, after⟩, step, eq⟩ := Option.map_eq_some_iff.1 steps
  obtain ⟨rfl, last⟩ := Prod.mk.inj eq
  rw [Option.map_eq_none_iff] at last
  refine ⟨read, announced, start_twoParts first, unended, ?_⟩
  rw [parts_eq_toList announced, toList_of_some step, toList_of_none last]

end Multipart

end DeviceHttp
