import DeviceHttp.Multipart.Body
import DeviceHttp.Proofs.Announcement
import DeviceHttp.Proofs.HeaderLookup
import DeviceHttp.Proofs.Searching

/-!
# Reading the header lines of a part

`FormPart` is a part of a form as a peer composes it. Its header lines are its content disposition,
with the name and perhaps the name of a file between double quotes, and perhaps its content type.
`Part.ofHeaders` reads them back (`FormPart.ofHeaders_headerLines`).

Names may hold semicolons and equals signs. A semicolon between double quotes does not end a
parameter, so a parameter whose value is quoted is read as one piece (`isOnePiece_quotedParameter`),
and the first equals sign of a parameter is the one behind its key.
-/

namespace DeviceHttp

/-! ## Parameters -/

namespace Part

/-- Puts elements in front of the first piece. -/
def prepend (cs : List Char) (pieces : List (List Char)) : List (List Char) :=
  cs.foldr consFirst pieces

theorem prepend_cons (cs piece : List Char) (pieces : List (List Char)) :
    prepend cs (piece :: pieces) = (cs ++ piece) :: pieces := by
  induction cs with
  | nil => rfl
  | cons c cs ih =>
    show consFirst c (prepend cs (piece :: pieces)) = _
    rw [ih]
    rfl

theorem prepend_append (cs ds : List Char) (pieces : List (List Char)) :
    prepend (cs ++ ds) pieces = prepend cs (prepend ds pieces) := List.foldr_append

/-- Characters that neither open nor close a quotation nor end a parameter are read on. -/
theorem parameters_append {quoted : Bool} {cs : List Char}
    (plain : ∀ c ∈ cs, c ≠ '"' ∧ (quoted = false → c ≠ ';')) (rest : List Char) :
    parameters quoted (cs ++ rest) = prepend cs (parameters quoted rest) := by
  induction cs with
  | nil => rfl
  | cons c cs ih =>
    obtain ⟨noQuote, noEnd⟩ := plain c List.mem_cons_self
    have goesOn : ¬ (c == ';' && !quoted) = true := by
      cases quoted with
      | true => rw [Bool.not_true, Bool.and_false]; exact Bool.false_ne_true
      | false => rw [beq_eq_false_iff_ne.2 (noEnd rfl), Bool.false_and]; exact Bool.false_ne_true
    rw [List.cons_append, parameters, if_neg goesOn, beq_eq_false_iff_ne.2 noQuote,
      if_neg Bool.false_ne_true, ih fun d mem => plain d (List.mem_cons_of_mem c mem)]
    rfl

/-- The piece is read on to its end, and what follows is read as if nothing had been before. -/
def IsOnePiece (piece : List Char) : Prop :=
  ∀ rest, parameters false (piece ++ rest) = prepend piece (parameters false rest)

theorem isOnePiece_of_avoids {piece : List Char} (plain : Avoids ['"', ';'] piece) :
    IsOnePiece piece := by
  intro rest
  refine parameters_append (fun c mem => ⟨?_, fun _ => ?_⟩) rest
  · rintro rfl
    exact plain.notMem (by simp) mem
  · rintro rfl
    exact plain.notMem (by simp) mem

/-- Pieces with semicolons between them are found again. -/
theorem parameters_append_flatMap {piece : List Char} {pieces : List (List Char)}
    (one : ∀ p ∈ piece :: pieces, IsOnePiece p) :
    parameters false (piece ++ pieces.flatMap (';' :: ·)) = piece :: pieces := by
  induction pieces generalizing piece with
  | nil => rw [one piece List.mem_cons_self, List.flatMap_nil, parameters, prepend_cons,
      List.append_nil]
  | cons p pieces ih =>
    rw [one piece List.mem_cons_self, List.flatMap_cons, List.cons_append]
    show prepend piece ([] :: parameters false (p ++ pieces.flatMap (';' :: ·))) = _
    rw [ih fun q mem => one q (List.mem_cons_of_mem piece mem), prepend_cons, List.append_nil]

/-- A parameter with a quoted value, as in ` name="file"`. -/
def quotedParameter (key value : List Char) : List Char :=
  (' ' :: key) ++ '=' :: '"' :: (value ++ ['"'])

/-- Characters that may stand in the key of a parameter. -/
abbrev IsKey (cs : List Char) : Prop := Avoids ['"', ';', '=', '\r'] cs

/-- Characters that may stand between double quotes on a line. -/
abbrev IsQuotable (cs : List Char) : Prop := Avoids ['"', '\r', '\n'] cs

/-- A quoted value may hold semicolons. -/
theorem isOnePiece_quotedParameter {key value : List Char} (isKey : IsKey key)
    (quotable : IsQuotable value) : IsOnePiece (quotedParameter key value) := by
  intro rest
  have key_plain : Avoids ['"', ';'] ((' ' :: key) ++ ['=']) := by
    intro c mem
    simp only [List.cons_append, List.mem_cons, List.mem_append, List.not_mem_nil, or_false] at mem
    rcases mem with rfl | inKey | rfl
    · decide
    · exact isKey.mono (by simp) c inKey
    · decide
  have value_plain : ∀ c ∈ value, c ≠ '"' ∧ (true = false → c ≠ ';') := fun c mem =>
    ⟨fun quote => quotable.notMem List.mem_cons_self (quote ▸ mem), nofun⟩
  have split : quotedParameter key value =
      ((' ' :: key) ++ ['=']) ++ (['"'] ++ (value ++ ['"'])) := by
    simp [quotedParameter]
  rw [split, List.append_assoc, isOnePiece_of_avoids key_plain, prepend_append _ (['"'] ++ _)]
  -- the first quote opens the quotation, and the last one closes it
  show prepend _ (consFirst '"' (parameters true ((value ++ ['"']) ++ rest))) =
    prepend _ (consFirst '"' (prepend (value ++ ['"']) (parameters false rest)))
  rw [List.append_assoc, parameters_append value_plain, prepend_append value]
  rfl

/-- The quotes around a value are taken off, and nothing else. -/
theorem unquote_trim_quoted (value : List Char) :
    unquote (Text.trim ('"' :: (value ++ ['"']))) = value := by
  have none : ∀ c ∈ ([] : List Char), Text.isBlank c = true := fun c mem => by cases mem
  have first : ∀ c ∈ ('"' :: (value ++ ['"'])).head?, Text.isBlank c = false := by
    intro c head
    rw [← Option.some.inj head]
    rfl
  have last : ∀ c ∈ ('"' :: (value ++ ['"'])).getLast?, Text.isBlank c = false := by
    intro c final
    rw [← List.cons_append, List.getLast?_append] at final
    rw [← Option.some.inj final]
    rfl
  have trimmed := Text.trim_append none none (List.cons_ne_nil _ _) first last
  rw [List.nil_append, List.append_nil] at trimmed
  rw [trimmed, unquote, List.reverse_append]
  exact List.reverse_reverse value

/-- A parameter sets the field that its key names. -/
theorem withParameter_quotedParameter (part : Part) {key : List Char} (isKey : IsKey key)
    (value : List Char) :
    part.withParameter (quotedParameter key value) =
      if Text.eqIgnoreCase (Text.trim (' ' :: key)) "name".toList then
        { part with name := String.ofList value }
      else if Text.eqIgnoreCase (Text.trim (' ' :: key)) "filename".toList then
        { part with filename := .ofString (String.ofList value) }
      else part := by
  have noEquals : '=' ∉ key := isKey.notMem (by simp)
  have unmarked : ∀ c ∈ ' ' :: key, (c == '=') = false := unmarked_of_notMem (by simp [noEquals])
  have equals := cut?_append_cons unmarked (beq_self_eq_true '=') ('"' :: (value ++ ['"']))
  rw [withParameter, quotedParameter, equals]
  simp only [unquote_trim_quoted]

/-- A parameter stays on its line. -/
theorem notMem_quotedParameter {key value : List Char} (isKey : IsKey key)
    (quotable : IsQuotable value) : '\r' ∉ quotedParameter key value := by
  have inKey : '\r' ∉ key := isKey.notMem (by simp)
  have inValue : '\r' ∉ value := quotable.notMem (by simp)
  simp [quotedParameter, inKey, inValue]

/-- The parameters behind the type are taken one after another. -/
theorem withDisposition_ofList (part : Part) {type : List Char} {ps : List (List Char)}
    (one : ∀ p ∈ type :: ps, IsOnePiece p) :
    part.withDisposition (String.ofList (type ++ ps.flatMap (';' :: ·))) =
      ps.foldl withParameter part := by
  rw [withDisposition, String.toList_ofList, parameters_append_flatMap one, List.drop_succ_cons,
    List.drop_zero]

end Part

/-! ## Header lines -/

/-- What follows the beginning of an encoded line is the encoding of what follows in the text. -/
theorem Bytes.dropStartIgnoreCase?_encode (start : String) (written : List Char)
    (same : (Utf8.encode start).map lowerAscii = (Utf8.encodeChars written).map lowerAscii)
    (value : List Char) :
    dropStartIgnoreCase? (Utf8.encode start) (Utf8.encodeChars (written ++ value)) =
      some (Utf8.encode (String.ofList value)) := by
  rw [Utf8.encodeChars_append, dropStartIgnoreCase?_append same, Utf8.encode, String.toList_ofList]

namespace Part

theorem withHeader_disposition (part : Part) (value : List Char) :
    part.withHeader (Utf8.encodeChars ("Content-Disposition:".toList ++ value)) =
      part.withDisposition (String.ofList value) := by
  have dropped := Bytes.dropStartIgnoreCase?_encode "content-disposition:"
    "Content-Disposition:".toList (by decide) value
  rw [withHeader, dropped]
  simp only [Utf8.decode?_encode]

theorem withHeader_contentType (part : Part) (value : List Char) :
    part.withHeader (Utf8.encodeChars ("Content-Type:".toList ++ value)) =
      { part with contentType := some (.ofString (String.ofList (Text.trim value))) } := by
  have other : Bytes.dropStartIgnoreCase? (Utf8.encode "content-disposition:")
      (Utf8.encodeChars ("Content-Type:".toList ++ value)) = none := by
    rw [Utf8.encodeChars_append]
    rfl
  have dropped := Bytes.dropStartIgnoreCase?_encode "content-type:"
    "Content-Type:".toList (by decide) value
  rw [withHeader, other]
  simp only [dropped, Option.bind_some, Utf8.decode?_encode, String.toList_ofList]

end Part

/-! ## Parts as they are composed -/

/-- A part of a form as a peer composes it. -/
structure FormPart where
  name : String
  filename : Option String := none
  contentType : Option String := none
  data : Bytes
  name_isQuotable : Part.IsQuotable name.toList := by decide
  filename_isQuotable : ∀ f ∈ filename, Part.IsQuotable f.toList := by decide
  contentType_plain : ∀ t ∈ contentType, Avoids ['\r', '\n'] t.toList := by decide

namespace FormPart

variable (p : FormPart)

theorem isKey_name : Part.IsKey "name".toList := by decide

theorem isKey_filename : Part.IsKey "filename".toList := by decide

/-- The parameters of the content disposition: the name and, if there is one, that of the file. -/
def parameters : List (List Char) :=
  Part.quotedParameter "name".toList p.name.toList ::
    p.filename.toList.map fun f => Part.quotedParameter "filename".toList f.toList

/-- `Content-Disposition: form-data; name="N"; filename="F"` -/
def disposition : List Char :=
  "Content-Disposition:".toList ++ (" form-data".toList ++ p.parameters.flatMap (';' :: ·))

/-- `Content-Type: T` -/
def contentTypeLine (t : String) : List Char := "Content-Type:".toList ++ ' ' :: t.toList

/-- The content disposition and, if there is one, the content type. -/
def headerLines : List Bytes :=
  Utf8.encodeChars p.disposition ::
    p.contentType.toList.map fun t => Utf8.encodeChars (contentTypeLine t)

/-- The part that is read: texts are cut where they do not fit, a content type is trimmed, and the
data loses the line endings behind it. -/
def decoded : Part where
  name := p.name
  filename := p.filename.elim .empty .ofString
  contentType := p.contentType.map fun t => .ofString (String.ofList (Text.trim t.toList))
  data := PartCursor.trimNewlines p.data

/-- Every parameter is a quoted one, with a key and a value that may stand there. -/
theorem exists_quotedParameter : ∀ q ∈ p.parameters, ∃ key value, Part.IsKey key ∧
    Part.IsQuotable value ∧ q = Part.quotedParameter key value := by
  intro q mem
  rcases List.mem_cons.1 mem with rfl | mem
  · exact ⟨_, _, isKey_name, p.name_isQuotable, rfl⟩
  · obtain ⟨f, inside, rfl⟩ := List.mem_map.1 mem
    exact ⟨_, _, isKey_filename, p.filename_isQuotable f (Option.mem_toList.1 inside), rfl⟩

theorem notMem_disposition : '\r' ∉ p.disposition := by
  have inName : '\r' ∉ "Content-Disposition:".toList := by decide
  have inType : '\r' ∉ " form-data".toList := by decide
  intro mem
  rcases List.mem_append.1 mem with name | mem
  · exact inName name
  · rcases List.mem_append.1 mem with type | mem
    · exact inType type
    · obtain ⟨q, inside, mem⟩ := List.mem_flatMap.1 mem
      rcases List.mem_cons.1 mem with semicolon | mem
      · cases semicolon
      · obtain ⟨key, value, isKey, quotable, rfl⟩ := p.exists_quotedParameter q inside
        exact Part.notMem_quotedParameter isKey quotable mem

theorem notMem_contentTypeLine {t : String} (plain : Avoids ['\r', '\n'] t.toList) :
    '\r' ∉ contentTypeLine t := by
  have inName : '\r' ∉ "Content-Type:".toList := by decide
  intro mem
  rcases List.mem_append.1 mem with name | mem
  · exact inName name
  · rcases List.mem_cons.1 mem with space | inType
    · cases space
    · exact plain.notMem List.mem_cons_self inType

/-- The header lines are not empty and hold no line ending. -/
theorem headerLines_plain : ∀ l ∈ p.headerLines, l ≠ [] ∧ 13 ∉ l := by
  intro l mem
  rcases List.mem_cons.1 mem with rfl | mem
  · refine ⟨Utf8.encodeChars_ne_nil (List.cons_ne_nil _ _), ?_⟩
    exact Utf8.notMem_encodeChars p.notMem_disposition
  · obtain ⟨t, inside, rfl⟩ := List.mem_map.1 mem
    have plain := p.contentType_plain t (Option.mem_toList.1 inside)
    refine ⟨Utf8.encodeChars_ne_nil (List.cons_ne_nil _ _), ?_⟩
    exact Utf8.notMem_encodeChars (notMem_contentTypeLine plain)

theorem withParameter_name (part : Part) (name : String) :
    part.withParameter (Part.quotedParameter "name".toList name.toList) = { part with name } := by
  have own : Text.eqIgnoreCase (Text.trim (' ' :: "name".toList)) "name".toList = true := by decide
  rw [Part.withParameter_quotedParameter part isKey_name, if_pos own, String.ofList_toList]

theorem withParameter_filename (part : Part) (filename : String) :
    part.withParameter (Part.quotedParameter "filename".toList filename.toList) =
      { part with filename := .ofString filename } := by
  have other : ¬ Text.eqIgnoreCase (Text.trim (' ' :: "filename".toList)) "name".toList = true := by
    decide
  have own : Text.eqIgnoreCase (Text.trim (' ' :: "filename".toList)) "filename".toList = true := by
    decide
  rw [Part.withParameter_quotedParameter part isKey_filename, if_neg other, if_pos own,
    String.ofList_toList]

/-- The content disposition gives the name and that of the file. -/
theorem withHeader_disposition (part : Part) :
    part.withHeader (Utf8.encodeChars p.disposition) =
      { part with
        name := p.name
        filename := p.filename.elim part.filename .ofString } := by
  have one : ∀ q ∈ " form-data".toList :: p.parameters, Part.IsOnePiece q := by
    intro q mem
    rcases List.mem_cons.1 mem with rfl | mem
    · exact Part.isOnePiece_of_avoids (by decide)
    · obtain ⟨key, value, isKey, quotable, rfl⟩ := p.exists_quotedParameter q mem
      exact Part.isOnePiece_quotedParameter isKey quotable
  have named := withParameter_name part p.name
  calc part.withHeader (Utf8.encodeChars p.disposition)
    _ = part.withDisposition
          (String.ofList (" form-data".toList ++ p.parameters.flatMap (';' :: ·))) :=
        Part.withHeader_disposition part _
    _ = p.parameters.foldl Part.withParameter part := Part.withDisposition_ofList part one
    _ = (p.filename.toList.map fun f =>
          Part.quotedParameter "filename".toList f.toList).foldl Part.withParameter
            { part with name := p.name } := by rw [parameters, List.foldl_cons, named]
    _ = _ := by
      cases p.filename with
      | none => rfl
      | some f => exact withParameter_filename _ f

/-- **The header lines are read back.** -/
theorem ofHeaders_headerLines (data : Bytes) :
    Part.ofHeaders (Bytes.crlf.intercalate p.headerLines) data = { p.decoded with data } := by
  have plain : ∀ l ∈ p.headerLines, 13 ∉ l := fun l mem => (p.headerLines_plain l mem).2
  rw [Part.ofHeaders, headerLines, Bytes.lines_intercalate plain, List.foldl_cons,
    p.withHeader_disposition, decoded]
  cases p.contentType with
  | none => rfl
  | some t => exact Part.withHeader_contentType _ (' ' :: t.toList)

end FormPart

end DeviceHttp
