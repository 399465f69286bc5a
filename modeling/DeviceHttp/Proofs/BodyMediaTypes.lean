import DeviceHttp.Proofs.HeaderReadings
import DeviceHttp.Proofs.JsonLookup
import DeviceHttp.Proofs.PairSearch
import DeviceHttp.Proofs.UsableBoundary

/-!
# Which bodies are searched

Three readers look at the content type of a request before they read its body. That of multipart
forms compares the media type as a whole. Lookups in form and JSON bodies compare the beginning of
the content type, and whatever stands behind the name passes: parameters, but also the rest of a
longer name.

So a lookup finds values under media types that only begin like the one it is meant for
(`Lookup.longer_media_types_are_read`). `Lookup.readsBodies` says what the lookups do for every
request and key, and when that is what an exact comparison would do.

* Something is found exactly if the content type begins with the name, in any case, and the body has
  the key.
* It is found under the exact media type only, unless the name goes on in front of the first
  semicolon with something other than white space, and the body has the key.
* Two requests with the same body, both with a content type that begins with the name, are answered
  alike.

## Main definitions

* `MediaType.GoesOn` — what stands behind the name of a media type
* `Request.HasExactly`, `Request.Begins`, `Request.Prolongs` — the media type itself, what is taken
  for it, and what is taken for it by mistake
-/

namespace DeviceHttp

/-! ## Names at the beginning of a content type -/

namespace MediaType

variable {mediaType contentType : String} {rest : List Char}

/-- The characters of the names of media types: printable ASCII without space and semicolon. -/
def isNameChar (c : Char) : Bool := 33 ≤ c.toNat && c.toNat ≤ 126 && c != ';'

theorem isNameChar_iff {c : Char} :
    isNameChar c = true ↔ 33 ≤ c.toNat ∧ c.toNat ≤ 126 ∧ c ≠ ';' := by
  simp only [isNameChar, Bool.and_eq_true, decide_eq_true_eq, bne_iff_ne, and_assoc]

/-- A media type that has no blanks, semicolons and characters beyond ASCII in its small letters. -/
structure IsPlain (mediaType : String) : Prop where
  ne_nil : mediaType.toList ≠ []
  lower : (mediaType.toList.map Text.lowerAscii).all isNameChar = true

theorem IsPlain.range (plain : IsPlain mediaType) {c : Char}
    (mem : c ∈ mediaType.toList.map Text.lowerAscii) : 33 ≤ c.toNat ∧ c.toNat ≤ 126 ∧ c ≠ ';' :=
  isNameChar_iff.1 (List.all_eq_true.1 plain.lower c mem)

theorem isPlain_urlEncodedForm : IsPlain urlEncodedForm := ⟨by decide, by decide⟩

theorem isPlain_json : IsPlain json := ⟨by decide, by decide⟩

/-- The content type begins with the name of a media type, in any case, and goes on like this. -/
def GoesOn (mediaType contentType : String) (rest : List Char) : Prop :=
  ∃ written, contentType.toList = written ++ rest ∧
    Text.eqIgnoreCase written mediaType.toList = true

/-- Names in the other case are plain too. -/
theorem IsPlain.written (plain : IsPlain mediaType) {written : List Char}
    (same : Text.eqIgnoreCase written mediaType.toList = true) :
    written ≠ [] ∧ ∀ c ∈ written, Text.isBlank c = false ∧ c ≠ ';' := by
  have absent {c : Char} (still : Text.lowerAscii c = c)
      (outside : ¬ (33 ≤ c.toNat ∧ c.toNat ≤ 126 ∧ c ≠ ';')) : c ∉ written :=
    Text.notMem_of_eqIgnoreCase same still fun mem => outside (plain.range mem)
  refine ⟨?_, fun c mem => ⟨?_, ?_⟩⟩
  · rintro rfl
    rw [Text.eqIgnoreCase, beq_iff_eq] at same
    exact plain.ne_nil (List.map_eq_nil_iff.1 same.symm)
  · refine Bool.eq_false_iff.2 fun blank => ?_
    refine absent (Text.lowerAscii_of_isBlank blank) (fun range => ?_) mem
    simp only [Text.isBlank, Bool.or_eq_true, Bool.and_eq_true, decide_eq_true_eq] at blank
    omega
  · rintro rfl
    exact absent rfl (fun range => range.2.2 rfl) mem

/-- Octets that agree with a plain name up to case are ASCII. -/
theorem IsPlain.ascii (plain : IsPlain mediaType) {written : Bytes}
    (same : (Utf8.encode mediaType).map Bytes.lowerAscii = written.map Bytes.lowerAscii) :
    ∀ b ∈ written, b.toNat ≤ 127 := by
  intro b mem
  have lower : Bytes.lowerAscii b ∈ (mediaType.toList.map Text.lowerAscii).map Utf8.asciiOctet := by
    have narrow : ∀ c ∈ mediaType.toList.map Text.lowerAscii, c.toNat ≤ 127 := fun c inside =>
      Nat.le_succ_of_le (plain.range inside).2.1
    rw [← Utf8.encodeChars_of_ascii narrow, Utf8.encodeChars_map_lowerAscii]
    exact same ▸ List.mem_map_of_mem mem
  obtain ⟨c, inside, eq⟩ := List.mem_map.1 lower
  have small : (Bytes.lowerAscii b).toNat ≤ 127 := by
    have := (plain.range inside).2.1
    rw [← eq, Utf8.toNat_asciiOctet (by omega)]
    omega
  rw [Bytes.lowerAscii] at small
  split at small
  · next capital =>
    have := UInt8.le_iff_toNat_le.1 capital.2
    simp only [UInt8.reduceToNat] at this
    omega
  · exact small

/-- The comparison of a lookup is one of beginnings. -/
theorem startsMediaType_iff (plain : IsPlain mediaType) :
    Lookup.startsMediaType mediaType contentType = true ↔
      ∃ rest, GoesOn mediaType contentType rest := by
  rw [Lookup.startsMediaType, Option.isSome_iff_exists]
  constructor
  · rintro ⟨behind, begins⟩
    obtain ⟨octets, whole, same⟩ := Bytes.dropStartIgnoreCase?_eq_some_iff.1 begins
    obtain ⟨written, rest, eq, rfl, -⟩ :=
      Utf8.exists_of_encodeChars_eq_ascii_append (plain.ascii same) whole
    exact ⟨rest, written, eq, Utf8.eqIgnoreCase_iff_encodeChars.2 same.symm⟩
  · rintro ⟨rest, written, whole, same⟩
    have agree := (Utf8.eqIgnoreCase_iff_encodeChars.1 same).symm
    have octets : Utf8.encode contentType = Utf8.encodeChars written ++ Utf8.encodeChars rest := by
      rw [Utf8.encode, whole, Utf8.encodeChars_append]
    rw [octets]
    exact ⟨_, Bytes.dropStartIgnoreCase?_append agree (Utf8.encodeChars rest)⟩

/-- What stands behind the name is determined by the content type. -/
theorem GoesOn.unique {rest' : List Char} (goesOn : GoesOn mediaType contentType rest)
    (goesOn' : GoesOn mediaType contentType rest') : rest = rest' := by
  obtain ⟨written, whole, same⟩ := goesOn
  obtain ⟨written', whole', same'⟩ := goesOn'
  exact (List.append_inj (whole.symm.trans whole')
    ((Text.length_eq_of_eqIgnoreCase same).trans (Text.length_eq_of_eqIgnoreCase same').symm)).2

/-- A content type that begins with a media type is exactly of it if the name does not go on: up to
the first semicolon there is nothing but white space. -/
theorem isOf_iff_of_goesOn (plain : IsPlain mediaType)
    (goesOn : GoesOn mediaType contentType rest) :
    IsOf mediaType contentType ↔ ∀ c ∈ rest.takeWhile (· != ';'), Text.isBlank c = true := by
  obtain ⟨written, whole, same⟩ := goesOn
  obtain ⟨ne_nil, bare⟩ := plain.written same
  have front : contentType.toList.takeWhile (· != ';') =
      written ++ rest.takeWhile (· != ';') := by
    rw [whole]
    exact List.takeWhile_append_of_pos fun c mem => bne_iff_ne.2 (bare c mem).2
  rw [IsOf, nameOf, front]
  generalize rest.takeWhile (· != ';') = behind
  constructor
  · intro exact
    have kept : Text.trimStart (written ++ behind) = written ++ behind := by
      refine dropWhile_eq_self_of_head fun c first => (bare c ?_).1
      obtain ⟨d, others, rfl⟩ := List.exists_cons_of_ne_nil ne_nil
      rw [← Option.some.inj first]
      exact List.mem_cons_self
    obtain ⟨dropped, eq, blank, -⟩ := exists_append_of_dropEndWhile Text.isBlank (written ++ behind)
    rw [Text.trim, kept] at exact
    -- what is left is as long as the name, so it is the name as it was written
    have length := Text.length_eq_of_eqIgnoreCase exact
    rw [← Text.length_eq_of_eqIgnoreCase same] at length
    obtain ⟨-, rfl⟩ := List.append_inj eq length
    exact blank
  · intro blank
    have trimmed : Text.trim ([] ++ (written ++ behind)) = written :=
      Text.trim_append (fun c mem => absurd mem List.not_mem_nil) blank ne_nil
        (fun c first => (bare c (List.mem_of_mem_head? first)).1)
        (fun c last => (bare c (List.mem_of_mem_getLast? last)).1)
    rw [List.nil_append] at trimmed
    rwa [trimmed]

end MediaType

/-! ## The content type of a request -/

namespace Request

/-- The content type is exactly of a media type. -/
def HasExactly (request : Request) (mediaType : String) : Prop :=
  ∃ contentType, request.contentType? = some contentType ∧ MediaType.IsOf mediaType contentType

/-- The content type begins with the name of a media type. -/
def Begins (request : Request) (mediaType : String) : Prop :=
  ∃ contentType rest, request.contentType? = some contentType ∧
    MediaType.GoesOn mediaType contentType rest

/-- The content type begins with the name of a media type, and the name goes on: there is something
other than white space in front of the first semicolon. -/
def Prolongs (request : Request) (mediaType : String) : Prop :=
  ∃ contentType rest, request.contentType? = some contentType ∧
    MediaType.GoesOn mediaType contentType rest ∧
      ∃ c ∈ rest.takeWhile (· != ';'), Text.isBlank c = false

instance (request : Request) (mediaType : String) : Decidable (request.HasExactly mediaType) :=
  decidable_of_iff (∃ contentType ∈ request.contentType?, MediaType.IsOf mediaType contentType)
    Iff.rfl

variable {request : Request} {mediaType : String}

theorem Prolongs.begins (prolongs : request.Prolongs mediaType) : request.Begins mediaType := by
  obtain ⟨contentType, rest, sent, goesOn, -⟩ := prolongs
  exact ⟨contentType, rest, sent, goesOn⟩

/-- Lookups in a body take a beginning for the media type. -/
theorem hasMediaType_iff (plain : MediaType.IsPlain mediaType) :
    Lookup.hasMediaType request mediaType = true ↔ request.Begins mediaType := by
  rw [Lookup.hasMediaType, Option.any_eq_true]
  simp only [MediaType.startsMediaType_iff plain, Begins, exists_and_left]

/-- What is taken for the media type is not of it exactly if the name goes on. -/
theorem hasExactly_iff_not_prolongs (plain : MediaType.IsPlain mediaType)
    (begins : request.Begins mediaType) :
    request.HasExactly mediaType ↔ ¬ request.Prolongs mediaType := by
  obtain ⟨contentType, rest, sent, goesOn⟩ := begins
  have exactly := MediaType.isOf_iff_of_goesOn plain goesOn
  constructor
  · rintro ⟨_, same, isOf⟩ ⟨_, rest', same', goesOn', c, inside, dark⟩
    obtain rfl := Option.some.inj (sent.symm.trans same)
    obtain rfl := Option.some.inj (sent.symm.trans same')
    obtain rfl := goesOn.unique goesOn'
    rw [exactly.1 isOf c inside] at dark
    cases dark
  · intro ends
    refine ⟨contentType, sent, exactly.2 fun c inside => ?_⟩
    by_contra dark
    exact ends ⟨contentType, rest, sent, goesOn, c, inside, Bool.eq_false_iff.2 dark⟩

/-- What is found in bodies of a content type that begins with a media type is found under exactly
that media type, but for names that go on. -/
theorem exactly_iff_of_begins {found holds : Prop} (plain : MediaType.IsPlain mediaType)
    (found_iff : found ↔ request.Begins mediaType ∧ holds) :
    (found → request.HasExactly mediaType) ↔ ¬ (request.Prolongs mediaType ∧ holds) := by
  constructor
  · rintro law ⟨prolongs, held⟩
    have exactly := law (found_iff.2 ⟨prolongs.begins, held⟩)
    exact (hasExactly_iff_not_prolongs plain prolongs.begins).1 exactly prolongs
  · intro never wasFound
    obtain ⟨begins, held⟩ := found_iff.1 wasFound
    exact (hasExactly_iff_not_prolongs plain begins).2 fun prolongs => never ⟨prolongs, held⟩

end Request

/-! ## Lookups in bodies -/

namespace Lookup

/-- The body of a form has the key. -/
def FormHolds (key : String) (body : Bytes) : Prop := key ≠ "" ∧ ∃ raw, FirstPair key raw body

/-- The body is a JSON object with a string, a number or a boolean under the key. -/
def JsonHolds (key : String) (body : Bytes) : Prop :=
  ∃ root value, Json.Value.parse? body = some root ∧ root.HasField key value ∧ value.IsScalar

variable {area : Lookup} {request : Request} {key : String}

theorem inPairs_iff {data : Bytes} : (area.inPairs data key).1 = true ↔ FormHolds key data := by
  by_cases empty : key = ""
  · subst empty
    exact iff_of_false Bool.false_ne_true fun holds => holds.1 rfl
  · rw [FormHolds, and_iff_right empty, inPairs]
    cases pair : pair? data key with
    | some raw => exact iff_of_true rfl ⟨raw, (pair?_eq_some_iff empty).1 pair⟩
    | none =>
      refine iff_of_false Bool.false_ne_true ?_
      rintro ⟨raw, first⟩
      rw [(pair?_eq_some_iff empty).2 first] at pair
      cases pair

theorem inForm_isSome_iff : (area.inForm request key).1.isSome = true ↔
    request.Begins MediaType.urlEncodedForm ∧ FormHolds key request.body := by
  rw [inForm, isSome_inPlace, fill, ← Request.hasMediaType_iff MediaType.isPlain_urlEncodedForm]
  split
  · next form => rw [inPairs_iff, and_iff_right form]
  · next other => exact iff_of_false Bool.false_ne_true fun both => other both.1

theorem inJson_isSome_iff_begins : (area.inJson request key).1.isSome = true ↔
    request.Begins MediaType.json ∧ JsonHolds key request.body := by
  rw [inJson_isSome_iff, ← Request.hasMediaType_iff MediaType.isPlain_json]
  constructor
  · rintro ⟨value, ⟨isJson, root, parsed, field⟩, scalar⟩
    exact ⟨isJson, root, value, parsed, field, scalar⟩
  · rintro ⟨isJson, root, value, parsed, field, scalar⟩
    exact ⟨value, ⟨isJson, root, parsed, field⟩, scalar⟩

/-- Behind the name of the media type nothing counts but the body. -/
theorem inForm_alike {other : Request} (same : other.body = request.body)
    (begins : other.Begins MediaType.urlEncodedForm)
    (begins' : request.Begins MediaType.urlEncodedForm) (area area' : Lookup) :
    (area'.inForm other key).1 = (area.inForm request key).1 := by
  rw [← Request.hasMediaType_iff MediaType.isPlain_urlEncodedForm] at begins begins'
  refine inPlace_congr (fun area => ?_) area area'
  rw [fill, fill, if_pos begins, if_pos begins', same]

theorem inJson_alike {other : Request} (same : other.body = request.body)
    (begins : other.Begins MediaType.json) (begins' : request.Begins MediaType.json)
    (area area' : Lookup) : (area'.inJson other key).1 = (area.inJson request key).1 := by
  rw [← Request.hasMediaType_iff MediaType.isPlain_json] at begins begins'
  refine inPlace_congr (fun area => ?_) area area'
  rw [fill, fill, if_pos begins, if_pos begins', same]

/-- How a lookup chooses the bodies that it searches. -/
structure ReadsBodies (area : Lookup) (request : Request) (key : String) : Prop where
  form_iff : (area.inForm request key).1.isSome = true ↔
    request.Begins MediaType.urlEncodedForm ∧ FormHolds key request.body
  json_iff : (area.inJson request key).1.isSome = true ↔
    request.Begins MediaType.json ∧ JsonHolds key request.body
  /-- Whether something is found under the exact media type only. -/
  form_exactly_iff :
    ((area.inForm request key).1.isSome = true → request.HasExactly MediaType.urlEncodedForm) ↔
      ¬ (request.Prolongs MediaType.urlEncodedForm ∧ FormHolds key request.body)
  json_exactly_iff :
    ((area.inJson request key).1.isSome = true → request.HasExactly MediaType.json) ↔
      ¬ (request.Prolongs MediaType.json ∧ JsonHolds key request.body)
  /-- What stands behind the name changes no answer. -/
  form_alike : ∀ (area' : Lookup) (other : Request), other.body = request.body →
    other.Begins MediaType.urlEncodedForm → request.Begins MediaType.urlEncodedForm →
      (area'.inForm other key).1 = (area.inForm request key).1
  json_alike : ∀ (area' : Lookup) (other : Request), other.body = request.body →
    other.Begins MediaType.json → request.Begins MediaType.json →
      (area'.inJson other key).1 = (area.inJson request key).1
  /-- Parts are read from bodies of the exact media type. -/
  parts_exactly : Multipart.parts request ≠ [] → request.HasExactly MediaType.multipartForm

/-- **Lookups search the bodies of every content type that begins with the media type.** -/
theorem readsBodies (area : Lookup) (request : Request) (key : String) :
    area.ReadsBodies request key where
  form_iff := inForm_isSome_iff
  json_iff := inJson_isSome_iff_begins
  form_exactly_iff :=
    Request.exactly_iff_of_begins MediaType.isPlain_urlEncodedForm inForm_isSome_iff
  json_exactly_iff := Request.exactly_iff_of_begins MediaType.isPlain_json inJson_isSome_iff_begins
  form_alike area' _ same begins begins' := inForm_alike same begins begins' area area'
  json_alike area' _ same begins begins' := inJson_alike same begins begins' area area'
  parts_exactly some := by
    unfold Multipart.parts at some
    split at some
    · exact absurd rfl some
    · next boundary announced =>
      obtain ⟨contentType, sent, found⟩ := Option.bind_eq_some_iff.1 announced
      exact ⟨contentType, sent, Multipart.isOf_of_boundary? found⟩

/-- Two media types with longer names, and values that are found in their bodies. -/
theorem longer_media_types_are_read :
    let form := Utf8.encode
      "POST / HTTP/1.1\r\nContent-Type: application/x-www-form-urlencoded2\r\n\r\na=1"
    let json := Utf8.encode
      "POST / HTTP/1.1\r\nContent-Type: application/json-seq\r\n\r\n\x7b\"a\":\"b\"\x7d"
    ∃ r r', Request.ofBytes form = .ok r ∧ Request.ofBytes json = .ok r' ∧
      (({} : Lookup).inForm r "a").1 = some ⟨Utf8.encode "1", .form, false⟩ ∧
      ¬ r.HasExactly MediaType.urlEncodedForm ∧
      (({} : Lookup).inJson r' "a").1 = some ⟨Utf8.encode "b", .json, false⟩ ∧
      ¬ r'.HasExactly MediaType.json := by
  intro form json
  let r : Request := {
    bytes := form
    line := ⟨.ofString "POST", .ofString "/", .empty, 1, 1⟩
    headerBlock := Utf8.encode "Content-Type: application/x-www-form-urlencoded2\r\n\r\n"
    body := Utf8.encode "a=1"
    contentLength := 0 }
  let r' : Request := {
    bytes := json
    line := ⟨.ofString "POST", .ofString "/", .empty, 1, 1⟩
    headerBlock := Utf8.encode "Content-Type: application/json-seq\r\n\r\n"
    body := Utf8.encode "\x7b\"a\":\"b\"\x7d"
    contentLength := 0 }
  have read : Request.ofBytes form = .ok r := by decide +kernel
  have read' : Request.ofBytes json = .ok r' := by decide +kernel
  exact ⟨r, r', read, read', by decide +kernel, by decide +kernel, by decide +kernel,
    by decide +kernel⟩

end Lookup

end DeviceHttp
