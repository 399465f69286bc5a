import DeviceHttp.Proofs.LongestCopy
import DeviceHttp.Proofs.RepeatedLookups

/-!
# Lookups in JSON bodies

A lookup in a JSON body answers with the text of a member: of the last one that has the key, at the
top level of an object. A string of more than 127 bytes is cut between characters and marked. Numbers
are taken to be printed with at most 127 bytes, so their text is complete, like that of booleans
(`Lookup.answersFromJson`).

The empty key is never found in a query or in a form. In a JSON body it is a key like any other
(`Lookup.answersEmptyKey`).

## Main definitions

* `Json.Value.HasField` — the member that counts, told by how an object can be taken apart
* `Json.Value.ShowsAs` — what is answered for a value, with one rule for each kind that has a text
* `Lookup.JsonAnswers` — the answer that the two lead to
* `Lookup.fillJson?` — the same lookup in the steps of a device, which moves octets into an area of
  fixed size and has to go back from its end to find a boundary between characters

## How

The area that a device fills by steps is the one that a bounded text gives
(`Lookup.write?_eq_ofJson`). For strings this is what is known about the two ways to find the longest
copy. Numbers come piece by piece, and pieces can be put together before they are added
(`Lookup.foldl_push`).
-/

namespace DeviceHttp

namespace Json.Value

variable {root value : Value} {key : String} {found : Found}

/-- The value under a key: that of the last member of an object that has the key. -/
def HasField (root : Value) (key : String) (value : Value) : Prop :=
  ∃ before after, root = .object (before ++ (key, value) :: after) ∧
    ∀ member ∈ after, member.1 ≠ key

theorem field?_object (members : List (String × Value)) (key : String) :
    (object members).field? key =
      (members.reverse.find? fun member => member.1 == key).map Prod.snd := rfl

theorem field?_eq_some_iff : root.field? key = some value ↔ root.HasField key value := by
  cases root with
  | object members =>
    rw [field?_object, Option.map_eq_some_iff]
    constructor
    · rintro ⟨member, last, rfl⟩
      obtain ⟨named, later, earlier, reversed, others⟩ := List.find?_eq_some_iff_append.1 last
      obtain rfl := beq_iff_eq.1 named
      refine ⟨earlier.reverse, later.reverse, ?_, fun other mem => ?_⟩
      · rw [← List.reverse_reverse members, reversed, List.reverse_append, List.reverse_cons,
          List.append_assoc, List.singleton_append]
      · have differs := others other (List.mem_reverse.1 mem)
        rwa [Bool.not_eq_true', beq_eq_false_iff_ne] at differs
    · rintro ⟨before, after, eq, others⟩
      obtain rfl := object.inj eq
      refine ⟨(key, value), List.find?_eq_some_iff_append.2
        ⟨beq_self_eq_true key, after.reverse, before.reverse, ?_, fun other mem => ?_⟩, rfl⟩
      · rw [List.reverse_append, List.reverse_cons, List.append_assoc, List.singleton_append]
      · rw [Bool.not_eq_true', beq_eq_false_iff_ne]
        exact others other (List.mem_reverse.1 mem)
  | _ =>
    refine iff_of_false (fun held => by cases held) ?_
    rintro ⟨_, _, eq, -⟩
    cases eq

/-- A JSON value that can be looked up. -/
inductive IsScalar : Value → Prop where
  | string (s : String) : IsScalar (.string s)
  | number (n : Number) : IsScalar (.number n)
  | bool (b : Bool) : IsScalar (.bool b)

/-- What a lookup answers for a value. -/
inductive ShowsAs : Value → Found → Prop where
  /-- For a string, the longest beginning that has at most 127 bytes. It is marked if it is not the
  whole string. -/
  | string {s : String} {kept : List Char} : Utf8.IsLongestFitting 127 s.toList kept →
      ShowsAs (.string s) ⟨Utf8.encodeChars kept, .json, decide (kept ≠ s.toList)⟩
  /-- For a number, its whole text. -/
  | number (n : Number) : ShowsAs (.number n) ⟨Utf8.encode n.text, .json, false⟩
  /-- For a boolean, its name. -/
  | bool (b : Bool) :
      ShowsAs (.bool b) ⟨Utf8.encode (if b then "true" else "false"), .json, false⟩

theorem exists_showsAs (scalar : value.IsScalar) : ∃ found, value.ShowsAs found := by
  cases scalar with
  | string s => exact ⟨_, .string (Utf8.isLongestFitting_fittingChars 127 s.toList)⟩
  | number n => exact ⟨_, .number n⟩
  | bool b => exact ⟨_, .bool b⟩

end Json.Value

namespace Lookup

variable {area : Lookup} {request : Request} {key : String} {value : Json.Value} {found : Found}

/-! ## The area with a text -/

theorem ofText_eq {s : String} {kept : List Char}
    (longest : Utf8.IsLongestFitting 127 s.toList kept) :
    ofText s = ⟨Utf8.encodeChars kept, decide (kept ≠ s.toList)⟩ := by
  have chars : (BoundedText.ofString s : BoundedText capacity).text.toList = kept :=
    BoundedText.toList_text_ofString.trans (Utf8.isLongestFitting_iff.1 longest)
  have mark : (BoundedText.ofString s : BoundedText capacity).cut = decide (kept ≠ s.toList) := by
    rw [Bool.eq_iff_iff, (BoundedText.isCopyOf_ofString s).cut_iff, chars, decide_eq_true_iff]
  rw [ofText, mark, BoundedText.octets, Utf8.encode, chars]

theorem ofText_of_fits {s : String} (fits : s.utf8ByteSize ≤ 127) :
    ofText s = ⟨Utf8.encode s, false⟩ := by
  rw [Utf8.utf8ByteSize_eq_size] at fits
  have whole := Utf8.isLongestFitting_iff.2 (fittingChars_eq_self_iff.2 fits)
  rw [ofText_eq whole, decide_eq_false (not_not_intro rfl), Utf8.encode]

/-! ## The answer -/

theorem ofJson_of_showsAs (short : ∀ n, value = .number n → n.text.utf8ByteSize ≤ 127)
    (shows : value.ShowsAs found) :
    ofJson value = (true, ⟨found.value, found.cut⟩) ∧ found.origin = .json := by
  cases shows with
  | string longest => exact ⟨by rw [ofJson, ofText_eq longest], rfl⟩
  | number n => exact ⟨by rw [ofJson, ofText_of_fits (short n rfl)], rfl⟩
  | bool b => cases b <;> exact ⟨by rw [ofJson, ofText_of_fits (by decide)]; rfl, rfl⟩

/-- What can be looked up is put into the area as a text. -/
theorem exists_ofJson_eq (scalar : value.IsScalar) : ∃ s, ofJson value = (true, ofText s) := by
  cases scalar with
  | string s => exact ⟨s, rfl⟩
  | number n => exact ⟨n.text, rfl⟩
  | bool b => exact ⟨toString b, rfl⟩

theorem ofJson_fst_iff : (ofJson value).1 = true ↔ value.IsScalar := by
  constructor
  · intro held
    cases value with
    | string s => exact .string s
    | number n => exact .number n
    | bool b => exact .bool b
    | _ => cases held
  · intro scalar
    obtain ⟨s, written⟩ := exists_ofJson_eq scalar
    rw [written]

/-- The request says that its body is JSON, and the body is an object with the value under the
key. -/
def HasJsonField (request : Request) (key : String) (value : Json.Value) : Prop :=
  hasMediaType request MediaType.json = true ∧
    ∃ root, Json.Value.parse? request.body = some root ∧ root.HasField key value

theorem hasJsonField_iff : HasJsonField request key value ↔
    hasMediaType request MediaType.json = true ∧
      (Json.Value.parse? request.body).bind (·.field? key) = some value := by
  rw [HasJsonField, Option.bind_eq_some_iff]
  simp only [Json.Value.field?_eq_some_iff]

/-- There is at most one value under a key. -/
theorem HasJsonField.eq {other : Json.Value} (has : HasJsonField request key value)
    (hasOther : HasJsonField request key other) : value = other := by
  have found := (hasJsonField_iff.1 has).2
  rw [(hasJsonField_iff.1 hasOther).2] at found
  exact (Option.some.inj found).symm

/-- What a lookup in a JSON body answers: what the value under the key shows as, or nothing if
there is no such value or it is of a kind that has no text. -/
inductive JsonAnswers (request : Request) (key : String) : Option Found → Prop where
  | found {value : Json.Value} {found : Found} : HasJsonField request key value →
      value.ShowsAs found → JsonAnswers request key (some found)
  | missed : (∀ value, HasJsonField request key value → ¬ value.IsScalar) →
      JsonAnswers request key none

theorem fill_of_hasJsonField (has : HasJsonField request key value) :
    area.fill request key .json = ofJson value := by
  obtain ⟨isJson, field⟩ := hasJsonField_iff.1 has
  rw [fill, if_pos isJson, field]

theorem fill_of_lacks (lacks : ∀ value, ¬ HasJsonField request key value) :
    area.fill request key .json = (false, area) := by
  rw [fill]
  split
  · next isJson =>
    split
    · next value field => exact absurd (hasJsonField_iff.2 ⟨isJson, field⟩) (lacks value)
    · rfl
  · rfl

/-- Something is found exactly if there is a value with a text under the key. -/
theorem inJson_isSome_iff : (area.inJson request key).1.isSome = true ↔
    ∃ value, HasJsonField request key value ∧ value.IsScalar := by
  rw [inJson, isSome_inPlace]
  by_cases has : ∃ value, HasJsonField request key value
  · obtain ⟨value, has⟩ := has
    rw [fill_of_hasJsonField has, ofJson_fst_iff]
    constructor
    · exact fun scalar => ⟨value, has, scalar⟩
    · rintro ⟨other, hasOther, scalar⟩
      rwa [has.eq hasOther]
  · rw [fill_of_lacks (not_exists.1 has)]
    refine iff_of_false Bool.false_ne_true ?_
    rintro ⟨other, hasOther, -⟩
    exact has ⟨other, hasOther⟩

theorem inJson_eq_none_iff : (area.inJson request key).1 = none ↔
    ∀ value, HasJsonField request key value → ¬ value.IsScalar := by
  rw [← Option.not_isSome_iff_eq_none, inJson_isSome_iff]
  simp only [not_exists, not_and]

/-- What is found in a JSON body is UTF-8. -/
theorem exists_text?_of_inJson (held : (area.inJson request key).1 = some found) :
    ∃ text, found.text? = some text := by
  obtain ⟨value, has, scalar⟩ := inJson_isSome_iff.1 (Option.isSome_of_eq_some held)
  obtain ⟨s, written⟩ := exists_ofJson_eq scalar
  rw [inJson, inPlace_of_fill ((fill_of_hasJsonField has).trans written)] at held
  obtain rfl := Option.some.inj held
  rw [Found.text?, ofText_eq (Utf8.isLongestFitting_fittingChars 127 s.toList)]
  exact ⟨String.ofList _, Utf8.decode?_eq_some_iff.2 (by rw [Utf8.encode, String.toList_ofList])⟩

theorem inJson_of_showsAs (has : HasJsonField request key value)
    (short : ∀ n, value = .number n → n.text.utf8ByteSize ≤ 127) (shows : value.ShowsAs found) :
    (area.inJson request key).1 = some found := by
  obtain ⟨filled, origin⟩ := ofJson_of_showsAs short shows
  rw [inJson, inPlace_of_fill ((fill_of_hasJsonField has).trans filled), ← origin]

theorem inJson_eq_iff
    (short : ∀ n, HasJsonField request key (.number n) → n.text.utf8ByteSize ≤ 127)
    {answer : Option Found} :
    (area.inJson request key).1 = answer ↔ JsonAnswers request key answer := by
  have told {value : Json.Value} {found : Found} (has : HasJsonField request key value)
      (shows : value.ShowsAs found) : (area.inJson request key).1 = some found :=
    inJson_of_showsAs has (fun n eq => short n (eq ▸ has)) shows
  constructor
  · rintro rfl
    cases held : (area.inJson request key).1 with
    | none => exact .missed (inJson_eq_none_iff.1 held)
    | some found =>
      obtain ⟨value, has, scalar⟩ := inJson_isSome_iff.1 (Option.isSome_of_eq_some held)
      obtain ⟨shown, shows⟩ := Json.Value.exists_showsAs scalar
      rw [told has shows] at held
      obtain rfl := Option.some.inj held
      exact .found has shows
  · intro answers
    cases answers with
    | found has shows => exact told has shows
    | missed lacks => exact inJson_eq_none_iff.2 lacks

/-! ## The steps of a device -/

/-- Adds bytes to the area, as many as there is room for. -/
def push (area : Lookup) (b : Bytes) : Lookup where
  scratch := area.scratch ++ b.take (capacity - area.scratch.length)
  cut := area.cut || decide (capacity - area.scratch.length < b.length)

/-- Writes a string into the empty area, up to the last boundary that has room. There is no result
if the search for one goes back beyond the start. -/
def writeString? (s : String) : Option Lookup :=
  let octets := Utf8.encode s
  (Utf8.lastBoundary? octets (min octets.length capacity)).map fun stop =>
    { ({} : Lookup).push (octets.take stop) with cut := decide (stop < octets.length) }

/-- Writes a value into the empty area. A number is printed in pieces, which are added one after
another. -/
def write? (pieces : Json.Number → List String) : Json.Value → Option (Bool × Lookup)
  | .string s => (writeString? s).map fun area => (true, area)
  | .number n => some (true, ((pieces n).map Utf8.encode).foldl push {})
  | .bool b => some (true, ({} : Lookup).push (Utf8.encode (if b then "true" else "false")))
  | .null | .array _ | .object _ => some (false, {})

/-- Looks for a key in a JSON body and writes its value. -/
def fillJson? (pieces : Json.Number → List String) (area : Lookup) (request : Request)
    (key : String) : Option (Bool × Lookup) :=
  if hasMediaType request MediaType.json then
    match (Json.Value.parse? request.body).bind (·.field? key) with
    | some value => write? pieces value
    | none => some (false, area)
  else some (false, area)

theorem push_nil (area : Lookup) : area.push [] = area := by
  rw [push, List.take_nil, List.append_nil, List.length_nil, decide_eq_false (Nat.not_lt_zero _),
    Bool.or_false]

/-- Adding bytes in two parts adds all of them. -/
theorem push_push (area : Lookup) (b b' : Bytes) : (area.push b).push b' = area.push (b ++ b') := by
  have room : capacity - (area.push b).scratch.length =
      capacity - area.scratch.length - b.length := by
    rw [push, List.length_append, List.length_take]
    omega
  rw [push, room, push, push, List.take_append, List.append_assoc, List.length_append, Bool.or_assoc]
  congr 2
  rw [Bool.eq_iff_iff, Bool.or_eq_true, decide_eq_true_iff, decide_eq_true_iff, decide_eq_true_iff]
  omega

theorem foldl_push (area : Lookup) (pieces : List Bytes) :
    pieces.foldl push area = area.push pieces.flatten := by
  induction pieces generalizing area with
  | nil => exact (push_nil area).symm
  | cons b pieces ih => rw [List.foldl_cons, ih, push_push, List.flatten_cons]

theorem push_empty_of_fits {b : Bytes} (fits : b.length ≤ 127) :
    ({} : Lookup).push b = ⟨b, false⟩ := by
  rw [push, List.take_of_length_le (by exact fits), decide_eq_false (by exact Nat.not_lt.2 fits)]
  rfl

/-- The search for a boundary ends, and the string is cut where the longest beginning that has room
ends. -/
theorem writeString?_eq (s : String) : writeString? s = some (ofText s) := by
  have longest := Utf8.isLongestFitting_fittingChars 127 s.toList
  have stops : Utf8.lastBoundary? (Utf8.encode s) (min (Utf8.encode s).length capacity) =
      some (Utf8.size (fittingChars 127 s.toList)) := by
    rw [Utf8.encode, Utf8.length_encodeChars]
    exact Utf8.lastBoundary?_encodeChars 127 s.toList
  have front : (Utf8.encode s).take (Utf8.size (fittingChars 127 s.toList)) =
      Utf8.encodeChars (fittingChars 127 s.toList) := Utf8.take_size_encodeChars longest.begins
  have shorter := Utf8.size_lt_iff_of_begins longest.begins
  rw [← Utf8.length_encodeChars s.toList, ← Utf8.encode] at shorter
  have pushed : ({} : Lookup).push (Utf8.encodeChars (fittingChars 127 s.toList)) = _ :=
    push_empty_of_fits (by rw [Utf8.length_encodeChars]; exact longest.fits)
  simp only [writeString?, stops, Option.map_some, front, pushed, ofText_eq longest, shorter]

/-- The last character of 128 bytes lies on both sides of the limit. -/
example : writeString? (String.ofList (List.replicate 126 'x' ++ ['é'])) =
    some ⟨List.replicate 126 120, true⟩ := by
  rw [writeString?, Utf8.encode, String.toList_ofList]
  decide +kernel

theorem write?_eq_ofJson {pieces : Json.Number → List String}
    (short : ∀ n, value = .number n → n.text.utf8ByteSize ≤ 127)
    (printed : ∀ n, String.join (pieces n) = n.text) :
    write? pieces value = some (ofJson value) := by
  cases value with
  | string s => rw [write?, writeString?_eq, Option.map_some, ofJson]
  | number n =>
    have text : ((pieces n).map Utf8.encode).flatten = Utf8.encode n.text := by
      rw [← printed n, String.join, Utf8.encode_foldl_append]
      rfl
    have fits := short n rfl
    rw [write?, foldl_push, text, push_empty_of_fits (by rwa [Utf8.length_encode]), ofJson,
      ofText_of_fits fits]
  | bool b =>
    cases b <;> rw [write?, push_empty_of_fits (by decide), ofJson, ofText_of_fits (by decide)] <;>
      rfl
  | _ => rfl

theorem fillJson?_eq_fill {pieces : Json.Number → List String}
    (short : ∀ n, HasJsonField request key (.number n) → n.text.utf8ByteSize ≤ 127)
    (printed : ∀ n, String.join (pieces n) = n.text) :
    area.fillJson? pieces request key = some (area.fill request key .json) := by
  by_cases isJson : hasMediaType request MediaType.json = true
  · rw [fillJson?, fill, if_pos isJson, if_pos isJson]
    cases field : (Json.Value.parse? request.body).bind (·.field? key) with
    | none => rfl
    | some value =>
      have has := hasJsonField_iff.2 ⟨isJson, field⟩
      exact write?_eq_ofJson (fun n eq => short n (eq ▸ has)) printed
  · rw [fillJson?, fill, if_neg isJson, if_neg isJson]

/-! ## Lookups -/

/-- How a lookup in a JSON body answers. -/
structure AnswersFromJson (area : Lookup) (request : Request) (key : String) : Prop where
  /-- The answer is the one that the value under the key leads to. -/
  answer_iff : ∀ answer,
    (area.inJson request key).1 = answer ↔ JsonAnswers request key answer
  /-- Something is found exactly if there is a string, a number or a boolean under the key. -/
  found_iff : (area.inJson request key).1.isSome = true ↔
    ∃ value, HasJsonField request key value ∧ value.IsScalar
  /-- What is found is UTF-8. -/
  text : ∀ found, (area.inJson request key).1 = some found → ∃ text, found.text? = some text
  /-- A device that fills the area by steps fills it with this answer, in whatever pieces it prints
  the numbers. -/
  stepwise : ∀ pieces : Json.Number → List String, (∀ n, String.join (pieces n) = n.text) →
    area.fillJson? pieces request key = some (area.fill request key .json)

/-- **A lookup in a JSON body answers with the text of the value under the key**, cut between
characters. The text of a number is short enough to be complete. -/
theorem answersFromJson (area : Lookup) (request : Request) (key : String)
    (short : ∀ n, HasJsonField request key (.number n) → n.text.utf8ByteSize ≤ 127) :
    area.AnswersFromJson request key where
  answer_iff _ := inJson_eq_iff short
  found_iff := inJson_isSome_iff
  text _ held := exists_text?_of_inJson held
  stepwise _ printed := fillJson?_eq_fill short printed

/-- Of two members with the key, the later one is a number. -/
theorem answersFromJson_of_number :
    let request : Request := {
      bytes := []
      line := ⟨.empty, .empty, .empty, 1, 1⟩
      headerBlock := Utf8.encode "Content-Type: application/json\r\n\r\n"
      body := Utf8.encode "\x7b\"k\":\"one\",\"k\":1.50\x7d"
      contentLength := 0 }
    let area : Lookup := { scratch := [1], cut := true }
    (∀ n, HasJsonField request "k" (.number n) → n.text.utf8ByteSize ≤ 127) ∧
      area.AnswersFromJson request "k" ∧
        (area.inJson request "k").1 = some ⟨Utf8.encode "1.5", .json, false⟩ := by
  intro request area
  have filled : area.fill request "k" .json = (true, ⟨Utf8.encode "1.5", false⟩) := by
    decide +kernel
  have short : ∀ n, HasJsonField request "k" (.number n) → n.text.utf8ByteSize ≤ 127 := by
    intro n has
    have written := (fill_of_hasJsonField has).symm.trans filled
    have unmarked : (ofText n.text).cut = false := congrArg (·.2.cut) written
    exact Nat.not_lt.1 (of_decide_eq_false unmarked)
  exact ⟨short, answersFromJson area request "k" short, by rw [inJson, inPlace_of_fill filled]⟩

/-! ## The empty key -/

/-- Nothing is found for the empty key among pairs. -/
theorem inPairs_emptyKey (area : Lookup) (data : Bytes) : area.inPairs data "" = (false, area) := rfl

theorem inQuery_emptyKey (area : Lookup) (request : Request) :
    (area.inQuery request "").1 = none := by
  apply inPlace_of_missed
  rw [fill, inPairs_emptyKey]

theorem inForm_emptyKey (area : Lookup) (request : Request) :
    (area.inForm request "").1 = none := by
  apply inPlace_of_missed
  rw [fill]
  split
  · rw [inPairs_emptyKey]
  · rfl

/-- How lookups of the empty key answer. -/
structure AnswersEmptyKey (area : Lookup) (request : Request) : Prop where
  query : (area.inQuery request "").1 = none
  form : (area.inForm request "").1 = none
  /-- In JSON the empty key is one like any other. -/
  json_iff : (area.inJson request "").1 = none ↔
    ∀ value, HasJsonField request "" value → ¬ value.IsScalar
  /-- So a lookup in all places answers with the member of a JSON body. -/
  anywhere : (area.anywhere request "").1 = (area.inJson request "").1

/-- **The empty key is found in JSON bodies only**, and there exactly if it is the key of a string,
a number or a boolean. -/
theorem answersEmptyKey (area : Lookup) (request : Request) : area.AnswersEmptyKey request where
  query := inQuery_emptyKey area request
  form := inForm_emptyKey area request
  json_iff := inJson_eq_none_iff
  anywhere := by
    have query : (({} : Lookup).inPlace request "" .query).1 = none := inQuery_emptyKey {} request
    have form : (({} : Lookup).inPlace request "" .form).1 = none := inForm_emptyKey {} request
    rw [Lookup.anywhere, inPlaces_eq_findSome?, List.findSome?_cons, query, List.findSome?_cons, form,
      List.findSome?_singleton]
    exact inPlace_alike {} area request "" .json

/-- A body with the empty key, which is found. -/
theorem emptyKey_found_in_body :
    let sent := Utf8.encode
      "POST / HTTP/1.1\r\nContent-Type: application/json\r\n\r\n\x7b\"\":\"a\"\x7d"
    let found : Found := ⟨Utf8.encode "a", .json, false⟩
    ∃ request, Request.ofBytes sent = .ok request ∧
      (({} : Lookup).inJson request "").1 = some found ∧
        (({} : Lookup).anywhere request "").1 = some found := by
  intro sent found
  let request : Request := {
    bytes := sent
    line := ⟨.ofString "POST", .ofString "/", .empty, 1, 1⟩
    headerBlock := Utf8.encode "Content-Type: application/json\r\n\r\n"
    body := Utf8.encode "\x7b\"\":\"a\"\x7d"
    contentLength := 0 }
  have read : Request.ofBytes sent = .ok request := by decide +kernel
  exact ⟨request, read, by decide +kernel, by decide +kernel⟩

end Lookup

end DeviceHttp
