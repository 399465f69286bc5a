import DeviceHttp.Proofs.Portal

/-!
# What a program is told about its network

A program that names a network in a JSON body is answered with a document that is meant to be JSON
as well: the name, and whether the network is on. The name is written as a quoted text.

Quoting and JSON agree on quotes, on backslashes, and on the three control characters that have
letters. They agree on every character that can be told by its looks, since both write it as it is.
All others are quoted by escapes that JSON does not know: a null character as `\0`, and a mark on
the character before it, or a blank other than the space, by its code point in braces.

**The document is JSON exactly if the name has no such character**, and then it repeats the name
(`SetupPortal.answers_program_in_json`). Accented letters that are sent as a letter and a mark are
among those that make it fail.

## Main definitions

* `Text.isQuotedAsJson` — the characters on which the two agree
* `SetupPortal.RepeatsName` — what the document is meant to be
* `SetupPortal.AnswersProgram` — what it is, for every name

## How

A string is read character by character, so what a quoted text reads as is an induction on its
characters (`Json.readString?_quoted`). The text around the name is fixed, and the items of an
object are read one at a time (`Json.readItems?_of_comma`, `Json.readItems?_of_last`).
-/

namespace DeviceHttp

/-! ## Quoted texts as strings of JSON -/

namespace Text

/-- Whether a character is quoted in a way that JSON knows: with a letter, or as it is. -/
def isQuotedAsJson (c : Char) : Bool :=
  c = '"' || c = '\\' || c = '\n' || c = '\r' || c = '\t' || !isIndistinct c

/-- How JSON may write a character of a string. -/
inductive JsonWrites (c : Char) : List Char → Prop where
  | itself : ¬ c < ' ' → c ≠ '"' → c ≠ '\\' → JsonWrites c [c]
  | letter {l : Char} : Json.simpleEscape? l = some c → JsonWrites c ['\\', l]

/-- The control characters below the space have no looks. -/
theorem isIndistinct_of_lt_space {c : Char} (low : c < ' ') : isIndistinct c = true := by
  have first : (0, 0x1F) ∈ unprintableRanges := List.mem_cons_self
  have range : c.toNat < 0x20 := low
  have control : isUnprintable c = true := by
    refine List.any_eq_true.2 ⟨_, first, ?_⟩
    simp only [Bool.and_eq_true, decide_eq_true_iff]
    omega
  rw [isIndistinct, control]
  rfl

theorem jsonWrites_quoteChar {c : Char} (known : isQuotedAsJson c = true) :
    JsonWrites c (quoteChar c) := by
  unfold quoteChar
  split_ifs with quote backslash feed ret tab null indistinct
  · subst quote
    exact .letter rfl
  · subst backslash
    exact .letter rfl
  · subst feed
    exact .letter rfl
  · subst ret
    exact .letter rfl
  · subst tab
    exact .letter rfl
  · have low : c < ' ' := null ▸ by decide
    simp [isQuotedAsJson, quote, backslash, feed, ret, tab, isIndistinct_of_lt_space low] at known
  · simp [isQuotedAsJson, quote, backslash, feed, ret, tab, indistinct] at known
  · exact .itself (fun low => indistinct (isIndistinct_of_lt_space low)) quote backslash

/-- Every other character is quoted by an escape that JSON does not know. -/
theorem exists_quoteChar_eq {c : Char} (foreign : isQuotedAsJson c = false) :
    ∃ l more, quoteChar c = '\\' :: l :: more ∧ Json.simpleEscape? l = none ∧
      (l = 'u' → ∃ digits, more = '\x7b' :: digits) := by
  simp only [isQuotedAsJson, Bool.or_eq_false_iff, decide_eq_false_iff_not,
    Bool.not_eq_false'] at foreign
  obtain ⟨⟨⟨⟨⟨quote, backslash⟩, feed⟩, ret⟩, tab⟩, indistinct⟩ := foreign
  rw [quoteChar, if_neg quote, if_neg backslash, if_neg feed, if_neg ret, if_neg tab]
  split
  · exact ⟨'0', [], rfl, rfl, fun named => absurd named (by decide)⟩
  · exact ⟨'u', _, rfl, rfl, fun _ => ⟨_, rfl⟩⟩

end Text

namespace Json

open Text

/-- A character that is written as in JSON is read. -/
theorem readString?_of_jsonWrites {c : Char} {written : List Char} (writes : JsonWrites c written)
    (rest : List Char) : readString? (written ++ rest) =
      (readString? rest).map fun (cs, rest) => (c :: cs, rest) := by
  cases writes with
  | itself high quote backslash =>
    rw [List.singleton_append, readString?.eq_5]
    · rw [if_neg (not_or.2 ⟨high, backslash⟩)]
    · exact quote
    · intro _ _ _ _ _ eq
      exact absurd eq backslash
    · intro _ _ eq
      exact absurd eq backslash
  | @letter l named =>
    show readString? ('\\' :: l :: rest) = _
    rw [readString?.eq_4, named]
    -- no letter stands for a character and starts a code point too
    rintro _ _ _ _ _ rfl _
    cases named

/-- An escape that JSON does not know ends the reading. -/
theorem readString?_of_unknown {l : Char} {rest : List Char} (unknown : simpleEscape? l = none)
    (braced : l = 'u' → ∃ digits, rest = '\x7b' :: digits) :
    readString? ('\\' :: l :: rest) = none := by
  by_cases codePoint : ∃ a b c d more, l = 'u' ∧ rest = a :: b :: c :: d :: more
  · obtain ⟨a, b, c, d, more, rfl, rfl⟩ := codePoint
    obtain ⟨digits, eq⟩ := braced rfl
    -- a brace is no digit
    obtain ⟨rfl, -⟩ := List.cons.inj eq
    rw [readString?.eq_3]
    rfl
  · rw [readString?.eq_4, unknown]
    intro a b c d more named eq
    exact codePoint ⟨a, b, c, d, more, named, eq⟩

/-- **A quoted text is a string of JSON exactly if its characters are quoted as in JSON**, and then
it stands for these characters. -/
theorem readString?_quoted (cs rest : List Char) :
    readString? (cs.flatMap quoteChar ++ '"' :: rest) =
      if cs.all isQuotedAsJson then some (cs, rest) else none := by
  induction cs with
  | nil => exact readString?.eq_2 rest
  | cons c cs ih =>
    rw [List.flatMap_cons, List.append_assoc, List.all_cons]
    cases known : isQuotedAsJson c with
    | true =>
      rw [readString?_of_jsonWrites (jsonWrites_quoteChar known), ih, Bool.true_and]
      split <;> rfl
    | false =>
      obtain ⟨l, more, written, unknown, braced⟩ := exists_quoteChar_eq known
      rw [written, List.cons_append, List.cons_append, readString?_of_unknown unknown]
      · rfl
      · intro named
        obtain ⟨digits, eq⟩ := braced named
        exact ⟨_, by rw [eq, List.cons_append]⟩

/-! ## Items of a container -/

section Items

variable {α : Type} {item : List Char → Option (α × List Char)} {close : Char} {cs : List Char}

theorem skipBlanks_cons {c : Char} (visible : isBlank c = false) (rest : List Char) :
    skipBlanks (c :: rest) = c :: rest :=
  List.dropWhile_cons_of_neg (by rw [visible]; exact Bool.false_ne_true)

/-- What does not start with the closing character holds an item. -/
theorem readContainer?_of_item {c : Char} (visible : isBlank c = false) (differs : c ≠ close)
    (rest : List Char) : readContainer? item close (c :: rest) =
      readItems? item close (c :: rest).length (c :: rest) := by
  rw [readContainer?]
  simp only [skipBlanks_cons visible, if_neg differs]

/-- An item that cannot be read ends the reading. -/
theorem readItems?_of_unread (unread : item cs = none) (fuel : Nat) :
    readItems? item close (fuel + 1) cs = none := by
  rw [readItems?]
  simp only [unread]

/-- The closing character ends the items. -/
theorem readItems?_of_last {a : α} {rest : List Char} (read : item cs = some (a, close :: rest))
    (visible : isBlank close = false) (fuel : Nat) :
    readItems? item close (fuel + 1) cs = some ([a], rest) := by
  rw [readItems?]
  simp only [read, skipBlanks_cons visible, if_true]

/-- A comma is followed by another item. -/
theorem readItems?_of_comma {a : α} {rest : List Char} (read : item cs = some (a, ',' :: rest))
    (differs : ',' ≠ close) (fuel : Nat) : readItems? item close (fuel + 1) cs =
      (readItems? item close fuel rest).map fun (items, rest) => (a :: items, rest) := by
  have visible : isBlank ',' = false := rfl
  rw [readItems?]
  simp only [read, skipBlanks_cons visible, if_neg differs, if_true]

end Items

end Json

/-! ## The document -/

namespace SetupPortal

open Json Text

theorem toList_networkJson (ssid : String) (on : Bool) :
    (networkJson ssid on).toList =
      '\x7b' :: '"' :: 's' :: 's' :: 'i' :: 'd' :: '"' :: ':' :: '"' ::
        (ssid.toList.flatMap quoteChar ++
          '"' :: ',' :: '"' :: 'o' :: 'n' :: '"' :: ':' :: ((toString on).toList ++ ['\x7d'])) := by
  unfold networkJson Text.quoted
  simp only [String.toList_append, String.toList_ofList, List.append_assoc]
  rfl

/-- The name is read as a member if it is a string of JSON. -/
theorem readMember?_ssid (depth : Nat) (ssid rest : List Char) :
    readMember? (readValue? depth)
        ('"' :: 's' :: 's' :: 'i' :: 'd' :: '"' :: ':' :: '"' ::
          (ssid.flatMap quoteChar ++ '"' :: rest)) =
      if ssid.all isQuotedAsJson then some (("ssid", .string (String.ofList ssid)), rest)
      else none := by
  have key (rest : List Char) : readString? ('s' :: 's' :: 'i' :: 'd' :: '"' :: rest) =
      some (['s', 's', 'i', 'd'], rest) := rfl
  have scalar : readValue? depth ('"' :: (ssid.flatMap quoteChar ++ '"' :: rest)) =
      (readString? (ssid.flatMap quoteChar ++ '"' :: rest)).map fun (s, rest) =>
        (.string (String.ofList s), rest) := by
    cases depth <;> rfl
  rw [readString?_quoted] at scalar
  show (readString? _ >>= fun _ => _) = _
  rw [key]
  show (readValue? depth _ >>= fun _ => _) = _
  rw [scalar]
  split <;> rfl

theorem readMember?_on (depth : Nat) (on : Bool) :
    readMember? (readValue? depth)
        ('"' :: 'o' :: 'n' :: '"' :: ':' :: ((toString on).toList ++ ['\x7d'])) =
      some (("on", .bool on), ['\x7d']) := by
  cases on <;> cases depth <;> rfl

/-- **The document is an object with the name, or no JSON at all.** -/
theorem parse?_networkJson (ssid : String) (on : Bool) :
    Json.Value.parse? (Utf8.encode (networkJson ssid on)) =
      if ssid.toList.all isQuotedAsJson then
        some (.object [("ssid", .string ssid), ("on", .bool on)])
      else none := by
  have opens : '"' ≠ '\x7d' := by decide
  have more : ',' ≠ '\x7d' := by decide
  have name := readMember?_ssid 126 ssid.toList
    (',' :: '"' :: 'o' :: 'n' :: '"' :: ':' :: ((toString on).toList ++ ['\x7d']))
  rw [String.ofList_toList] at name
  rw [Json.Value.parse?, Utf8.decode?_encode, Option.bind_eq_bind, Option.bind_some,
    toList_networkJson, maxDepth, readValue?.eq_2 _ _ _ rfl, readContainer?_of_item rfl opens,
    List.length_cons]
  by_cases known : ssid.toList.all isQuotedAsJson = true
  · rw [if_pos known] at name ⊢
    rw [readItems?_of_comma name more, List.length_cons,
      readItems?_of_last (readMember?_on 126 on) rfl]
    rfl
  · rw [if_neg known] at name ⊢
    rw [readItems?_of_unread name]
    rfl

/-- The document is JSON, an object with the name of the network and a boolean. -/
def RepeatsName (document : Bytes) (ssid : String) : Prop :=
  ∃ root on, Json.Value.parse? document = some root ∧ root.HasField "ssid" (.string ssid) ∧
    root.HasField "on" (.bool on)

theorem repeatsName_networkJson_iff {ssid : String} {on : Bool} :
    RepeatsName (Utf8.encode (networkJson ssid on)) ssid ↔
      ∀ c ∈ ssid.toList, isQuotedAsJson c = true := by
  rw [RepeatsName, parse?_networkJson, ← List.all_eq_true]
  constructor
  · rintro ⟨root, on', parsed, -⟩
    by_contra foreign
    rw [if_neg foreign] at parsed
    cases parsed
  · intro known
    rw [if_pos known]
    refine ⟨_, on, rfl, ⟨[], [("on", .bool on)], rfl, ?_⟩, ⟨[("ssid", .string ssid)], [], rfl, ?_⟩⟩
    · intro member mem
      rw [List.mem_singleton.1 mem]
      exact ne_of_beq_false rfl
    · exact List.forall_mem_nil _

/-! ## The answer -/

/-- How the portal answers a program whose body names a network, whose name was looked up as
`ssid`. -/
structure AnswersProgram (request : Request) (ssid : String) (document : Bytes) : Prop where
  reply : joinNetworkJson request = .respond (.ok MediaType.json document)
  /-- This is the response that the portal makes, on any exchange. -/
  exchange : ∀ x shutdown,
    (routes.answer x shutdown request).exchange = (x.send (.ok MediaType.json document)).2
  /-- The document is what it should be exactly if JSON knows how each character is quoted. -/
  repeats_iff : RepeatsName document ssid ↔ ∀ c ∈ ssid.toList, isQuotedAsJson c = true
  /-- Otherwise it is no JSON. -/
  invalid_iff : Json.Value.parse? document = none ↔ ∃ c ∈ ssid.toList, isQuotedAsJson c = false

variable {request : Request} {s : String}

theorem find?_of_asks (asks : Asks request "POST" "/api/wifi") :
    routes.find? request = some (.post "/api/wifi" joinNetworkJson) := by
  have elsewhere (route : Route) (other : route.path ≠ "/api/wifi") :
      ¬ route.accepts request = true := by
    intro accepts
    exact other ((Route.accepts_iff.1 accepts).1.symm.trans asks.path)
  rw [RouteTable.find?, routes, List.find?_cons_of_neg, List.find?_cons_of_neg,
    List.find?_cons_of_pos]
  · refine Route.accepts_iff.2 ⟨asks.path, fun method named => ?_⟩
    exact (Option.some.inj named).symm.trans asks.method.symm
  · exact elsewhere (.post "/wifi/apply" joinNetwork) (by decide)
  · exact elsewhere (.get "/" startPage) (by decide)

/-- A name in a JSON body is looked up as the longest beginning that has room. -/
theorem exists_foundText?_of_hasJsonField
    (named : Lookup.HasJsonField request "ssid" (.string s)) :
    ∃ ssid, foundText? (({} : Lookup).inJson request "ssid") = some ssid ∧
      Utf8.IsLongestFitting 127 s.toList ssid.toList := by
  have longest := Utf8.isLongestFitting_fittingChars 127 s.toList
  refine ⟨String.ofList (fittingChars 127 s.toList), ?_, by rwa [String.toList_ofList]⟩
  have held : (({} : Lookup).inJson request "ssid").1 = some _ :=
    Lookup.inJson_of_showsAs named (fun n eq => by cases eq) (.string longest)
  rw [foundText?, held, Option.bind_some, Found.text?, Utf8.decode?_eq_some_iff, Utf8.encode,
    String.toList_ofList]

theorem answersProgram_of_foundText? {ssid : String} (asks : Asks request "POST" "/api/wifi")
    (found : foundText? (({} : Lookup).inJson request "ssid") = some ssid) :
    AnswersProgram request ssid (Utf8.encode (networkJson ssid (wantsOn {} request))) := by
  have reply : joinNetworkJson request =
      .respond (.ok MediaType.json (Utf8.encode (networkJson ssid (wantsOn {} request)))) := by
    simp only [joinNetworkJson, found, wantsOn_alike (({} : Lookup).inJson request "ssid").2]
  refine ⟨reply, ?_, repeatsName_networkJson_iff, ?_⟩
  · intro x shutdown
    rw [(RouteTable.answer_of_found (find?_of_asks asks) x shutdown).2]
    show ((joinNetworkJson request).run x shutdown).exchange = _
    rw [reply]
    rfl
  · rw [parse?_networkJson, ite_eq_right_iff]
    simp

/-- **The portal answers a program in JSON exactly if the name of the network has no character that
is quoted in a way of its own.** Then the document repeats the name that was looked up. -/
theorem answers_program_in_json (asks : Asks request "POST" "/api/wifi")
    (named : Lookup.HasJsonField request "ssid" (.string s)) :
    ∃ ssid document, foundText? (({} : Lookup).inJson request "ssid") = some ssid ∧
      Utf8.IsLongestFitting 127 s.toList ssid.toList ∧ AnswersProgram request ssid document := by
  obtain ⟨ssid, found, longest⟩ := exists_foundText?_of_hasJsonField named
  exact ⟨ssid, _, found, longest, answersProgram_of_foundText? asks found⟩

/-- A name with characters that are quoted, in letters that JSON and quoting share. -/
theorem answers_program_of_quoted_name :
    let request : Request := {
      bytes := []
      line := ⟨.ofString "POST", .ofString "/api/wifi", .empty, 1, 1⟩
      headerBlock := Utf8.encode "Content-Type: application/json\r\n\r\n"
      body := Utf8.encode "\x7b\"ssid\":\"\\\"\\u00e9\\t\\\\\",\"on\":\"no\"\x7d"
      contentLength := 0 }
    Asks request "POST" "/api/wifi" ∧
      Lookup.HasJsonField request "ssid" (.string "\"é\t\\") ∧ ∃ ssid document,
        foundText? (({} : Lookup).inJson request "ssid") = some ssid ∧
          Utf8.IsLongestFitting 127 "\"é\t\\".toList ssid.toList ∧
            AnswersProgram request ssid document := by
  intro request
  have asks : Asks request "POST" "/api/wifi" := ⟨by decide +kernel, by decide +kernel⟩
  have field : (Json.Value.parse? request.body).bind (·.field? "ssid") = some (.string "\"é\t\\") := by
    rw [Json.Value.parse?, Utf8.decode?_encode]
    rfl
  have named : Lookup.HasJsonField request "ssid" (.string "\"é\t\\") :=
    Lookup.hasJsonField_iff.2 ⟨by decide +kernel, field⟩
  exact ⟨asks, named, answers_program_in_json asks named⟩

/-- An accent that is sent behind its letter, and an answer that is no JSON. -/
theorem combined_letter_spoils_document :
    let sent := Utf8.encode
      "POST /api/wifi HTTP/1.1\r\nContent-Type: application/json\r\n\r\n\x7b\"ssid\":\"Cafe\u0301\"\x7d"
    let document := Utf8.encode "\x7b\"ssid\":\"Cafe\\u\x7b301\x7d\",\"on\":true\x7d"
    ∃ request, Request.ofBytes sent = .ok request ∧ Asks request "POST" "/api/wifi" ∧
      Lookup.HasJsonField request "ssid" (.string "Cafe\u0301") ∧
        joinNetworkJson request = .respond (.ok MediaType.json document) ∧
          Json.Value.parse? document = none := by
  intro sent document
  let request : Request := {
    bytes := sent
    line := ⟨.ofString "POST", .ofString "/api/wifi", .empty, 1, 1⟩
    headerBlock := Utf8.encode "Content-Type: application/json\r\n\r\n"
    body := Utf8.encode "\x7b\"ssid\":\"Cafe\u0301\"\x7d"
    contentLength := 0 }
  have asks : Asks request "POST" "/api/wifi" := ⟨by decide +kernel, by decide +kernel⟩
  have field : (Json.Value.parse? request.body).bind (·.field? "ssid") = some (.string "Cafe\u0301") := by
    rw [Json.Value.parse?, Utf8.decode?_encode]
    rfl
  have named : Lookup.HasJsonField request "ssid" (.string "Cafe\u0301") :=
    Lookup.hasJsonField_iff.2 ⟨by decide +kernel, field⟩
  have found : foundText? (({} : Lookup).inJson request "ssid") = some "Cafe\u0301" := by
    decide +kernel
  have answered := answersProgram_of_foundText? asks found
  have written : Utf8.encode (networkJson "Cafe\u0301" (wantsOn {} request)) = document := by
    decide +kernel
  rw [written] at answered
  have foreign : ∃ c ∈ "Cafe\u0301".toList, Text.isQuotedAsJson c = false :=
    ⟨'\u0301', by decide +kernel, by decide +kernel⟩
  exact ⟨request, by decide +kernel, asks, named, answered.reply, answered.invalid_iff.2 foreign⟩

end SetupPortal

end DeviceHttp
