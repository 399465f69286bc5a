import DeviceHttp.Proofs.LongestCopy
import DeviceHttp.Proofs.Numerals
import DeviceHttp.Request.Line

/-!
# The grammar of a request line

What a request line may look like is said without a word about how it is read.

* `RequestLine.TokensOf` — the tokens of a text: its pieces between spaces, without the empty ones
* `RequestLine.IsVersion` — a version token and its two numbers
* `RequestLine.DividesInto` — a URI with its path and its query
* `RequestLine.Parses` — what a line is read as, with one rule for each outcome

**Every line is read as this grammar says and in no other way**
(`RequestLine.follows_grammar`). The rules are in an order: the line is UTF-8, then there are three
tokens, then the third one is a version. Nothing but the first three tokens counts, so spaces may be
added where a space stands already, and tokens behind the third one.

## How

Each relation is the graph of a function, so each rule of `Parses` is one way through the reader.
For the spaces, a space keeps what is on its two sides apart: in the octets, where it is no part of
another character (`Utf8.decode?_append_space`), and in the text, where it is no part of a token
(`RequestLine.tokens_append_space`).
-/

namespace DeviceHttp

/-! ## Numerals -/

/-- A numeral: a plus sign or none, and at least one decimal digit. -/
def IsNumeral (cs : List Char) (n : Nat) : Prop :=
  ∃ digits, (cs = digits ∨ cs = '+' :: digits) ∧ digits ≠ [] ∧
    (∀ c ∈ digits, '0' ≤ c ∧ c ≤ '9') ∧ Nat.ofDigitChars 10 digits 0 = n

theorem Text.isDigit_iff {c : Char} : Text.isDigit c = true ↔ '0' ≤ c ∧ c ≤ '9' := by
  rw [Text.isDigit, Bool.and_eq_true, decide_eq_true_eq, decide_eq_true_eq]

/-- What is read as a number below a bound is a numeral. -/
theorem Text.unsigned?_eq_some_iff {bound n : Nat} {cs : List Char} :
    Text.unsigned? bound cs = some n ↔ IsNumeral cs n ∧ n < bound := by
  have reads : Text.unsigned? bound cs = some n ↔ (Text.dropPlus cs ≠ [] ∧
      (∀ c ∈ Text.dropPlus cs, '0' ≤ c ∧ c ≤ '9') ∧
        Nat.ofDigitChars 10 (Text.dropPlus cs) 0 < bound) ∧
          Nat.ofDigitChars 10 (Text.dropPlus cs) 0 = n := by
    rw [Text.unsigned?]
    simp only [Option.ite_none_right_eq_some, Option.some.injEq, List.all_eq_true,
      Text.isDigit_iff]
    rfl
  rw [reads]
  constructor
  · rintro ⟨⟨nonempty, digits, small⟩, rfl⟩
    refine ⟨⟨_, ?_, nonempty, digits, rfl⟩, small⟩
    unfold Text.dropPlus
    split
    · exact .inr rfl
    · exact .inl rfl
  · rintro ⟨⟨digits, signed, nonempty, all, rfl⟩, small⟩
    have unsigned : Text.dropPlus cs = digits := by
      rcases signed with rfl | rfl
      · exact Text.dropPlus_of_digits fun c mem => Text.isDigit_iff.2 (all c mem)
      · rfl
    rw [unsigned]
    exact ⟨⟨nonempty, all, small⟩, rfl⟩

/-! ## Spaces in encoded text -/

namespace Utf8

/-- **A space keeps encoded texts apart**: both sides are decoded alone. -/
theorem decode?_append_space (b b' : Bytes) :
    decode? (b ++ 32 :: b') =
      (decode? b).bind fun s => (decode? b').map fun s' => s ++ (" " ++ s') := by
  have together (s s' : String) : encode s ++ 32 :: encode s' = encode (s ++ (" " ++ s')) := by
    rw [encode_append, encode_append]
    rfl
  apply Option.ext
  intro text
  simp only [Option.bind_eq_some_iff, Option.map_eq_some_iff, decode?_eq_some_iff]
  constructor
  · intro whole
    have marked : encodeChars text.toList = b ++ asciiOctet ' ' :: b' := whole.symm
    obtain ⟨front, back, chars, rfl, rfl⟩ :=
      exists_of_encodeChars_eq_append_cons (by decide) marked
    refine ⟨String.ofList front, ?_, String.ofList back, ?_, ?_⟩
    · rw [encode, String.toList_ofList]
    · rw [encode, String.toList_ofList]
    · rw [← String.toList_inj, chars, String.toList_append, String.toList_append,
        String.toList_ofList, String.toList_ofList, String.toList_ofList]
      rfl
  · rintro ⟨s, rfl, s', rfl, rfl⟩
    exact together s s'

end Utf8

namespace RequestLine

/-! ## Tokens -/

/-- The tokens of a text: what is left of its pieces between spaces without the empty ones. -/
def TokensOf (cs : List Char) (tokens : List (List Char)) : Prop :=
  ∃ pieces, [' '].intercalate pieces = cs ∧ pieces ≠ [] ∧ (∀ piece ∈ pieces, ' ' ∉ piece) ∧
    pieces.filter (!·.isEmpty) = tokens

theorem tokensOf_iff {cs : List Char} {found : List (List Char)} :
    TokensOf cs found ↔ tokens cs = found := by
  constructor
  · rintro ⟨pieces, joined, ne_nil, plain, rfl⟩
    rw [tokens, segments_eq_iff.2 ⟨joined, ne_nil, plain⟩]
  · rintro rfl
    obtain ⟨joined, ne_nil, plain⟩ := segments_eq_iff.1 (Eq.refl (segments (· == ' ') cs))
    exact ⟨_, joined, ne_nil, plain, rfl⟩

/-- **A space keeps tokens apart.** -/
theorem tokens_append_space (cs ds : List Char) :
    tokens (cs ++ ' ' :: ds) = tokens cs ++ tokens ds := by
  have split : segments (· == ' ') (cs ++ ' ' :: ds) =
      segments (· == ' ') cs ++ segments (· == ' ') ds := segments_append_mark rfl cs ds
  rw [tokens, split, List.filter_append]
  rfl

/-! ## Version and URI -/

/-- A version token: `HTTP/` and two numerals with the first dot between them, each of a number
below `2 ^ 32`. -/
def IsVersion (token : List Char) (major minor : Nat) : Prop :=
  ∃ before after, token = "HTTP/".toList ++ (before ++ '.' :: after) ∧ '.' ∉ before ∧
    (IsNumeral before major ∧ major < UInt32.size) ∧ IsNumeral after minor ∧ minor < UInt32.size

theorem version?_eq_some_iff {token : List Char} {major minor : Nat} :
    version? token = some (major, minor) ↔ IsVersion token major minor := by
  simp only [version?, Option.bind_eq_bind, Option.bind_eq_some_iff, Option.pure_def,
    Option.some.injEq, Prod.mk.injEq, Text.unsigned?_eq_some_iff, dropStart?_eq_some_iff]
  constructor
  · rintro ⟨_, rfl, ⟨before, after⟩, cut, _, isMajor, _, isMinor, rfl, rfl⟩
    obtain ⟨dot, rfl, marked, plain⟩ := cut?_eq_some_iff.1 cut
    obtain rfl := beq_iff_eq.1 marked
    refine ⟨before, after, rfl, fun inside => ?_, isMajor, isMinor⟩
    exact absurd (plain _ inside) (by decide)
  · rintro ⟨before, after, rfl, plain, isMajor, isMinor⟩
    exact ⟨_, rfl, (before, after), cut?_append_cons (unmarked_of_notMem plain) rfl after, major,
      isMajor, minor, isMinor, rfl, rfl⟩

/-- A URI and the parts before and after its first question mark. Without one, all of it is the
path. -/
def DividesInto (uri path query : List Char) : Prop :=
  (uri = path ++ '?' :: query ∧ '?' ∉ path) ∨ (uri = path ∧ query = [] ∧ '?' ∉ uri)

theorem dividesInto_iff {uri path query : List Char} :
    DividesInto uri path query ↔ pathAndQuery uri = (path, query) := by
  constructor
  · rintro (⟨rfl, plain⟩ | ⟨rfl, rfl, plain⟩)
    · rw [pathAndQuery, cut?_append_cons (unmarked_of_notMem plain) rfl, Option.getD_some]
    · rw [pathAndQuery, cut?_eq_none_iff.2 (unmarked_of_notMem plain), Option.getD_none]
  · intro divided
    rw [pathAndQuery] at divided
    cases cut : cut? (· == '?') uri with
    | none =>
      rw [cut, Option.getD_none] at divided
      obtain ⟨rfl, rfl⟩ := Prod.mk.inj divided
      refine .inr ⟨rfl, rfl, fun inside => ?_⟩
      exact absurd (cut?_eq_none_iff.1 cut '?' inside) (by decide)
    | some parts =>
      rw [cut, Option.getD_some] at divided
      rw [divided] at cut
      obtain ⟨mark, eq, marked, plain⟩ := cut?_eq_some_iff.1 cut
      obtain rfl := beq_iff_eq.1 marked
      exact .inl ⟨eq, fun inside => absurd (plain _ inside) (by decide)⟩

/-! ## Lines -/

/-- What a line is read as. -/
inductive Parses : Bytes → Except Error RequestLine → Prop where
  | notUtf8 {l : Bytes} : (∀ text, l ≠ Utf8.encode text) → Parses l (.error .lineNotUtf8)
  | malformed {text : String} {tokens : List (List Char)} : TokensOf text.toList tokens →
      tokens.length < 3 → Parses (Utf8.encode text) (.error .malformedLine)
  | badVersion {text : String} {method uri version : List Char} {more : List (List Char)} :
      TokensOf text.toList (method :: uri :: version :: more) →
        (∀ major minor, ¬ IsVersion version major minor) →
          Parses (Utf8.encode text) (.error .malformedVersion)
  /-- The fields are the longest copies that fit of the first token and of the two parts of the
  second one. -/
  | line {text : String} {method uri version path query : List Char} {more : List (List Char)}
      {line : RequestLine} : TokensOf text.toList (method :: uri :: version :: more) →
        IsVersion version line.major line.minor → DividesInto uri path query →
          line.method.IsCopyOf method → line.path.IsCopyOf path → line.query.IsCopyOf query →
            Parses (Utf8.encode text) (.ok line)

theorem ofBytes_encode (text : String) : ofBytes (Utf8.encode text) = ofChars text.toList := by
  rw [ofBytes, Utf8.decode?_encode]

/-- Some rule applies to every line. -/
theorem parses_ofBytes (l : Bytes) : Parses l (ofBytes l) := by
  cases decoded : Utf8.decode? l with
  | none =>
    rw [ofBytes, decoded]
    refine .notUtf8 fun text eq => ?_
    rw [eq, Utf8.decode?_encode] at decoded
    cases decoded
  | some text =>
    obtain rfl := Utf8.decode?_eq_some_iff.1 decoded
    rw [ofBytes_encode, ofChars]
    split
    next method uri version more found =>
      have tokensOf := tokensOf_iff.2 found
      cases read : version? version with
      | none =>
        refine .badVersion tokensOf fun major minor is => ?_
        rw [version?_eq_some_iff.2 is] at read
        cases read
      | some numbers =>
        exact .line tokensOf (version?_eq_some_iff.1 read) (dividesInto_iff.2 rfl)
          (BoundedText.isCopyOf_iff.2 rfl) (BoundedText.isCopyOf_iff.2 rfl)
          (BoundedText.isCopyOf_iff.2 rfl)
    next few =>
      refine .malformed (tokensOf_iff.2 rfl) (Nat.lt_of_not_le fun three => ?_)
      obtain ⟨method, uri, version, more, found⟩ : ∃ method uri version more,
          tokens text.toList = method :: uri :: version :: more := by
        match tokens text.toList, three with
        | method :: uri :: version :: more, _ => exact ⟨method, uri, version, more, rfl⟩
      exact few method uri version more found

/-- No rule gives anything else. -/
theorem Parses.ofBytes_eq {l : Bytes} {result : Except Error RequestLine}
    (parses : Parses l result) : ofBytes l = result := by
  cases parses with
  | notUtf8 invalid =>
    have undecoded : Utf8.decode? l = none :=
      Option.eq_none_iff_forall_ne_some.2 fun text decoded =>
        invalid text (Utf8.decode?_eq_some_iff.1 decoded)
    rw [ofBytes, undecoded]
  | malformed tokensOf few =>
    rw [ofBytes_encode, ofChars, tokensOf_iff.1 tokensOf]
    split
    next => simp only [List.length_cons] at few; omega
    next => rfl
  | @badVersion text method uri version more tokensOf bad =>
    have unread : version? version = none :=
      Option.eq_none_iff_forall_ne_some.2 fun numbers read =>
        bad numbers.1 numbers.2 (version?_eq_some_iff.1 read)
    rw [ofBytes_encode, ofChars, tokensOf_iff.1 tokensOf]
    simp only [unread]
  | line tokensOf is divides method path query =>
    rw [ofBytes_encode, ofChars, tokensOf_iff.1 tokensOf]
    simp only [version?_eq_some_iff.2 is, dividesInto_iff.1 divides,
      BoundedText.isCopyOf_iff.1 method, BoundedText.isCopyOf_iff.1 path,
      BoundedText.isCopyOf_iff.1 query]

/-! ## Spaces and more tokens -/

/-- Only the first three tokens count. -/
theorem ofChars_congr {cs ds : List Char} (same : (tokens cs).take 3 = (tokens ds).take 3) :
    ofChars cs = ofChars ds := by
  rw [ofChars, ofChars]
  match tokens cs, tokens ds, same with
  | _ :: _ :: _ :: _, _ :: _ :: _ :: _, same =>
    simp only [List.take_succ_cons, List.take_zero, List.cons.injEq, and_true] at same
    simp only [same]
  | [], [], _ | [_], [_], _ | [_, _], [_, _], _ => rfl

/-- The tokens of a line, if it is UTF-8. -/
def tokens? (l : Bytes) : Option (List (List Char)) :=
  (Utf8.decode? l).map fun text => tokens text.toList

theorem tokens?_encode (text : String) : tokens? (Utf8.encode text) = some (tokens text.toList) := by
  rw [tokens?, Utf8.decode?_encode, Option.map_some]

/-- Lines with the same first three tokens are read alike. -/
theorem ofBytes_congr {l l' : Bytes}
    (same : (tokens? l).map (List.take 3) = (tokens? l').map (List.take 3)) :
    ofBytes l = ofBytes l' := by
  rw [tokens?, tokens?] at same
  rw [ofBytes, ofBytes]
  match Utf8.decode? l, Utf8.decode? l', same with
  | none, none, _ => rfl
  | some text, some text', same => exact ofChars_congr (Option.some.inj same)

theorem tokens?_append_space (l l' : Bytes) :
    tokens? (l ++ 32 :: l') = (tokens? l).bind fun found => (tokens? l').map (found ++ ·) := by
  rw [tokens?, Utf8.decode?_append_space, tokens?, tokens?]
  cases Utf8.decode? l with
  | none => rfl
  | some text =>
    cases Utf8.decode? l' with
    | none => rfl
    | some text' =>
      have joined : (text ++ (" " ++ text')).toList = text.toList ++ ' ' :: text'.toList := by
        rw [String.toList_append, String.toList_append]
        rfl
      simp only [Option.bind_some, Option.map_some, joined, tokens_append_space]

/-- A space in front adds no token. -/
theorem tokens?_cons_space (l : Bytes) : tokens? (32 :: l) = tokens? l := by
  have nothing : tokens? [] = some [] := tokens?_encode ""
  have apart := tokens?_append_space [] l
  rw [nothing, Option.bind_some, List.nil_append] at apart
  rw [apart]
  exact Option.map_id'

/-- How a request line is read. -/
structure FollowsGrammar (l : Bytes) : Prop where
  /-- A line is read as the grammar says, and the grammar says one thing only. -/
  parses_iff : ∀ result, ofBytes l = result ↔ Parses l result
  /-- Spaces may stand in front. -/
  leading : ofBytes (32 :: l) = ofBytes l
  /-- Where a space stands, one more changes nothing. -/
  repeated : ∀ more : Bytes, ofBytes (l ++ 32 :: 32 :: more) = ofBytes (l ++ 32 :: more)
  /-- Behind three tokens and a space, any text may follow. -/
  further : ∀ {text : String} {tokens : List (List Char)}, l = Utf8.encode text →
    TokensOf text.toList tokens → 3 ≤ tokens.length →
      ∀ more : String, ofBytes (l ++ 32 :: Utf8.encode more) = ofBytes l

/-- **A request line is read by its grammar.** -/
theorem follows_grammar (l : Bytes) : FollowsGrammar l where
  parses_iff result := ⟨fun same => same ▸ parses_ofBytes l, Parses.ofBytes_eq⟩
  leading := ofBytes_congr (by rw [tokens?_cons_space])
  repeated more := by
    apply ofBytes_congr
    rw [tokens?_append_space, tokens?_append_space, tokens?_cons_space]
  further {text found} eq tokensOf three more := by
    apply ofBytes_congr
    rw [tokens?_append_space, eq, tokens?_encode, tokens?_encode, tokensOf_iff.1 tokensOf]
    rw [Option.bind_some, Option.map_some, Option.map_some, Option.map_some,
      List.take_append_of_le_length three]

/-- Numerals may have a sign and zeros in front. -/
example : ofBytes (Utf8.encode " GET  /?a=1 HTTP/+01.007 more") =
    .ok ⟨.ofString "GET", .ofString "/", .ofString "a=1", 1, 7⟩ := by decide +kernel

end RequestLine

end DeviceHttp
