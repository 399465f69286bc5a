import DeviceHttp.Proofs.EncodedPairs
import DeviceHttp.Proofs.RepeatedLookups

/-!
# What a lookup finds in arbitrary bytes

Nothing obliges a peer to send a form that was encoded. Segments may lack their equals sign or have
several, names may repeat, and a percent sign may stand in front of anything or at the end. A lookup
answers all the same, and this module says what.

* `FirstPair` — the pair that counts, told by how the data can be taken apart
* `DecodesTo` — what a raw value stands for, with one rule for each way in which it can begin
* `Lookup.Answers` — the answer that the two lead to, which has as many bytes of the value as fit

**The lookups in a form and in a query give that answer and no other** (`Lookup.answers_iff`).

## How

Both relations are graphs of functions: the data are split in one way only
(`splitsInto_iff`), and of the rules for decoding exactly one applies to any bytes
(`decodesTo_iff`). The decoder of the scratch area takes a step for each rule, and stops when the
area is full. What it leaves out does not show in what it has written (`Lookup.pushDecoded_eq`).
-/

namespace DeviceHttp

/-! ## Values -/

/-- The byte is a hexadecimal digit with the given value, in either case. -/
def IsHexDigit (n : Nat) (digit : UInt8) : Prop := n < 16 ∧ ∃ capital, digit = hexDigit capital n

/-- The bytes begin with two hexadecimal digits. -/
def BeginsWithDigits (raw : Bytes) : Prop :=
  ∃ high low rest, raw = high :: low :: rest ∧ (∃ h, IsHexDigit h high) ∧ ∃ l, IsHexDigit l low

/-- What a raw value stands for. -/
inductive DecodesTo : Bytes → Bytes → Prop where
  | nil : DecodesTo [] []
  /-- A plus sign stands for a space. -/
  | plus {raw value : Bytes} : DecodesTo raw value → DecodesTo (43 :: raw) (32 :: value)
  /-- A percent sign and two hexadecimal digits stand for the byte that they denote. -/
  | escape {h l : Nat} {high low : UInt8} {raw value : Bytes} : IsHexDigit h high →
      IsHexDigit l low → DecodesTo raw value →
        DecodesTo (37 :: high :: low :: raw) (UInt8.ofNat (16 * h + l) :: value)
  /-- Any other percent sign stands for itself. -/
  | percent {raw value : Bytes} : ¬ BeginsWithDigits raw → DecodesTo raw value →
      DecodesTo (37 :: raw) (37 :: value)
  /-- So does any other byte. -/
  | itself {b : UInt8} {raw value : Bytes} : b ≠ 43 → b ≠ 37 → DecodesTo raw value →
      DecodesTo (b :: raw) (b :: value)

theorem hexValue?_of_isHexDigit {n : Nat} {digit : UInt8} (is : IsHexDigit n digit) :
    Bytes.hexValue? digit = some (UInt8.ofNat n) := by
  obtain ⟨small, capital, rfl⟩ := is
  exact hexValue?_hexDigit capital small

instance (n : Nat) (digit : UInt8) : Decidable (IsHexDigit n digit) :=
  inferInstanceAs (Decidable (_ ∧ _))

/-- Only hexadecimal digits have a value. -/
theorem isHexDigit_of_hexValue? {digit value : UInt8} (h : Bytes.hexValue? digit = some value) :
    IsHexDigit value.toNat digit := by
  have digits : ∀ n : Fin UInt8.size, ∀ v ∈ Bytes.hexValue? (UInt8.ofNat n),
      IsHexDigit v.toNat (UInt8.ofNat n) := by decide +kernel
  have held := digits ⟨digit.toNat, digit.toNat_lt⟩ value
  rw [UInt8.ofNat_toNat] at held
  exact held h

namespace Lookup

/-! ## Decoding -/

theorem decodeFirst_escape {h l : Nat} {high low : UInt8} (isHigh : IsHexDigit h high)
    (isLow : IsHexDigit l low) (rest : Bytes) :
    decodeFirst 37 (high :: low :: rest) = (UInt8.ofNat (16 * h + l), rest) := by
  rw [decodeFirst, if_neg (by decide), if_pos rfl]
  simp only [hexValue?_of_isHexDigit isHigh, hexValue?_of_isHexDigit isLow, UInt8.ofNat_add,
    UInt8.ofNat_mul]
  rfl

theorem decodeFirst_percent {rest : Bytes} (plain : ¬ BeginsWithDigits rest) :
    decodeFirst 37 rest = (37, rest) := by
  unfold decodeFirst
  rw [if_neg (by decide), if_pos rfl]
  split
  · next high low after =>
    split
    · next h l isHigh isLow =>
      exact absurd ⟨high, low, after, rfl, ⟨h.toNat, isHexDigit_of_hexValue? isHigh⟩,
        ⟨l.toNat, isHexDigit_of_hexValue? isLow⟩⟩ plain
    · rfl
  · rfl

theorem decodeFirst_itself {b : UInt8} (plus : b ≠ 43) (percent : b ≠ 37) (rest : Bytes) :
    decodeFirst b rest = (b, rest) := by
  unfold decodeFirst
  rw [if_neg plus, if_neg percent]

/-- Some rule applies to any bytes. -/
theorem decodesTo_decoded (raw : Bytes) : DecodesTo raw (decoded raw) := by
  induction raw using decoded.induct with
  | case1 =>
    rw [decoded]
    exact .nil
  | case2 b rest ih =>
    rw [decoded]
    by_cases plus : b = 43
    · subst plus
      exact .plus ih
    · by_cases percent : b = 37
      · subst percent
        by_cases digits : BeginsWithDigits rest
        · obtain ⟨high, low, after, rfl, ⟨h, isHigh⟩, ⟨l, isLow⟩⟩ := digits
          rw [decodeFirst_escape isHigh isLow] at ih ⊢
          exact .escape isHigh isLow ih
        · rw [decodeFirst_percent digits] at ih ⊢
          exact .percent digits ih
      · rw [decodeFirst_itself plus percent] at ih ⊢
        exact .itself plus percent ih

/-- **A raw value stands for one value only**, the one that the decoder makes of it. -/
theorem decodesTo_iff {raw value : Bytes} : DecodesTo raw value ↔ decoded raw = value := by
  constructor
  · intro decodes
    induction decodes with
    | nil => rw [decoded]
    | plus _ ih =>
      rw [decoded, ← ih]
      rfl
    | escape isHigh isLow _ ih => rw [decoded, decodeFirst_escape isHigh isLow, ih]
    | percent digits _ ih => rw [decoded, decodeFirst_percent digits, ih]
    | itself plus percent _ ih => rw [decoded, decodeFirst_itself plus percent, ih]
  · rintro rfl
    exact decodesTo_decoded raw

end Lookup

/-! ## Pairs -/

/-- The data are these pieces, with an ampersand between any two of them. -/
structure SplitsInto (data : Bytes) (pieces : List Bytes) : Prop where
  joined : [38].intercalate pieces = data
  ne_nil : pieces ≠ []
  plain : ∀ piece ∈ pieces, 38 ∉ piece

/-- The segment has a name, an equals sign and a raw value. The name ends at the first equals
sign. -/
structure IsPair (name raw segment : Bytes) : Prop where
  eq : segment = name ++ 61 :: raw
  plain : 61 ∉ name

/-- No piece of the data is a pair with the key. -/
def LacksPair (key : String) (data : Bytes) : Prop :=
  ∃ pieces, SplitsInto data pieces ∧ ∀ piece ∈ pieces, ∀ raw, ¬ IsPair (Utf8.encode key) raw piece

/-- The first pair with the key among the data has the raw value. -/
def FirstPair (key : String) (raw data : Bytes) : Prop :=
  ∃ before segment after, SplitsInto data (before ++ segment :: after) ∧
    IsPair (Utf8.encode key) raw segment ∧
      ∀ piece ∈ before, ∀ other, ¬ IsPair (Utf8.encode key) other piece

/-- **The data are split in one way only.** -/
theorem splitsInto_iff {data : Bytes} {pieces : List Bytes} :
    SplitsInto data pieces ↔ segments (· == 38) data = pieces := by
  rw [segments_eq_iff]
  exact ⟨fun ⟨joined, ne_nil, plain⟩ => ⟨joined, ne_nil, plain⟩,
    fun ⟨joined, ne_nil, plain⟩ => ⟨joined, ne_nil, plain⟩⟩

namespace Lookup

variable {key : String} {data : Bytes}

theorem pairValue?_eq_some_iff {segment raw : Bytes} :
    pairValue? key segment = some raw ↔ IsPair (Utf8.encode key) raw segment := by
  constructor
  · intro found
    obtain ⟨⟨name, value⟩, cut, found⟩ := Option.bind_eq_some_iff.1 found
    obtain ⟨same, kept⟩ := Option.ite_none_right_eq_some.1 found
    obtain ⟨mark, eq, marked, plain⟩ := cut?_eq_some_iff.1 cut
    obtain rfl := beq_iff_eq.1 marked
    obtain rfl : value = raw := Option.some.inj kept
    subst same
    exact ⟨eq, fun inside => absurd (plain 61 inside) (by decide)⟩
  · rintro ⟨rfl, plain⟩
    rw [pairValue?, cut?_append_cons (unmarked_of_notMem plain) rfl]
    exact if_pos rfl

theorem pairValue?_eq_none_iff {segment : Bytes} :
    pairValue? key segment = none ↔ ∀ raw, ¬ IsPair (Utf8.encode key) raw segment := by
  simp only [Option.eq_none_iff_forall_ne_some, ne_eq, pairValue?_eq_some_iff]

/-- The search finds the first pair. -/
theorem pair?_eq_some_iff (nonempty : key ≠ "") {raw : Bytes} :
    pair? data key = some raw ↔ FirstPair key raw data := by
  rw [pair?_eq_findSome? nonempty, List.findSome?_eq_some_iff]
  constructor
  · rintro ⟨before, segment, after, split, found, missed⟩
    refine ⟨before, segment, after, splitsInto_iff.2 split, pairValue?_eq_some_iff.1 found, ?_⟩
    exact fun piece mem => pairValue?_eq_none_iff.1 (missed piece mem)
  · rintro ⟨before, segment, after, split, found, missed⟩
    refine ⟨before, segment, after, splitsInto_iff.1 split, pairValue?_eq_some_iff.2 found, ?_⟩
    exact fun piece mem => pairValue?_eq_none_iff.2 (missed piece mem)

theorem pair?_eq_none_iff (nonempty : key ≠ "") : pair? data key = none ↔ LacksPair key data := by
  rw [pair?_eq_findSome? nonempty, List.findSome?_eq_none_iff]
  constructor
  · intro missed
    exact ⟨_, splitsInto_iff.2 rfl, fun piece mem => pairValue?_eq_none_iff.1 (missed piece mem)⟩
  · rintro ⟨pieces, split, missed⟩
    rw [splitsInto_iff.1 split]
    exact fun piece mem => pairValue?_eq_none_iff.2 (missed piece mem)

/-! ## Answers -/

/-- What the lookup of a key in some data answers: as many bytes as fit of what the first pair with
the key stands for, with a mark if there are more of them, or nothing if there is no such pair. -/
inductive Answers (key : String) (data : Bytes) (origin : Origin) : Option Found → Prop where
  | found {raw value : Bytes} : FirstPair key raw data → DecodesTo raw value →
      Answers key data origin (some {
        value := value.take (min 127 value.length)
        origin
        cut := decide (127 < value.length) })
  | missed : LacksPair key data → Answers key data origin none

/-- The scratch area after a search that found something. -/
theorem inPairs_of_pair? (area : Lookup) {raw : Bytes} (found : pair? data key = some raw) :
    area.inPairs data key = (true, {
      scratch := (decoded raw).take capacity
      cut := decide (capacity < (decoded raw).length) }) := by
  unfold inPairs
  rw [found]
  simp only [pushDecoded_eq ({} : Lookup) raw (Nat.zero_le _), List.nil_append, Bool.false_or]

/-- A lookup that searches data for a pair answers as it should. -/
theorem inPlace_eq_iff (nonempty : key ≠ "") {area : Lookup} {request : Request} {origin : Origin}
    (searches : area.fill request key origin = area.inPairs data key) (answer : Option Found) :
    (area.inPlace request key origin).1 = answer ↔ Answers key data origin answer := by
  have answered : Answers key data origin (area.inPlace request key origin).1 := by
    cases found : pair? data key with
    | none =>
      have missed : (area.fill request key origin).1 = false := by
        rw [searches, inPairs, found]
      rw [inPlace_of_missed missed]
      exact .missed ((pair?_eq_none_iff nonempty).1 found)
    | some raw =>
      rw [inPlace_of_fill (searches.trans (inPairs_of_pair? area found)), List.take_eq_take_min]
      exact .found ((pair?_eq_some_iff nonempty).1 found) (decodesTo_decoded raw)
  refine ⟨fun same => same ▸ answered, fun other => ?_⟩
  -- both relations are graphs of functions, so there is one answer only
  generalize (area.inPlace request key origin).1 = given at answered
  cases answered with
  | missed lacks =>
    cases other with
    | missed => rfl
    | found first =>
      rw [← pair?_eq_some_iff nonempty, (pair?_eq_none_iff nonempty).2 lacks] at first
      cases first
  | found first decodes =>
    rw [← pair?_eq_some_iff nonempty] at first
    cases other with
    | missed lacks =>
      rw [(pair?_eq_none_iff nonempty).2 lacks] at first
      cases first
    | found first' decodes' =>
      rw [← pair?_eq_some_iff nonempty, first] at first'
      cases first'
      rw [← decodesTo_iff.1 decodes, ← decodesTo_iff.1 decodes']

/-- **A lookup in a form or in a query answers what the first pair with the key stands for**, on
whatever bytes, and with a scratch area that may hold anything. The query that is looked up has at
most 127 bytes. -/
theorem answers_iff (nonempty : key ≠ "") (area : Lookup) (request : Request) :
    (hasMediaType request MediaType.urlEncodedForm = true → ∀ answer,
      (area.inForm request key).1 = answer ↔ Answers key request.body .form answer) ∧
    (∀ answer, (area.inQuery request key).1 = answer ↔
      Answers key (Utf8.encode request.query) .query answer) ∧
    (Utf8.encode request.query).length ≤ 127 := by
  refine ⟨fun form answer => ?_, fun answer => ?_, ?_⟩
  · exact inPlace_eq_iff nonempty (by rw [fill, if_pos form]) answer
  · exact inPlace_eq_iff nonempty rfl answer
  · rw [Utf8.length_encode]
    exact request.line.query.fits

/-- A form in which the key has no equals sign first, and then a value that the area has no room
for. The last byte that fits is a percent sign without two digits. The query has no pair. -/
theorem answers_of_cut_value :
    let raw := List.replicate 126 120 ++ Utf8.encode "%4%41"
    let request : Request := {
      bytes := []
      line := ⟨.empty, .empty, .ofString "k&&=k", 1, 1⟩
      headerBlock := Utf8.encode "Content-Type: application/x-www-form-urlencoded\r\n\r\n"
      body := Utf8.encode "k&=1&k=" ++ raw ++ Utf8.encode "&k=later"
      contentLength := 0 }
    let area : Lookup := { scratch := [1], cut := false }
    "k" ≠ "" ∧ hasMediaType request MediaType.urlEncodedForm = true ∧
      Answers "k" request.body .form (some ⟨List.replicate 126 120 ++ [37], .form, true⟩) ∧
        (area.inForm request "k").1 = some ⟨List.replicate 126 120 ++ [37], .form, true⟩ ∧
          Answers "k" (Utf8.encode request.query) .query none ∧
            (Utf8.encode request.query).length ≤ 127 := by
  intro raw request area
  have nonempty : "k" ≠ "" := by decide
  have form : hasMediaType request MediaType.urlEncodedForm = true := by decide +kernel
  have found : (area.inForm request "k").1 =
      some ⟨List.replicate 126 120 ++ [37], .form, true⟩ := by decide +kernel
  have missed : (area.inQuery request "k").1 = none := by decide +kernel
  obtain ⟨inForm, inQuery, short⟩ := answers_iff nonempty area request
  exact ⟨nonempty, form, (inForm form _).1 found, found, (inQuery _).1 missed, short⟩

end Lookup

end DeviceHttp
