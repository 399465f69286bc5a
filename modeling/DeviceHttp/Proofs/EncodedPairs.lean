import DeviceHttp.Lookup
import DeviceHttp.Proofs.SentLine
import DeviceHttp.Proofs.WrittenRequest

/-!
# Looking up a pair that was encoded

A peer that fills in a form, or links to a page with a query, encodes every value byte by byte, and
has a choice for most of them. `EncodedAs` allows all of these choices, so it relates one value to
many texts. **A lookup finds the value whichever text was chosen** (`Lookup.found_of_binds`), in a
form as well as in a query that was sent on a request line.

The pair may stand among others. `Binds` asks only that it is the first one with its key: the
segments before it may have no equals sign, several of them, or an empty name, and what follows may
be anything.

## How

A literal byte is never an ampersand, a percent sign or a plus sign. So the encoded value ends where
its segment ends, and the decoder can tell at every byte how it was written
(`WritesByte.decodeFirst`). Equals signs may be literal, because a segment is cut at its first one
and no key holds one. The scratch area has room for every value of at most 127 bytes, so nothing is
cut however long the encoded text is.
-/

namespace DeviceHttp

/-! ## Encoded values -/

/-- The hexadecimal digit of a number below sixteen, with a capital or a small letter. -/
def hexDigit (capital : Bool) (n : Nat) : UInt8 :=
  UInt8.ofNat (if n < 10 then 48 + n else if capital then 55 + n else 87 + n)

/-- The ways to write a byte of a value. -/
inductive WritesByte : UInt8 → Bytes → Prop where
  /-- Any byte but the ampersand, the percent sign and the plus sign stands for itself. -/
  | itself {b : UInt8} : b ∉ [38, 37, 43] → WritesByte b [b]
  /-- A plus sign stands for a space. -/
  | plus : WritesByte 32 [43]
  /-- A percent sign and two hexadecimal digits, each with a letter of either case. -/
  | escaped (b : UInt8) (high low : Bool) :
      WritesByte b [37, hexDigit high (b.toNat / 16), hexDigit low (b.toNat % 16)]

/-- A value and a text that encodes it, byte by byte. -/
inductive EncodedAs : Bytes → Bytes → Prop where
  | nil : EncodedAs [] []
  | cons {b : UInt8} {piece value raw : Bytes} : WritesByte b piece → EncodedAs value raw →
      EncodedAs (b :: value) (piece ++ raw)

theorem hexValue?_hexDigit (capital : Bool) {n : Nat} (h : n < 16) :
    Bytes.hexValue? (hexDigit capital n) = some (UInt8.ofNat n) := by
  have digits : ∀ (capital : Bool) (n : Fin 16),
      Bytes.hexValue? (hexDigit capital n) = some (UInt8.ofNat n) := by decide
  exact digits capital ⟨n, h⟩

theorem hexDigit_ne_ampersand (capital : Bool) {n : Nat} (h : n < 16) :
    hexDigit capital n ≠ 38 := by
  have digits : ∀ (capital : Bool) (n : Fin 16), hexDigit capital n ≠ 38 := by decide
  exact digits capital ⟨n, h⟩

/-- A byte is made up of its two hexadecimal digits. -/
theorem sixteen_mul_add (b : UInt8) :
    16 * UInt8.ofNat (b.toNat / 16) + UInt8.ofNat (b.toNat % 16) = b := by
  have small := b.toNat_lt
  rw [← UInt8.toNat_inj]
  simp only [UInt8.toNat_add, UInt8.toNat_mul, UInt8.toNat_ofNat', UInt8.toNat_ofNat]
  omega

namespace WritesByte

variable {b : UInt8} {piece : Bytes}

/-- However a byte is written, the decoder reads it and stops behind it. -/
theorem decodeFirst (written : WritesByte b piece) (rest : Bytes) :
    ∃ first tail, piece = first :: tail ∧
      Lookup.decodeFirst first (tail ++ rest) = (b, rest) := by
  cases written with
  | itself literal =>
    have percent : b ≠ 37 := fun eq => literal (by rw [eq]; decide)
    have plus : b ≠ 43 := fun eq => literal (by rw [eq]; decide)
    refine ⟨b, [], rfl, ?_⟩
    unfold Lookup.decodeFirst
    rw [if_neg plus, if_neg percent, List.nil_append]
  | plus => exact ⟨43, [], rfl, rfl⟩
  | escaped _ high low =>
    have small := b.toNat_lt
    have highDigit := hexValue?_hexDigit high (show b.toNat / 16 < 16 by omega)
    have lowDigit := hexValue?_hexDigit low (show b.toNat % 16 < 16 by omega)
    refine ⟨37, _, rfl, ?_⟩
    unfold Lookup.decodeFirst
    rw [if_neg (by decide), if_pos rfl]
    simp only [List.cons_append, List.nil_append, highDigit, lowDigit, sixteen_mul_add]

theorem notMem_ampersand (written : WritesByte b piece) : 38 ∉ piece := by
  cases written with
  | itself literal =>
    rintro mem
    exact literal (List.mem_singleton.1 mem ▸ List.mem_cons_self)
  | plus => decide
  | escaped _ high low =>
    have small := b.toNat_lt
    have highDigit := hexDigit_ne_ampersand high (show b.toNat / 16 < 16 by omega)
    have lowDigit := hexDigit_ne_ampersand low (show b.toNat % 16 < 16 by omega)
    simp [highDigit.symm, lowDigit.symm]

end WritesByte

namespace EncodedAs

variable {value raw : Bytes}

/-- An encoded value does not end its segment. -/
theorem notMem_ampersand (encoded : EncodedAs value raw) : 38 ∉ raw := by
  induction encoded with
  | nil => exact List.not_mem_nil
  | cons written _ ih =>
    rw [List.mem_append]
    exact fun mem => mem.elim written.notMem_ampersand ih

/-- **Decoding gives back the value**, behind what the scratch area holds already. -/
theorem pushDecoded (encoded : EncodedAs value raw) {area : Lookup}
    (fits : area.scratch.length + value.length ≤ Lookup.capacity) :
    Lookup.pushDecoded area raw = { area with scratch := area.scratch ++ value } := by
  induction encoded generalizing area with
  | nil => rw [Lookup.pushDecoded, List.append_nil]
  | @cons b piece value raw written _ ih =>
    obtain ⟨first, tail, rfl, decoded⟩ := written.decodeFirst raw
    rw [List.length_cons] at fits
    have room : area.scratch.length < Lookup.capacity := by omega
    have fits' : (area.scratch ++ [b]).length + value.length ≤ Lookup.capacity := by
      rw [List.length_append, List.length_singleton]
      omega
    rw [List.cons_append, Lookup.pushDecoded, if_pos room, decoded]
    simp only
    rw [ih fits', List.append_assoc, List.singleton_append]

end EncodedAs

/-! ## Pairs -/

/-- The segment is a pair with the key. A key holds no equals sign, so the name of the segment, up
to its first equals sign, is the key. -/
def IsPairOf (key : String) (segment : Bytes) : Prop :=
  ∃ raw, segment = Utf8.encode key ++ 61 :: raw

/-- The data are segments between ampersands, and the first pair among them with the key encodes the
value. -/
inductive Binds (key : String) (value : Bytes) : Bytes → Prop where
  | intro {before after : List Bytes} {raw : Bytes} :
      (∀ segment ∈ before, 38 ∉ segment ∧ ¬ IsPairOf key segment) → EncodedAs value raw →
        Binds key value ([38].intercalate (before ++ (Utf8.encode key ++ 61 :: raw) :: after))

namespace Lookup

variable {key : String} {value data : Bytes}

/-- The raw value of a segment, if the segment is a pair with the key. -/
def pairValue? (key : String) (segment : Bytes) : Option Bytes := do
  let (name, value) ← cut? (· == 61) segment
  if name = Utf8.encode key then some value else none

theorem pair?_eq_findSome? (nonempty : key ≠ "") (data : Bytes) :
    pair? data key = (segments (· == 38) data).findSome? (pairValue? key) := by
  rw [pair?, if_neg (fun empty => nonempty (String.isEmpty_iff.1 empty))]
  rfl

theorem pairValue?_of_not_isPairOf {segment : Bytes} (other : ¬ IsPairOf key segment) :
    pairValue? key segment = none := by
  rw [pairValue?]
  cases cut : cut? (· == 61) segment with
  | none => rfl
  | some pieces =>
    obtain ⟨name, raw⟩ := pieces
    obtain ⟨m, eq, mark, -⟩ := cut?_eq_some_iff.1 cut
    refine if_neg fun same => other ⟨raw, ?_⟩
    rw [eq, beq_iff_eq.1 mark]
    exact congrArg (· ++ _) same

theorem pairValue?_pair (plain : '=' ∉ key.toList) (raw : Bytes) :
    pairValue? key (Utf8.encode key ++ 61 :: raw) = some raw := by
  have unmarked : ∀ b ∈ Utf8.encode key, (b == 61) = false :=
    unmarked_of_notMem (Utf8.notMem_encodeChars plain)
  rw [pairValue?, cut?_append_cons unmarked rfl]
  exact if_pos rfl

/-- The first pair with the key is found, and what is behind its equals sign encodes the value. -/
theorem pair?_of_binds (nonempty : key ≠ "") (plain : Avoids ['&', '='] key.toList)
    (binds : Binds key value data) : ∃ raw, pair? data key = some raw ∧ EncodedAs value raw := by
  obtain @⟨before, after, raw, others, encoded⟩ := binds
  refine ⟨raw, ?_, encoded⟩
  have inKey : 38 ∉ Utf8.encode key :=
    Utf8.notMem_encodeChars (plain.notMem (m := '&') List.mem_cons_self)
  have unmarked : ∀ segment ∈ before ++ [Utf8.encode key ++ 61 :: raw], 38 ∉ segment := by
    intro segment mem
    rcases List.mem_append.1 mem with mem | mem
    · exact (others segment mem).1
    · rw [List.mem_singleton.1 mem]
      simp [inKey, encoded.notMem_ampersand]
  obtain ⟨more, found⟩ : ∃ more, segments (· == 38) ([38].intercalate
      (before ++ [Utf8.encode key ++ 61 :: raw] ++ after)) =
        before ++ [Utf8.encode key ++ 61 :: raw] ++ more :=
    exists_segments_intercalate rfl
      (List.append_ne_nil_of_right_ne_nil before (List.cons_ne_nil _ _))
      (fun segment mem => unmarked_of_notMem (unmarked segment mem)) after
  have missed : before.findSome? (pairValue? key) = none :=
    List.findSome?_eq_none_iff.2 fun segment mem =>
      pairValue?_of_not_isPairOf (others segment mem).2
  rw [List.append_assoc, List.singleton_append] at found
  rw [pair?_eq_findSome? nonempty, found, List.append_assoc, List.findSome?_append, missed,
    Option.none_or, List.singleton_append, List.findSome?_cons,
    pairValue?_pair (plain.notMem (by decide))]

/-- Data without a pair with the key have none. -/
theorem pair?_eq_none (absent : ∀ segment ∈ segments (· == 38) data, ¬ IsPairOf key segment) :
    pair? data key = none := by
  by_cases empty : key = ""
  · rw [pair?, empty]
    rfl
  · rw [pair?_eq_findSome? empty]
    exact List.findSome?_eq_none_iff.2 fun segment mem =>
      pairValue?_of_not_isPairOf (absent segment mem)

/-- The value that the first pair encodes fills the scratch area, and none of it is cut. -/
theorem inPairs_of_binds (nonempty : key ≠ "") (plain : Avoids ['&', '='] key.toList)
    (fits : value.length ≤ capacity) (binds : Binds key value data) (area : Lookup) :
    area.inPairs data key = (true, { scratch := value, cut := false }) := by
  obtain ⟨raw, found, encoded⟩ := pair?_of_binds nonempty plain binds
  have room : ({} : Lookup).scratch.length + value.length ≤ capacity := by
    rwa [List.length_nil, Nat.zero_add]
  rw [inPairs, found]
  simp only [encoded.pushDecoded room, List.nil_append]

theorem inPairs_of_absent (absent : ∀ segment ∈ segments (· == 38) data, ¬ IsPairOf key segment)
    (area : Lookup) : area.inPairs data key = (false, area) := by
  rw [inPairs, pair?_eq_none absent]

/-! ## Places -/

variable {request : Request}

/-- The lookup in a place, and the one that begins there, find what the place holds. -/
theorem found_of_fill {area filled : Lookup} {origin : Origin}
    (h : area.fill request key origin = (true, filled)) (others : List Origin) :
    (area.inPlace request key origin).1 = some ⟨filled.scratch, origin, filled.cut⟩ ∧
      (area.inPlaces request key (origin :: others)).1 =
        some ⟨filled.scratch, origin, filled.cut⟩ := by
  have found : area.inPlace request key origin =
      (some ⟨filled.scratch, origin, filled.cut⟩, filled) := by
    rw [inPlace, h]
  rw [inPlaces, found]
  exact ⟨rfl, rfl⟩

/-- A lookup passes over a place without the key. -/
theorem inPlaces_cons_of_fill {area : Lookup} {origin : Origin}
    (h : area.fill request key origin = (false, area)) (others : List Origin) :
    area.inPlaces request key (origin :: others) = area.inPlaces request key others := by
  have missed : area.inPlace request key origin = (none, area) := by
    rw [inPlace, h]
  rw [inPlaces, missed]

/-- The lookups find the value in the query. -/
def FindsInQuery (area : Lookup) (request : Request) (key : String) (value : Bytes) : Prop :=
  (area.inQuery request key).1 = some ⟨value, .query, false⟩ ∧
    (area.anywhere request key).1 = some ⟨value, .query, false⟩

theorem findsInQuery_of_binds (nonempty : key ≠ "") (plain : Avoids ['&', '='] key.toList)
    (fits : value.length ≤ capacity) (binds : Binds key value (Utf8.encode request.query))
    (area : Lookup) : area.FindsInQuery request key value := by
  have filled : area.fill request key .query = (true, { scratch := value, cut := false }) :=
    inPairs_of_binds nonempty plain fits binds area
  exact found_of_fill filled _

/-- **A lookup finds the value that the first pair with the key encodes**, in a form and in a query
that was sent. The scratch area may hold anything before. -/
theorem found_of_binds (nonempty : key ≠ "") (plain : Avoids ['&', '='] key.toList)
    (fits : value.length ≤ 127) (area : Lookup) :
    (∀ {request : Request}, hasMediaType request MediaType.urlEncodedForm = true →
      Binds key value request.body →
        (area.inForm request key).1 = some ⟨value, .form, false⟩ ∧
        ((∀ segment ∈ segments (· == 38) (Utf8.encode request.query),
            ¬ IsPairOf key segment) →
          (area.anywhere request key).1 = some ⟨value, .form, false⟩)) ∧
    (∀ {d : Bytes} {sent : SentLine} {request : Request}, request.ReadFrom d →
      SentLine.ofBytes? d = some sent → sent.query.utf8ByteSize ≤ 127 →
        Binds key value (Utf8.encode sent.query) → area.FindsInQuery request key value) ∧
    (∀ {m : Message} {query : String}, m.query = some query → m.bytes.length ≤ maxLength →
      Binds key value (Utf8.encode query) →
        ∃ request, Request.ofBytes m.bytes = .ok request ∧
          area.FindsInQuery request key value) := by
  refine ⟨?_, ?_, ?_⟩
  · intro request form binds
    have filled : area.fill request key .form = (true, { scratch := value, cut := false }) := by
      rw [fill, if_pos form]
      exact inPairs_of_binds nonempty plain fits binds area
    refine ⟨(found_of_fill filled []).1, fun absent => ?_⟩
    have missed : area.fill request key .query = (false, area) := inPairs_of_absent absent area
    rw [anywhere, inPlaces_cons_of_fill missed]
    exact (found_of_fill filled _).2
  · intro d sent request read named short binds
    have query : request.query = sent.query := by
      rw [Request.query, (SentLine.isCopiedTo read named).query,
        BoundedText.text_copyOf_of_fits short]
    exact findsInQuery_of_binds nonempty plain fits (query ▸ binds) area
  · intro m query asked short binds
    have same : m.readRequest.query = query := by
      rw [m.isReadAs_readRequest.query, asked, Option.getD_some]
    exact ⟨m.readRequest, m.ofBytes_eq short,
      findsInQuery_of_binds nonempty plain fits (same ▸ binds) area⟩

/-- A pair among segments that resemble it, with a literal equals sign, a byte that is no text, and
escapes in letters of both cases. -/
def crowded : String := "flag&=1&ssid&Ssid=x&ssid=a=+%25%2b%fF&ssid=later"

theorem binds_crowded : Binds "ssid" [97, 61, 32, 37, 43, 255] (Utf8.encode crowded) := by
  have encoded : EncodedAs [97, 61, 32, 37, 43, 255]
      [97, 61, 43, 37, 50, 53, 37, 50, 98, 37, 102, 70] :=
    .cons (.itself (by decide)) <| .cons (.itself (by decide)) <| .cons .plus <|
      .cons (.escaped 37 false false) <| .cons (.escaped 43 false false) <|
        .cons (.escaped 255 false true) .nil
  have put : Utf8.encode crowded = [38].intercalate
      (["flag", "=1", "ssid", "Ssid=x"].map Utf8.encode ++
        (Utf8.encode "ssid" ++ 61 :: [97, 61, 43, 37, 50, 53, 37, 50, 98, 37, 102, 70]) ::
          [Utf8.encode "ssid=later"]) := by
    decide
  rw [put]
  refine .intro ?_ encoded
  intro segment mem
  simp only [List.map_cons, List.map_nil, List.mem_cons, List.not_mem_nil, or_false] at mem
  rcases mem with rfl | rfl | rfl | rfl
  all_goals
    refine ⟨by decide, ?_⟩
    rintro ⟨raw, eq⟩
    have starts := startsWith_iff.2 ⟨raw, eq.trans (List.append_cons _ _ _)⟩
    revert starts
    decide

theorem found_of_binds_crowded :
    let value : Bytes := [97, 61, 32, 37, 43, 255]
    let area : Lookup := { scratch := [120], cut := true }
    let form : Message := {
      method := "POST", path := "/", query := none, major := 1, minor := 1
      fields := [{
        name := Utf8.encode "content-type"
        value := Utf8.encode "application/x-www-form-urlencoded" }]
      body := Utf8.encode crowded }
    let link : Message := {
      method := "GET", path := "/", query := some crowded, major := 1, minor := 1
      fields := [], body := [] }
    (area.inForm form.readRequest "ssid").1 = some ⟨value, .form, false⟩ ∧
      (area.anywhere form.readRequest "ssid").1 = some ⟨value, .form, false⟩ ∧
        area.FindsInQuery link.readRequest "ssid" value ∧
          ∃ request, Request.ofBytes link.bytes = .ok request ∧
            area.FindsInQuery request "ssid" value := by
  intro value area form link
  obtain ⟨inForm, inSent, inQuery⟩ :=
    @found_of_binds "ssid" value (by decide) (by decide) (by decide) area
  have media : hasMediaType form.readRequest MediaType.urlEncodedForm = true := by decide +kernel
  have body : Binds "ssid" value form.readRequest.body := binds_crowded
  have found := inForm media body
  have read : link.readRequest.ReadFrom link.bytes := .whole (link.ofBytes_eq (by decide))
  have named : SentLine.ofBytes? link.bytes = some ⟨"GET", "/", crowded⟩ := by decide +kernel
  refine ⟨found.1, found.2 ?_, inSent read named (by decide) binds_crowded,
    inQuery rfl (by decide) binds_crowded⟩
  have unasked : segments (· == 38) (Utf8.encode form.readRequest.query) = [[]] := by decide
  rw [unasked]
  rintro segment mem ⟨raw, eq⟩
  rw [List.mem_singleton.1 mem] at eq
  exact absurd (congrArg List.length eq) (by simp)

end Lookup

end DeviceHttp
