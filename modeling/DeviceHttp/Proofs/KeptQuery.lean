import DeviceHttp.Proofs.LongestCopy
import DeviceHttp.Proofs.PairSearch

/-!
# Lookups in a query that was cut

A request keeps at most 127 bytes of the query that was sent. The copy is marked when it was cut, but
lookups work on its text and do not look at the mark. The mark of a value that was found tells
something else: whether the scratch area was too small. A value of the query is always shorter than
the area, so **it is never marked, and it is what the kept part of the raw value stands for**
(`Lookup.readsKeptQuery`).

* **Found** is a key whose equals sign is among the bytes that are kept.
* **Complete** is a value if the cut is behind it. This holds for a query of at most 127 bytes, and
  for a raw value that ends within the first 124 bytes of a longer one.
* **Cut** is a value that reaches beyond the bytes that are kept. The cut may fall within an escape,
  and then what is left of the escape stands for itself.

## How

A beginning of the data has the pieces of the data up to the one in which it ends, and a beginning
of that one (`exists_segments_append`). So the first pair with a key is the same in both, and only
its raw value may be shorter (`firstPair_iff_of_begins`).
-/

namespace DeviceHttp

/-! ## The place of a pair -/

/-- The first pair with the key among the data has the raw value, which stands behind `start`
bytes. -/
def FirstPairAt (key : String) (start : Nat) (raw data : Bytes) : Prop :=
  ∃ before segment after, SplitsInto data (before ++ segment :: after) ∧
    IsPair (Utf8.encode key) raw segment ∧
      (∀ piece ∈ before, ∀ other, ¬ IsPair (Utf8.encode key) other piece) ∧
        start = (before.flatMap (· ++ [38])).length + (Utf8.encode key).length + 1

variable {key : String} {start : Nat} {raw data kept : Bytes}

theorem FirstPairAt.firstPair (h : FirstPairAt key start raw data) : FirstPair key raw data := by
  obtain ⟨before, segment, after, split, isPair, others, -⟩ := h
  exact ⟨before, segment, after, split, isPair, others⟩

theorem FirstPair.exists_start (h : FirstPair key raw data) :
    ∃ start, FirstPairAt key start raw data := by
  obtain ⟨before, segment, after, split, isPair, others⟩ := h
  exact ⟨_, before, segment, after, split, isPair, others, rfl⟩

theorem SplitsInto.eq_append {before after : List Bytes} {segment : Bytes}
    (split : SplitsInto data (before ++ segment :: after)) :
    data = before.flatMap (· ++ [38]) ++ [38].intercalate (segment :: after) := by
  rw [← split.joined, intercalate_append_cons]

theorem IsPair.length_eq {name segment : Bytes} (h : IsPair name raw segment) :
    segment.length = name.length + 1 + raw.length := by
  rw [h.eq, List.length_append, List.length_cons]
  omega

/-- The raw value stands at its place. -/
theorem FirstPairAt.exists_eq_append (h : FirstPairAt key start raw data) :
    ∃ front back, data = front ++ (raw ++ back) ∧ front.length = start := by
  obtain ⟨before, segment, after, split, isPair, -, rfl⟩ := h
  obtain ⟨back, joined⟩ : ∃ back, [38].intercalate (segment :: after) = segment ++ back := by
    cases after with
    | nil => exact ⟨[], by rw [List.intercalate_singleton, List.append_nil]⟩
    | cons p after => exact ⟨_, by rw [List.intercalate_cons_cons, List.append_assoc]⟩
  refine ⟨before.flatMap (· ++ [38]) ++ (Utf8.encode key ++ [61]), back, ?_, ?_⟩
  · rw [split.eq_append, joined, isPair.eq]
    simp only [List.append_assoc, List.cons_append, List.nil_append]
  · rw [List.length_append, List.length_append, List.length_singleton]
    omega

theorem FirstPairAt.le_length (h : FirstPairAt key start raw data) :
    start + raw.length ≤ data.length := by
  obtain ⟨front, back, rfl, rfl⟩ := h.exists_eq_append
  rw [List.length_append, List.length_append]
  omega

/-- The place of a raw value behind pieces that are no pairs with the key. -/
theorem firstPairAt_of_pieces (before : List Bytes) (plain : Avoids [38, 61] (Utf8.encode key))
    (whole : 38 ∉ raw) (others : ∀ piece ∈ before, 38 ∉ piece ∧
      ∀ other, ¬ IsPair (Utf8.encode key) other piece) :
    FirstPairAt key ((before.flatMap (· ++ [38])).length + (Utf8.encode key).length + 1) raw
      (before.flatMap (· ++ [38]) ++ (Utf8.encode key ++ 61 :: raw)) := by
  refine ⟨before, _, [], ⟨?_, ?_, ?_⟩, ⟨rfl, plain.notMem (by decide)⟩,
    fun piece mem => (others piece mem).2, rfl⟩
  · rw [intercalate_append_cons, List.intercalate_singleton]
  · exact List.append_ne_nil_of_right_ne_nil _ (List.cons_ne_nil _ _)
  · intro piece mem
    rcases List.mem_append.1 mem with mem | mem
    · exact (others piece mem).1
    · rw [List.mem_singleton.1 mem, List.mem_append, List.mem_cons]
      have inKey : 38 ∉ Utf8.encode key := plain.notMem (by decide)
      simp [inKey, whole]

/-- Bytes without a plus or a percent sign stand for themselves. -/
theorem DecodesTo.plain_append {front value : Bytes} (plain : Avoids [43, 37] front)
    (decodes : DecodesTo raw value) : DecodesTo (front ++ raw) (front ++ value) := by
  induction front with
  | nil => exact decodes
  | cons b front ih =>
    have later : Avoids [43, 37] front := fun c mem => plain c (List.mem_cons_of_mem b mem)
    refine .itself ?_ ?_ (ih later)
    · rintro rfl
      exact plain 43 List.mem_cons_self (by decide)
    · rintro rfl
      exact plain 37 List.mem_cons_self (by decide)

/-! ## Beginnings of the data -/

/-- Of a pair that goes on behind the cut, a pair is left if its equals sign is. -/
theorem isPair_take {name last first whole : Bytes} (isPair : IsPair name whole (last ++ first))
    (reached : name.length + 1 ≤ last.length) :
    IsPair name (whole.take (last.length - (name.length + 1))) last := by
  refine ⟨?_, isPair.plain⟩
  have cut := congrArg (List.take last.length) isPair.eq
  rw [List.take_left, List.take_append] at cut
  obtain ⟨n, behind⟩ := Nat.exists_eq_add_of_le reached
  rw [behind] at cut ⊢
  rw [List.take_of_length_le (by omega), show name.length + 1 + n - name.length = n + 1 by omega,
    List.take_succ_cons] at cut
  rw [show name.length + 1 + n - (name.length + 1) = n by omega]
  exact cut

/-- A beginning of the data has the pieces of the data up to the one in which it ends. -/
theorem exists_splitsInto_append (kept rest : Bytes) :
    ∃ (init : List Bytes) (last first : Bytes) (tail : List Bytes),
      SplitsInto kept (init ++ [last]) ∧
        SplitsInto (kept ++ rest) (init ++ (last ++ first) :: tail) := by
  obtain ⟨init, last, first, tail, keptPieces, -, pieces⟩ :=
    exists_segments_append (· == 38) kept rest
  exact ⟨init, last, first, tail, splitsInto_iff.2 keptPieces, splitsInto_iff.2 pieces⟩

/-- **The first pair in a beginning of the data** is the first one in the data, with as much of its
raw value as the beginning holds. It is there as soon as its equals sign is. -/
theorem firstPair_iff_of_begins (begins : kept <+: data) : FirstPair key raw kept ↔
    ∃ start whole, FirstPairAt key start whole data ∧ start ≤ kept.length ∧
      raw = whole.take (kept.length - start) := by
  obtain ⟨rest, rfl⟩ := begins
  obtain ⟨init, last, first, tail, keptSplit, split⟩ := exists_splitsInto_append kept rest
  have length : kept.length = (init.flatMap (· ++ [38])).length + last.length := by
    rw [keptSplit.eq_append, List.intercalate_singleton, List.length_append]
  constructor
  · intro found
    obtain ⟨start, place⟩ := found.exists_start
    have inside := place.le_length
    obtain ⟨before, segment, after, found, isPair, others, start_eq⟩ := place
    have same : before ++ segment :: after = init ++ [last] :=
      (splitsInto_iff.1 found).symm.trans (splitsInto_iff.1 keptSplit)
    rcases after.eq_nil_or_concat with rfl | ⟨later, final, rfl⟩
    · -- the pair is in the piece that was cut
      obtain ⟨rfl, eq⟩ := List.append_inj' same rfl
      obtain rfl := List.singleton_inj.1 eq
      have size := isPair.length_eq
      refine ⟨start, raw ++ first, ⟨before, segment ++ first, tail, split, ?_, others, start_eq⟩,
        by omega, ?_⟩
      · exact ⟨by rw [isPair.eq, List.append_assoc, List.cons_append], isPair.plain⟩
      · rw [List.take_left' (by omega)]
    · -- the pair is in an earlier piece, which is there as a whole
      rw [List.concat_eq_append, ← List.cons_append, ← List.append_assoc] at same
      obtain ⟨rfl, -⟩ := List.append_inj' same rfl
      rw [List.append_assoc, List.cons_append] at split
      exact ⟨start, raw, ⟨before, segment, _, split, isPair, others, start_eq⟩, by omega,
        (List.take_of_length_le (by omega)).symm⟩
  · rintro ⟨start, whole, ⟨before, segment, after, found, isPair, others, start_eq⟩, reached, rfl⟩
    have same : before ++ segment :: after = init ++ (last ++ first) :: tail :=
      (splitsInto_iff.1 found).symm.trans (splitsInto_iff.1 split)
    have inCutPiece : before = init → segment = last ++ first →
        FirstPair key (whole.take (kept.length - start)) kept := by
      rintro rfl rfl
      have shorter := isPair_take isPair (by omega)
      rw [show kept.length - start = last.length - ((Utf8.encode key).length + 1) by omega]
      exact ⟨before, last, [], keptSplit, shorter, others⟩
    rcases List.append_eq_append_iff.1 same with ⟨more, init_eq, eq⟩ | ⟨more, before_eq, eq⟩
    · cases more with
      | nil =>
        rw [List.append_nil] at init_eq
        exact inCutPiece init_eq.symm (List.cons.inj eq).1
      | cons piece more =>
        -- the pair is in an earlier piece, which is there as a whole
        obtain ⟨rfl, -⟩ := List.cons.inj eq
        rw [init_eq, List.append_assoc, List.cons_append] at keptSplit
        have place : FirstPairAt key start whole kept :=
          ⟨before, segment, _, keptSplit, isPair, others, start_eq⟩
        have inside := place.le_length
        rw [List.take_of_length_le (by omega)]
        exact place.firstPair
    · cases more with
      | nil =>
        rw [List.append_nil] at before_eq
        exact inCutPiece before_eq (List.cons.inj eq).1.symm
      | cons piece more =>
        -- the pair is in a later piece, behind the cut
        obtain ⟨rfl, -⟩ := List.cons.inj eq
        rw [before_eq, List.flatMap_append, List.flatMap_cons] at start_eq
        simp only [List.length_append] at start_eq
        omega

theorem FirstPair.length_lt (h : FirstPair key raw data) : raw.length < data.length := by
  obtain ⟨start, place⟩ := h.exists_start
  have inside := place.le_length
  obtain ⟨before, segment, after, -, -, -, start_eq⟩ := place
  omega

namespace Lookup

variable {area : Lookup} {request : Request} {found : Found}

/-! ## The mark -/

/-- Decoding makes no value longer. -/
theorem length_decoded_le (raw : Bytes) : (decoded raw).length ≤ raw.length := by
  induction raw using decoded.induct with
  | case1 => simp only [decoded, Nat.le_refl]
  | case2 b rest ih =>
    have shorter := length_decodeFirst_le b rest
    rw [decoded, List.length_cons, List.length_cons]
    omega

/-- **A value of the query is never marked**: what is kept of a query has room in the area. -/
theorem inQuery_eq_some_iff : (area.inQuery request key).1 = some found ↔
    key ≠ "" ∧ found.origin = .query ∧ found.cut = false ∧
      ∃ raw, FirstPair key raw (Utf8.encode request.query) ∧ DecodesTo raw found.value := by
  by_cases empty : key = ""
  · subst empty
    have missed : (area.inQuery request "").1 = none := inPlace_of_missed rfl
    rw [missed]
    exact iff_of_false (Option.some_ne_none found).symm fun named => named.1 rfl
  have answers : (area.inQuery request key).1 = some found ↔
      Answers key (Utf8.encode request.query) .query (some found) := inPlace_eq_iff empty rfl _
  have short : ∀ {raw value : Bytes}, FirstPair key raw (Utf8.encode request.query) →
      DecodesTo raw value → value.length ≤ 127 := by
    intro raw value first decodes
    have kept := request.line.query.fits
    have inside := first.length_lt
    rw [Utf8.length_encode, Request.query] at inside
    have decoded := length_decoded_le raw
    rw [decodesTo_iff.1 decodes] at decoded
    omega
  rw [answers]
  constructor
  · intro answer
    cases answer with
    | found first decodes =>
      have fits := short first decodes
      refine ⟨empty, rfl, decide_eq_false (by omega), _, first, ?_⟩
      rwa [Nat.min_eq_right fits, List.take_length]
  · rintro ⟨-, origin, unmarked, raw, first, decodes⟩
    have fits := short first decodes
    have answer : Answers key (Utf8.encode request.query) .query _ := .found first decodes
    rw [Nat.min_eq_right fits, List.take_length, decide_eq_false (by omega)] at answer
    obtain ⟨value, _, _⟩ := found
    cases origin
    cases unmarked
    exact answer

/-- A value is found where it is said to be. -/
theorem origin_of_inPlace {origin : Origin} (held : (area.inPlace request key origin).1 = some found) :
    found.origin = origin := by
  unfold inPlace at held
  split at held
  · rw [← Option.some.inj held]
  · cases held

/-- A lookup in all places finds in the query what a lookup in the query finds. -/
theorem anywhere_eq_some_iff (fromQuery : found.origin = .query) :
    (area.anywhere request key).1 = some found ↔ (area.inQuery request key).1 = some found := by
  rw [anywhere, inPlaces_eq_findSome?, inQuery, inPlace_alike area {}]
  constructor
  · intro held
    obtain ⟨origin, -, inOne⟩ := List.exists_of_findSome?_eq_some held
    have same := origin_of_inPlace inOne
    rwa [← same, fromQuery] at inOne
  · intro held
    rw [List.findSome?_cons, held]

/-! ## The query that was sent -/

section Sent

variable {d : Bytes} {sent : SentLine}

/-- A request keeps the longest beginning of the query that fits. -/
theorem isLongestFitting_query (read : request.ReadFrom d)
    (named : SentLine.ofBytes? d = some sent) :
    Utf8.IsLongestFitting 127 sent.query.toList request.query.toList := by
  rw [Request.query, (SentLine.isCopiedTo read named).query]
  exact (BoundedText.isCopyOf_ofString sent.query).longest

theorem isPrefix_query (read : request.ReadFrom d) (named : SentLine.ofBytes? d = some sent) :
    Utf8.encode request.query <+: Utf8.encode sent.query := by
  obtain ⟨rest, whole⟩ := (isLongestFitting_query read named).begins
  refine ⟨Utf8.encodeChars rest, ?_⟩
  rw [Utf8.encode, Utf8.encode, ← whole, Utf8.encodeChars_append]

/-- The lookup finds what the kept part of the raw value stands for. -/
theorem inQuery_of_firstPairAt (read : request.ReadFrom d)
    (named : SentLine.ofBytes? d = some sent) (nonempty : key ≠ "") {value : Bytes}
    (place : FirstPairAt key start raw (Utf8.encode sent.query))
    (reached : start ≤ request.query.utf8ByteSize)
    (decodes : DecodesTo (raw.take (request.query.utf8ByteSize - start)) value) :
    (area.inQuery request key).1 = some ⟨value, .query, false⟩ := by
  rw [← Utf8.length_encode] at reached decodes
  exact inQuery_eq_some_iff.2 ⟨nonempty, rfl, rfl, _,
    (firstPair_iff_of_begins (isPrefix_query read named)).2 ⟨start, raw, place, reached, rfl⟩,
    decodes⟩

end Sent

/-- How a lookup in the query of a request answers, told by the query that was sent. -/
structure ReadsKeptQuery (area : Lookup) (request : Request) (sent : SentLine) (key : String) :
    Prop where
  /-- The request keeps the longest beginning of the query with at most 127 bytes. -/
  kept : Utf8.IsLongestFitting 127 sent.query.toList request.query.toList
  /-- So it keeps all of the query, or at least 124 bytes. -/
  kept_length : request.query = sent.query ∨ 124 ≤ request.query.utf8ByteSize
  /-- If the equals sign of the first pair with the key is kept, the answer is what the kept part of
  the raw value stands for, without a mark. -/
  found : ∀ {start : Nat} {raw value : Bytes}, key ≠ "" →
    FirstPairAt key start raw (Utf8.encode sent.query) → start ≤ request.query.utf8ByteSize →
      DecodesTo (raw.take (request.query.utf8ByteSize - start)) value →
        (area.inQuery request key).1 = some ⟨value, .query, false⟩
  /-- Otherwise nothing is found. -/
  missed : (key ≠ "" → ∀ {start : Nat} {raw : Bytes},
    FirstPairAt key start raw (Utf8.encode sent.query) → request.query.utf8ByteSize < start) →
      (area.inQuery request key).1 = none
  /-- A value that ends in front of the cut is complete. -/
  complete : ∀ {start : Nat} {raw value : Bytes}, key ≠ "" →
    FirstPairAt key start raw (Utf8.encode sent.query) →
      start + raw.length ≤ request.query.utf8ByteSize → DecodesTo raw value →
        (area.inQuery request key).1 = some ⟨value, .query, false⟩
  /-- Every value that is found in a query of at most 127 bytes is complete. -/
  short : sent.query.utf8ByteSize ≤ 127 → ∀ {found : Found},
    (area.inQuery request key).1 = some found →
      ∃ raw, FirstPair key raw (Utf8.encode sent.query) ∧ DecodesTo raw found.value
  /-- A lookup in all places answers the same if it answers from the query. -/
  anywhere : ∀ {found : Found}, found.origin = .query →
    ((area.anywhere request key).1 = some found ↔ (area.inQuery request key).1 = some found)

/-- **A lookup in the query reads what is kept of it**, and never says that something is missing. -/
theorem readsKeptQuery {d : Bytes} {sent : SentLine} (read : request.ReadFrom d)
    (named : SentLine.ofBytes? d = some sent) (area : Lookup) (key : String) :
    area.ReadsKeptQuery request sent key where
  kept := isLongestFitting_query read named
  kept_length := by
    have kept := isLongestFitting_query read named
    rcases Nat.lt_or_ge 127 (Utf8.size sent.query.toList) with long | fits
    · have full := kept.lt_size_add_four long
      rw [← Utf8.utf8ByteSize_eq_size] at full
      exact .inr (by omega)
    · exact .inl (String.toList_inj.1 (kept.eq_self_iff.2 fits))
  found nonempty place reached decodes :=
    inQuery_of_firstPairAt read named nonempty place reached decodes
  missed beyond := by
    refine Option.eq_none_iff_forall_ne_some.2 fun found held => ?_
    obtain ⟨nonempty, -, -, raw, first, -⟩ := inQuery_eq_some_iff.1 held
    have begins := isPrefix_query read named
    obtain ⟨start, whole, place, reached, -⟩ := (firstPair_iff_of_begins begins).1 first
    have behind := beyond nonempty place
    rw [Utf8.length_encode] at reached
    omega
  complete nonempty place inside decodes := by
    refine inQuery_of_firstPairAt read named nonempty place (by omega) ?_
    rwa [List.take_of_length_le (by omega)]
  short fits found held := by
    obtain ⟨-, -, -, raw, first, decodes⟩ := inQuery_eq_some_iff.1 held
    rw [Utf8.utf8ByteSize_eq_size] at fits
    have whole := (isLongestFitting_query read named).eq_self_iff.2 fits
    rw [String.toList_inj.1 whole] at first
    exact ⟨raw, first, decodes⟩
  anywhere := anywhere_eq_some_iff

/-! ## Queries that are cut -/

/-- ASCII text can be sent as a query, and as many characters are kept of it as there are bytes. -/
theorem exists_readFrom_of_ascii {query : List Char} (plain : Avoids [' ', '\r'] query)
    (ascii : query.all (·.toNat ≤ 127) = true) :
    let sent : SentLine := ⟨"GET", "/", String.ofList query⟩
    ∃ request : Request, request.ReadFrom sent.bytes ∧ SentLine.ofBytes? sent.bytes = some sent ∧
      request.query.utf8ByteSize = min 127 query.length := by
  intro sent
  have small : ∀ c ∈ query, c.toNat ≤ 127 := fun c mem =>
    of_decide_eq_true (List.all_eq_true.1 ascii c mem)
  have part {cs : List Char} (plain : Avoids [' ', '\r'] cs) : SentLine.IsPart cs :=
    .of_notMem (plain.notMem (by decide)) (plain.notMem (by decide))
  have chars : sent.query.toList = query := String.toList_ofList
  have sendable : sent.Sendable := {
    method_ne_nil := show "GET".toList ≠ [] by decide
    method := part (show Avoids [' ', '\r'] "GET".toList by decide)
    path := part (show Avoids [' ', '\r'] "/".toList by decide)
    path_plain := show '?' ∉ "/".toList by decide
    query := part (chars ▸ plain) }
  obtain ⟨request, arrived, named⟩ := sendable.exists_readFrom
  refine ⟨request, arrived, named, ?_⟩
  have kept : request.query.toList = query.take 127 := by
    rw [Request.query, (SentLine.isCopiedTo arrived named).query, BoundedText.toList_text_ofString,
      chars, Utf8.fittingChars_of_ascii small]
  rw [Utf8.utf8ByteSize_eq_size, kept,
    Utf8.size_of_ascii fun c mem => small c (List.mem_of_mem_take mem), List.length_take]

/-- The cut falls within an escape, of which a percent sign and one digit are left. -/
theorem readsKeptQuery_of_cut_escape :
    let query := "a=1&v=".toList ++ (List.replicate 119 'x' ++ "%41%42".toList)
    let sent : SentLine := ⟨"GET", "/", String.ofList query⟩
    ∃ request : Request, request.ReadFrom sent.bytes ∧
      SentLine.ofBytes? sent.bytes = some sent ∧
        ({} : Lookup).ReadsKeptQuery request sent "v" ∧
          (({} : Lookup).inQuery request "v").1 =
            some ⟨List.replicate 119 120 ++ [37, 52], .query, false⟩ := by
  intro query sent
  have plain : Avoids [' ', '\r'] query := by decide +kernel
  obtain ⟨request, arrived, named, kept⟩ := exists_readFrom_of_ascii plain (by decide +kernel)
  have reads := readsKeptQuery arrived named {} "v"
  refine ⟨request, arrived, named, reads, ?_⟩
  let raw : Bytes := List.replicate 119 120 ++ [37, 52, 49, 37, 52, 50]
  have octets : Utf8.encode sent.query =
      [[97, 61, 49]].flatMap (· ++ [38]) ++ (Utf8.encode "v" ++ 61 :: raw) := by
    rw [Utf8.encode, String.toList_ofList]
    decide +kernel
  have place : FirstPairAt "v" 6 raw (Utf8.encode sent.query) := by
    rw [octets]
    apply firstPairAt_of_pieces [[97, 61, 49]] (by decide) (by decide +kernel)
    intro piece mem
    rw [List.mem_singleton.1 mem]
    exact ⟨by decide, pairValue?_eq_none_iff.1 (by decide)⟩
  have size : request.query.utf8ByteSize = 127 := by
    rw [kept]
    decide +kernel
  refine reads.found (by decide) place (by omega) ?_
  have left : raw.take (request.query.utf8ByteSize - 6) = List.replicate 119 120 ++ [37, 52] := by
    rw [size]
    decide +kernel
  rw [left]
  refine .plain_append (by decide +kernel) (.percent ?_ (.itself (by decide) (by decide) .nil))
  rintro ⟨_, _, _, two, -⟩
  cases two

/-- Of a value of 200 bytes, 125 are found, and nothing tells that the others are missing. -/
theorem cut_value_unmarked :
    let query := "v=".toList ++ List.replicate 200 'x'
    let sent : SentLine := ⟨"GET", "/", String.ofList query⟩
    let left : Found := ⟨List.replicate 125 120, .query, false⟩
    (∃ request : Request, request.ReadFrom sent.bytes ∧ SentLine.ofBytes? sent.bytes = some sent ∧
      (({} : Lookup).inQuery request "v").1 = some left ∧
        (({} : Lookup).anywhere request "v").1 = some left) ∧
      FirstPair "v" (List.replicate 200 120) (Utf8.encode sent.query) ∧
        ∀ raw, FirstPair "v" raw (Utf8.encode sent.query) → ¬ DecodesTo raw left.value := by
  intro query sent left
  have plain : Avoids [' ', '\r'] query := by decide +kernel
  obtain ⟨request, arrived, named, kept⟩ := exists_readFrom_of_ascii plain (by decide +kernel)
  have octets : Utf8.encode sent.query =
      Utf8.encode "v" ++ 61 :: List.replicate 200 120 := by
    rw [Utf8.encode, String.toList_ofList]
    decide +kernel
  have place : FirstPairAt "v" 2 (List.replicate 200 120) (Utf8.encode sent.query) := by
    rw [octets]
    exact firstPairAt_of_pieces [] (by decide) (by decide +kernel)
      fun piece mem => absurd mem List.not_mem_nil
  have size : request.query.utf8ByteSize = 127 := by
    rw [kept]
    decide +kernel
  have itself (n : Nat) : DecodesTo (List.replicate n 120) (List.replicate n 120) := by
    have plain : Avoids [43, 37] (List.replicate n (120 : UInt8)) := by
      intro b mem
      rw [List.eq_of_mem_replicate mem]
      decide
    have decodes := DecodesTo.plain_append plain .nil
    rwa [List.append_nil] at decodes
  have answer : (({} : Lookup).inQuery request "v").1 = some left := by
    refine inQuery_of_firstPairAt arrived named (by decide) place (by omega) ?_
    rw [size, List.take_replicate]
    exact itself 125
  refine ⟨⟨request, arrived, named, answer, (anywhere_eq_some_iff rfl).2 answer⟩,
    place.firstPair, fun raw first decodes => ?_⟩
  have nonempty : "v" ≠ "" := by decide
  have same := (pair?_eq_some_iff nonempty).2 first
  rw [(pair?_eq_some_iff nonempty).2 place.firstPair] at same
  rw [← Option.some.inj same, decodesTo_iff, decodesTo_iff.1 (itself 200)] at decodes
  exact absurd (congrArg List.length decodes) (by decide +kernel)

end Lookup

end DeviceHttp
