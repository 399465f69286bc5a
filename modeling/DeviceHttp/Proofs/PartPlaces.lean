import DeviceHttp.Proofs.Announcement
import DeviceHttp.Proofs.Searching
import DeviceHttp.Proofs.Sizes
import Mathlib.Data.List.DropRight

/-!
# Where the parts of a body stand

A `PartCursor` carries along what follows a delimiter. The places of the parts do not show in it,
and nothing can be read that is not there. A device that holds the whole body carries a place
instead and reads slices of the body, and `PartScan` does so. Its places are computed in four ways:
behind a line ending that may be missing, behind the header lines, at a delimiter, and at the end of
the body. A slice between places that are wrong is an error of its own.

**On any body the scan yields the parts of the cursor**, in order and without error
(`PartScan.calls_orderly`).

* The calls yield finitely many parts, at most one for as many bytes as the delimiter has. Every
  further call yields nothing.
* The data of each part are a slice of the body, without the delimiter and without line endings at
  their end.
* Between the data of two parts there are at least a delimiter and two more bytes.

## How

A call is compared with a step of the cursor (`PartScan.call_spec`). It asks for nothing but a place
within the body and a delimiter that is not empty, and leaves both behind. Every call that yields a
part moves the place by the length of the delimiter and two bytes, the least that the lines in front
of the data can have. The bound on the number of parts follows by induction on the list of the parts
(`PartScan.exists_run`).
-/

namespace DeviceHttp

/-! ## Slices -/

namespace Bytes

/-- The only way in which a scan could fail: it asks for bytes that are not there. -/
inductive SliceFault where
  | outOfBounds
deriving DecidableEq, Repr

/-- The bytes from one place to another, if these are places of the sequence in this order. -/
def slice (b : Bytes) (start stop : Nat) : Except SliceFault Bytes :=
  if start ≤ stop ∧ stop ≤ b.length then .ok ((b.drop start).take (stop - start))
  else .error .outOfBounds

theorem slice_to_end {b : Bytes} {start : Nat} (within : start ≤ b.length) :
    slice b start b.length = .ok (b.drop start) := by
  rw [slice, if_pos ⟨within, Nat.le_refl _⟩, ← List.length_drop, List.take_length]

theorem slice_from_start {b : Bytes} {stop : Nat} (within : stop ≤ b.length) :
    slice b 0 stop = .ok (b.take stop) := by
  rw [slice, if_pos ⟨Nat.zero_le _, within⟩, List.drop_zero, Nat.sub_zero]

/-- A beginning of what follows a place is a slice from there on. -/
theorem slice_of_isPrefix {b data : Bytes} {start : Nat} (within : start ≤ b.length)
    (front : data <+: b.drop start) :
    start + data.length ≤ b.length ∧ slice b start (start + data.length) = .ok data := by
  have short := front.length_le
  rw [List.length_drop] at short
  have inside : start + data.length ≤ b.length := by omega
  refine ⟨inside, ?_⟩
  rw [slice, if_pos ⟨Nat.le_add_right _ _, inside⟩, Nat.add_sub_cancel_left,
    ← List.prefix_iff_eq_take.1 front]

/-- A buffer of limited capacity. What fits behind its bytes is added, and of what does not fit
nothing is known. -/
structure Buffer (capacity : Nat) where
  extend : (held bytes : Bytes) → Bytes
  extend_of_fits : ∀ {held bytes : Bytes}, held.length + bytes.length ≤ capacity →
    extend held bytes = held ++ bytes

/-- The buffer that leaves out what does not fit. -/
def Buffer.whole (capacity : Nat) : Buffer capacity where
  extend held bytes := if held.length + bytes.length ≤ capacity then held ++ bytes else held
  extend_of_fits fits := if_pos fits

end Bytes

/-! ## Scanning by places -/

/-- A part and the place of its data. -/
structure PlacedPart where
  start : Nat
  stop : Nat
  part : Part
deriving DecidableEq

/-- A body that is searched for parts. -/
structure PartScan where
  body : Bytes
  /-- What separates parts: a CRLF, two hyphens and the boundary. -/
  delimiter : Bytes
  /-- The place behind the delimiter that was found last. -/
  next : Option Nat

namespace PartScan

/-- The scan behind the first delimiter, which needs no CRLF. The delimiter is put together in a
buffer that has room for it with the longest boundary. -/
def start (buffer : Bytes.Buffer (Multipart.maxBoundary + 4)) (body : Bytes) (boundary : String) :
    PartScan :=
  let hyphens := buffer.extend [] (Bytes.crlf ++ Utf8.encode "--")
  let delimiter := buffer.extend hyphens (Utf8.encode boundary)
  { body, delimiter
    next := (Bytes.indexOf? (delimiter.drop 2) body).map fun i => i + delimiter.length - 2 }

/-- What follows a line ending, or everything if there is none in front. -/
def skipCrlf (rest : Bytes) : Bytes := (dropStart? Bytes.crlf rest).getD rest

/-- Where the header lines end, and where the data begin behind them. -/
def headerEnd? (rest : Bytes) : Option (Nat × Nat) :=
  if startsWith Bytes.crlf rest then some (0, 2)
  else (Bytes.indexOf? (Bytes.crlf ++ Bytes.crlf) rest).map fun i => (i, i + 4)

/-- The data from a place on, and the place behind the delimiter that ends them. -/
def dataAt (scan : PartScan) (dataStart : Nat) : Except Bytes.SliceFault (Bytes × Option Nat) := do
  let tail ← Bytes.slice scan.body dataStart scan.body.length
  match Bytes.indexOf? scan.delimiter tail with
  | some i => return (← Bytes.slice tail 0 i, some (dataStart + i + scan.delimiter.length))
  | none => return (tail, none)

/-- The part with the header lines that stand at the front of an end of the body. -/
def partFrom (scan : PartScan) (lines : Bytes) :
    Except Bytes.SliceFault (Option (PlacedPart × Option Nat)) :=
  match headerEnd? lines with
  | none => return none
  | some (headersEnd, dataStart) => do
    let place := scan.body.length - lines.length + dataStart
    let headers ← Bytes.slice lines 0 headersEnd
    let (data, after) ← scan.dataAt place
    let data := PartCursor.trimNewlines data
    return some (⟨place, place + data.length, Part.ofHeaders headers data⟩, after)

/-- The part behind the delimiter that ends at a place, and the place to go on from. -/
def partAt (scan : PartScan) (place : Nat) :
    Except Bytes.SliceFault (Option (PlacedPart × Option Nat)) := do
  let rest ← Bytes.slice scan.body place scan.body.length
  if startsWith (Utf8.encode "--") rest then return none
  else scan.partFrom (skipCrlf rest)

/-- One call. The place is given up first, so a call that yields nothing is the last to look. -/
def call (scan : PartScan) : Except Bytes.SliceFault (Option PlacedPart × PartScan) := do
  let stopped := { scan with next := none }
  match scan.next with
  | none => return (none, stopped)
  | some place =>
    match ← scan.partAt place with
    | none => return (none, stopped)
    | some (part, after) => return (some part, { scan with next := after })

/-- What the first `n` calls yield. -/
def calls : (n : Nat) → PartScan → Except Bytes.SliceFault (List (Option PlacedPart))
  | 0, _ => .ok []
  | n + 1, scan => do
    let (answer, after) ← scan.call
    return answer :: (← calls n after)

/-- The cursor at the same place. -/
def cursor (scan : PartScan) : PartCursor := ⟨scan.delimiter, scan.next.map scan.body.drop⟩

/-- What holds between calls. -/
structure Ready (scan : PartScan) : Prop where
  delimiter_ne_nil : scan.delimiter ≠ []
  within : ∀ place ∈ scan.next, place ≤ scan.body.length

end PartScan

/-- The data of the part are a slice of the body, end before the delimiter, and do not end in a
carriage return or line feed. -/
structure PlacedPart.StandsIn (body delimiter : Bytes) (part : PlacedPart) : Prop where
  ordered : part.start ≤ part.stop
  within : part.stop ≤ body.length
  slice_eq : Bytes.slice body part.start part.stop = .ok part.part.data
  unmarked : ¬ delimiter <:+: part.part.data
  trimmed : ∀ last ∈ part.part.data.getLast?, last ≠ 13 ∧ last ≠ 10

/-! ## One call -/

namespace PartCursor

theorem trimNewlines_eq (data : Bytes) :
    trimNewlines data = data.rdropWhile fun b => b = 13 || b = 10 := rfl

theorem isPrefix_trimNewlines (data : Bytes) : trimNewlines data <+: data := by
  rw [trimNewlines_eq]
  exact List.rdropWhile_prefix _ _

theorem getLast?_trimNewlines {data : Bytes} {last : UInt8}
    (ends : last ∈ (trimNewlines data).getLast?) : last ≠ 13 ∧ last ≠ 10 := by
  rw [trimNewlines_eq] at ends
  obtain ⟨nonempty, rfl⟩ := List.mem_getLast?_eq_getLast ends
  simpa using List.rdropWhile_last_not _ _ nonempty

end PartCursor

namespace PartScan

open PartCursor

/-- The places of the header lines are those at which the cursor splits. -/
theorem splitHeaders?_eq (rest : Bytes) :
    splitHeaders? rest = (headerEnd? (skipCrlf rest)).map fun (headersEnd, dataStart) =>
      ((skipCrlf rest).take headersEnd, (skipCrlf rest).drop dataStart) := by
  unfold splitHeaders? headerEnd? startsWith skipCrlf
  dsimp only
  generalize (dropStart? Bytes.crlf rest).getD rest = lines
  cases eq : dropStart? Bytes.crlf lines with
  | none => simp [Function.comp_def]
  | some data =>
    have split := dropStart?_eq_some_iff.1 eq
    simp [split, Bytes.crlf]

theorem headerEnd?_bounds {rest : Bytes} {headersEnd dataStart : Nat}
    (found : headerEnd? rest = some (headersEnd, dataStart)) :
    headersEnd ≤ rest.length ∧ 2 ≤ dataStart ∧ dataStart ≤ rest.length := by
  unfold headerEnd? at found
  split at found
  · next starts =>
    obtain ⟨data, rfl⟩ := startsWith_iff.1 starts
    cases found
    simp [Bytes.crlf]
  · obtain ⟨i, ends, places⟩ := Option.map_eq_some_iff.1 found
    have fits := Bytes.add_length_le_of_indexOf? ends
    cases places
    rw [List.length_append] at fits
    simp only [Bytes.crlf, List.length_cons, List.length_nil] at fits
    omega

/-- The data from a place on are those that the cursor splits off. -/
theorem dataAt_eq {scan : PartScan} (nonempty : scan.delimiter ≠ []) {place : Nat}
    (within : place ≤ scan.body.length) :
    ∃ data after,
      scan.dataAt place = .ok (data, after) ∧
      splitData scan.delimiter (scan.body.drop place) = (data, after.map scan.body.drop) ∧
      data <+: scan.body.drop place ∧ ¬ scan.delimiter <:+: data ∧
      ∀ next ∈ after,
        place + data.length + scan.delimiter.length ≤ next ∧ next ≤ scan.body.length := by
  unfold dataAt splitData
  rw [Bytes.slice_to_end within]
  cases found : Bytes.indexOf? scan.delimiter (scan.body.drop place) with
  | none =>
    refine ⟨_, none, ?_, rfl, List.prefix_refl _, ?_, nofun⟩
    · show (match Bytes.indexOf? _ _ with | some i => _ | none => _) = _
      rw [found]
      rfl
    · exact (Bytes.indexOf?_eq_none_iff nonempty).1 found
  | some i =>
    have fits := Bytes.add_length_le_of_indexOf? found
    have short : i ≤ (scan.body.drop place).length := by omega
    refine ⟨(scan.body.drop place).take i, some (place + i + scan.delimiter.length), ?_, ?_,
      List.take_prefix _ _, Bytes.not_infix_take_of_indexOf? found, ?_⟩
    · show (match Bytes.indexOf? _ _ with | some i => _ | none => _) = _
      rw [found]
      simp [Bytes.slice_from_start short]
    · simp [List.drop_drop, Nat.add_assoc]
    · rintro next ⟨⟩
      rw [List.length_drop] at fits short
      rw [List.length_take, List.length_drop]
      omega

/-- The part stands in the body behind a place, and the scan goes on behind it. -/
structure Follows (scan : PartScan) (place : Nat) (part : PlacedPart) (after : Option Nat) :
    Prop where
  stands : part.StandsIn scan.body scan.delimiter
  behind : place + 2 ≤ part.start
  beyond : ∀ next ∈ after, part.stop + scan.delimiter.length ≤ next
  within : ∀ next ∈ after, next ≤ scan.body.length

theorem isSuffix_skipCrlf (rest : Bytes) : skipCrlf rest <:+ rest := by
  unfold skipCrlf
  cases eq : dropStart? Bytes.crlf rest with
  | none => exact List.suffix_refl rest
  | some lines =>
    rw [Option.getD_some, dropStart?_eq_some_iff.1 eq]
    exact List.suffix_append _ _

/-- The scan reads a part where the cursor splits off header lines. -/
theorem partFrom_spec {scan : PartScan} (nonempty : scan.delimiter ≠ []) {lines : Bytes}
    (ending : lines <:+ scan.body) {headersEnd dataStart : Nat}
    (found : headerEnd? lines = some (headersEnd, dataStart)) :
    ∃ part data after,
      scan.partFrom lines = .ok (some (part, after)) ∧
      splitData scan.delimiter (lines.drop dataStart) = (data, after.map scan.body.drop) ∧
      part.part = Part.ofHeaders (lines.take headersEnd) (trimNewlines data) ∧
      scan.Follows (scan.body.length - lines.length) part after := by
  obtain ⟨headersShort, two, dataShort⟩ := headerEnd?_bounds found
  -- the place is counted from the start of the body, the header lines from their own
  obtain ⟨place, place_eq⟩ : ∃ place, place = scan.body.length - lines.length + dataStart :=
    ⟨_, rfl⟩
  have within : place ≤ scan.body.length := by
    have := ending.length_le
    omega
  have tail_eq : lines.drop dataStart = scan.body.drop place := by
    rw [place_eq, ← List.drop_drop, ← List.suffix_iff_eq_drop.1 ending]
  obtain ⟨data, after, read, split, front, unmarked, next⟩ := dataAt_eq nonempty within
  obtain ⟨inside, slice_eq⟩ :=
    Bytes.slice_of_isPrefix within ((isPrefix_trimNewlines data).trans front)
  have trimmed := (isPrefix_trimNewlines data).length_le
  refine ⟨⟨place, place + (trimNewlines data).length,
    Part.ofHeaders (lines.take headersEnd) (trimNewlines data)⟩, data, after, ?_, ?_, rfl, ?_⟩
  · unfold partFrom
    rw [found]
    show (Bytes.slice lines 0 headersEnd >>= _) = _
    rw [Bytes.slice_from_start headersShort]
    show (scan.dataAt _ >>= _) = _
    rw [← place_eq, read]
    rfl
  · rw [tail_eq, split]
  · refine { stands := ⟨?_, inside, ?_, ?_, ?_⟩, behind := ?_, beyond := ?_, within := ?_ }
    · exact Nat.le_add_right _ _
    · rw [Part.data_ofHeaders]
      exact slice_eq
    · rw [Part.data_ofHeaders]
      exact fun marked => unmarked (marked.trans (isPrefix_trimNewlines data).isInfix)
    · rw [Part.data_ofHeaders]
      exact fun last => getLast?_trimNewlines
    · show _ ≤ place
      omega
    · intro p mem
      have := (next p mem).1
      show place + (trimNewlines data).length + _ ≤ p
      omega
    · exact fun p mem => (next p mem).2

/-- The part at a place is the one that the cursor yields there. -/
theorem partAt_spec {scan : PartScan} (nonempty : scan.delimiter ≠ []) {place : Nat}
    (inside : place ≤ scan.body.length) :
    (scan.partAt place = .ok none ∧
      PartCursor.next ⟨scan.delimiter, some (scan.body.drop place)⟩ = none) ∨
    ∃ part after,
      scan.partAt place = .ok (some (part, after)) ∧
      PartCursor.next ⟨scan.delimiter, some (scan.body.drop place)⟩ =
        some (part.part, ⟨scan.delimiter, after.map scan.body.drop⟩) ∧
      scan.Follows place part after := by
  have reads : scan.partAt place =
      if startsWith (Utf8.encode "--") (scan.body.drop place) then .ok none
      else scan.partFrom (skipCrlf (scan.body.drop place)) := by
    unfold partAt
    rw [Bytes.slice_to_end inside]
    rfl
  rw [reads]
  have ending : skipCrlf (scan.body.drop place) <:+ scan.body :=
    (isSuffix_skipCrlf _).trans (List.drop_suffix place _)
  cases closes : startsWith (Utf8.encode "--") (scan.body.drop place) with
  | true => exact .inl ⟨rfl, by simp [PartCursor.next, closes]⟩
  | false =>
    have split := splitHeaders?_eq (scan.body.drop place)
    cases found : headerEnd? (skipCrlf (scan.body.drop place)) with
    | none =>
      rw [found, Option.map_none] at split
      refine .inl ⟨?_, by simp [PartCursor.next, closes, split]⟩
      show scan.partFrom _ = _
      unfold partFrom
      rw [found]
      rfl
    | some places =>
      obtain ⟨part, data, after, read, dataEq, partEq, follows⟩ :=
        partFrom_spec nonempty ending found
      rw [found, Option.map_some] at split
      refine .inr ⟨part, after, read, ?_, follows.stands, ?_, follows.beyond, follows.within⟩
      · rw [PartCursor.next_eq_some closes split dataEq, partEq]
      · have skipped := (isSuffix_skipCrlf (scan.body.drop place)).length_le
        have behind := follows.behind
        rw [List.length_drop] at skipped
        omega

/-- **A call is a step of the cursor.** From a place within the body it yields nothing and gives up
its place, or yields a part and goes on behind it. -/
theorem call_spec {scan : PartScan} (ready : scan.Ready) :
    (scan.cursor.next = none ∧ scan.call = .ok (none, { scan with next := none })) ∨
    ∃ place part after,
      scan.next = some place ∧
      scan.call = .ok (some part, { scan with next := after }) ∧
      scan.cursor.next = some (part.part, { scan with next := after }.cursor) ∧
      scan.Follows place part after := by
  obtain ⟨body, delimiter, next⟩ := scan
  cases next with
  | none => exact .inl ⟨rfl, rfl⟩
  | some place =>
    have asked : (PartScan.mk body delimiter (some place)).call =
        (PartScan.mk body delimiter (some place)).partAt place >>= fun found =>
          match found with
          | none => .ok (none, ⟨body, delimiter, none⟩)
          | some (part, after) => .ok (some part, ⟨body, delimiter, after⟩) := rfl
    rw [asked]
    obtain ⟨read, stops⟩ | ⟨part, after, read, steps, follows⟩ :=
      partAt_spec ready.delimiter_ne_nil (ready.within place rfl)
    · rw [read]
      exact .inl ⟨stops, rfl⟩
    · rw [read]
      exact .inr ⟨place, part, after, rfl, rfl, steps, follows⟩

/-! ## All calls -/

theorem calls_succ {scan after : PartScan} {answer : Option PlacedPart}
    {answers : List (Option PlacedPart)} {n : Nat} (call : scan.call = .ok (answer, after))
    (rest : after.calls n = .ok answers) : scan.calls (n + 1) = .ok (answer :: answers) := by
  rw [calls, call]
  show (after.calls n >>= _) = _
  rw [rest]
  rfl

/-- After a call that gave up its place, nothing is yielded. -/
theorem calls_stopped (body delimiter : Bytes) (n : Nat) :
    calls n ⟨body, delimiter, none⟩ = .ok (List.replicate n none) := by
  induction n with
  | zero => rfl
  | succ n ih => exact calls_succ rfl ih

/-- A list answers calls one element at a time, and then with nothing. -/
theorem map_getElem?_range_succ {α : Type} (a : α) (l : List α) (n : Nat) :
    (List.range (n + 1)).map ((a :: l)[·]?) = some a :: (List.range n).map (l[·]?) := by
  rw [List.range_succ_eq_map, List.map_cons, List.map_map]
  rfl

/-- What the calls on a scan yield, as a list of the parts. Each part takes at least two bytes and the
delimiter behind it. The last delimiter may be missing, and the end of the body stands in for it. -/
structure Runs (scan : PartScan) (parts : List PlacedPart) : Prop where
  calls_eq : ∀ n, scan.calls n = .ok ((List.range n).map (parts[·]?))
  map_part : parts.map PlacedPart.part = scan.cursor.toList
  stands : ∀ part ∈ parts, part.StandsIn scan.body scan.delimiter
  behind : ∀ part ∈ parts, ∀ place ∈ scan.next, place + 2 ≤ part.start
  apart : parts.Pairwise fun a b => a.stop + scan.delimiter.length + 2 ≤ b.start
  few : ∀ place ∈ scan.next,
    place + parts.length * (scan.delimiter.length + 2) ≤ scan.body.length + scan.delimiter.length

theorem Runs.nil {scan : PartScan} (ready : scan.Ready) (stops : scan.cursor.next = none)
    (call : scan.call = .ok (none, { scan with next := none })) : scan.Runs [] where
  calls_eq n := by
    have silent : (List.range n).map (([] : List PlacedPart)[·]?) = List.replicate n none := by
      simp
    rw [silent]
    cases n with
    | zero => rfl
    | succ n => exact calls_succ call (calls_stopped _ _ n)
  map_part := (PartCursor.toList_of_none stops).symm
  stands := nofun
  behind := nofun
  apart := .nil
  few place mem := by
    have := ready.within place mem
    rw [List.length_nil, Nat.zero_mul]
    omega

theorem Runs.eq_nil {scan : PartScan} {parts : List PlacedPart} (runs : scan.Runs parts)
    (stopped : scan.next = none) : parts = [] := by
  have stops : scan.cursor.next = none := by
    rw [cursor, stopped]
    rfl
  rw [← List.map_eq_nil_iff, runs.map_part, PartCursor.toList_of_none stops]

/-- The parts that are still to come stand behind the one that was yielded last. -/
theorem Runs.beyond_of_mem {scan : PartScan} {place : Nat} {part : PlacedPart} {after : Option Nat}
    {parts : List PlacedPart} (rest : Runs { scan with next := after } parts)
    (follows : scan.Follows place part after) {later : PlacedPart} (mem : later ∈ parts) :
    part.stop + scan.delimiter.length + 2 ≤ later.start := by
  cases after_eq : after with
  | none =>
    rw [rest.eq_nil after_eq] at mem
    cases mem
  | some next =>
    have beyond := follows.beyond next after_eq
    have behind := rest.behind later mem next after_eq
    omega

theorem Runs.cons {scan : PartScan} {place : Nat} {part : PlacedPart} {after : Option Nat}
    {parts : List PlacedPart} (place_eq : scan.next = some place)
    (call : scan.call = .ok (some part, { scan with next := after }))
    (step : scan.cursor.next = some (part.part, { scan with next := after }.cursor))
    (follows : scan.Follows place part after)
    (rest : Runs { scan with next := after } parts) : scan.Runs (part :: parts) where
  calls_eq n := by
    cases n with
    | zero => rfl
    | succ n =>
      rw [map_getElem?_range_succ]
      exact calls_succ call (rest.calls_eq n)
  map_part := by rw [List.map_cons, rest.map_part, PartCursor.toList_of_some step]
  stands := List.forall_mem_cons.2 ⟨follows.stands, rest.stands⟩
  behind later mem p p_eq := by
    rw [place_eq] at p_eq
    cases p_eq
    obtain rfl | mem := List.mem_cons.1 mem
    · exact follows.behind
    · have := follows.behind
      have := follows.stands.ordered
      have := rest.beyond_of_mem follows mem
      omega
  apart := by
    refine List.pairwise_cons.2 ⟨fun later mem => ?_, rest.apart⟩
    exact rest.beyond_of_mem follows mem
  few p p_eq := by
    rw [place_eq] at p_eq
    cases p_eq
    have behind := follows.behind
    have ordered := follows.stands.ordered
    have within := follows.stands.within
    rw [List.length_cons, Nat.add_mul, Nat.one_mul]
    cases after_eq : after with
    | none =>
      rw [rest.eq_nil after_eq, List.length_nil, Nat.zero_mul]
      omega
    | some q =>
      have beyond := follows.beyond q after_eq
      have few := rest.few q after_eq
      dsimp only at few
      omega

/-- The induction is on the parts that the cursor yields, so a scan ends where the cursor does. -/
theorem exists_run {scan : PartScan} (ready : scan.Ready) : ∃ parts, scan.Runs parts := by
  induction yielded : scan.cursor.toList generalizing scan with
  | nil =>
    obtain ⟨stops, call⟩ | ⟨place, part, after, -, -, step, -⟩ := call_spec ready
    · exact ⟨[], .nil ready stops call⟩
    · rw [PartCursor.toList_of_some step] at yielded
      cases yielded
  | cons first others ih =>
    obtain ⟨stops, -⟩ | ⟨place, part, after, place_eq, call, step, follows⟩ := call_spec ready
    · rw [PartCursor.toList_of_none stops] at yielded
      cases yielded
    · rw [PartCursor.toList_of_some step] at yielded
      have ready' : Ready { scan with next := after } := ⟨ready.delimiter_ne_nil, follows.within⟩
      obtain ⟨parts, rest⟩ := ih ready' (List.cons.inj yielded).2
      exact ⟨part :: parts, .cons place_eq call step follows rest⟩

/-! ## The parts of a body -/

section Start

variable (buffer : Bytes.Buffer (Multipart.maxBoundary + 4)) (body : Bytes) {boundary : String}
  (short : boundary.utf8ByteSize ≤ Multipart.maxBoundary)

include short

/-- There is room for the delimiter. -/
theorem delimiter_start :
    (start buffer body boundary).delimiter = Utf8.encode ("\r\n--" ++ boundary) := by
  have four : (Utf8.encode "\r\n--").length = 4 := by decide
  have hyphens : buffer.extend [] (Bytes.crlf ++ Utf8.encode "--") = Utf8.encode "\r\n--" :=
    buffer.extend_of_fits (by decide)
  show buffer.extend (buffer.extend [] (Bytes.crlf ++ Utf8.encode "--")) _ = _
  rw [hyphens, buffer.extend_of_fits, Utf8.encode_append]
  rw [four, Utf8.length_encode]
  omega

theorem length_delimiter_start :
    (start buffer body boundary).delimiter.length = boundary.utf8ByteSize + 4 := by
  have four : "\r\n--".utf8ByteSize = 4 := by decide
  rw [delimiter_start buffer body short, Utf8.length_encode, String.utf8ByteSize_append, four,
    Nat.add_comm]

theorem next_start :
    (start buffer body boundary).next =
      (Bytes.indexOf? (Utf8.encode "--" ++ Utf8.encode boundary) body).map
        (· + (Utf8.encode "--" ++ Utf8.encode boundary).length) := by
  have split : (start buffer body boundary).delimiter =
      Bytes.crlf ++ (Utf8.encode "--" ++ Utf8.encode boundary) := by
    rw [delimiter_start buffer body short, Utf8.encode_append, ← List.append_assoc]
    rfl
  show (Bytes.indexOf? ((start buffer body boundary).delimiter.drop 2) body).map
    (fun i => i + (start buffer body boundary).delimiter.length - 2) = _
  rw [split]
  rfl

/-- The scan begins where the cursor does. -/
theorem cursor_start : (start buffer body boundary).cursor = PartCursor.start body boundary := by
  rw [cursor, next_start buffer body short, delimiter_start buffer body short, PartCursor.start,
    Utf8.encode_append, Option.map_map]
  rfl

theorem ready_start : (start buffer body boundary).Ready where
  delimiter_ne_nil := by
    apply List.ne_nil_of_length_pos
    rw [length_delimiter_start buffer body short]
    exact Nat.succ_pos _
  within place mem := by
    rw [next_start buffer body short] at mem
    obtain ⟨i, found, rfl⟩ := Option.map_eq_some_iff.1 mem
    exact Bytes.add_length_le_of_indexOf? found

/-- The delimiter that is found first may lack its line ending only. -/
theorem le_next_start {place : Nat} (next_eq : (start buffer body boundary).next = some place) :
    boundary.utf8ByteSize + 2 ≤ place := by
  have two : "--".utf8ByteSize = 2 := by decide
  rw [next_start buffer body short, List.length_append, Utf8.length_encode, Utf8.length_encode,
    two] at next_eq
  obtain ⟨i, -, rfl⟩ := Option.map_eq_some_iff.1 next_eq
  omega

end Start

end PartScan

/-- A usable boundary has at most seventy bytes. -/
theorem Multipart.utf8ByteSize_le_of_boundary? {contentType boundary : String}
    (usable : boundary? contentType = some boundary) : boundary.utf8ByteSize ≤ maxBoundary := by
  obtain ⟨-, -, -, -, -, -, -, -, short⟩ := boundary?_eq_some_iff.1 usable
  exact short

/-- **The parts of a body stand in it one behind the other, and are yielded once each.** There is a
list of parts with which every call agrees, however often one asks. It is that of the cursor. Each
of its parts stands in the body, behind the delimiter that ends the part before. -/
theorem PartScan.calls_orderly {contentType boundary : String}
    (usable : Multipart.boundary? contentType = some boundary)
    (buffer : Bytes.Buffer (Multipart.maxBoundary + 4)) (body : Bytes) :
    ∃ parts : List PlacedPart,
      (∀ n, (start buffer body boundary).calls n = .ok ((List.range n).map (parts[·]?))) ∧
      parts.map PlacedPart.part = (PartCursor.start body boundary).toList ∧
      parts.length ≤ body.length / (boundary.utf8ByteSize + 4) ∧
      (∀ part ∈ parts, part.StandsIn body (Utf8.encode ("\r\n--" ++ boundary))) ∧
      parts.Pairwise fun a b => a.stop + (boundary.utf8ByteSize + 4) + 2 ≤ b.start := by
  have short := Multipart.utf8ByteSize_le_of_boundary? usable
  obtain ⟨parts, runs⟩ := exists_run (ready_start buffer body short)
  have length := length_delimiter_start buffer body short
  refine ⟨parts, runs.calls_eq, ?_, ?_, ?_, ?_⟩
  · rw [← cursor_start buffer body short]
    exact runs.map_part
  · have pos : 0 < boundary.utf8ByteSize + 4 := Nat.succ_pos _
    rw [Nat.le_div_iff_mul_le pos]
    cases next_eq : (start buffer body boundary).next with
    | none =>
      rw [runs.eq_nil next_eq, List.length_nil, Nat.zero_mul]
      exact Nat.zero_le _
    | some place =>
      -- but for two bytes, the first delimiter makes up for the one that the last part may lack
      have first := le_next_start buffer body short next_eq
      have few : place + _ ≤ body.length + _ := runs.few place next_eq
      rw [length, Nat.mul_add] at few
      cases parts with
      | nil => simp
      | cons part parts =>
        rw [List.length_cons] at few ⊢
        omega
  · rw [← delimiter_start buffer body short]
    exact runs.stands
  · rw [← length]
    exact runs.apart

/-- A body with one part, whose data are not text, and a delimiter behind which nothing follows. -/
def PartScan.unclosedBody : Bytes :=
  Utf8.encode "--X\r\n\r\n" ++ [0, 255] ++ Utf8.encode "\r\n--X\r\n"

/-- The part stands behind seven bytes, and no call fails or yields another one. -/
theorem PartScan.calls_unclosedBody :
    Multipart.boundary? "multipart/form-data; boundary=X" = some "X" ∧
      ∃ parts : List PlacedPart,
        (∀ n, (start (.whole _) unclosedBody "X").calls n = .ok ((List.range n).map (parts[·]?))) ∧
        parts.map PlacedPart.part = (PartCursor.start unclosedBody "X").toList ∧
        parts = [⟨7, 9, { data := [0, 255] }⟩] := by
  have usable : Multipart.boundary? "multipart/form-data; boundary=X" = some "X" := by
    decide +kernel
  obtain ⟨parts, calls, same, -⟩ := calls_orderly usable (.whole _) unclosedBody
  have two : (start (.whole _) unclosedBody "X").calls 2 =
      .ok [some ⟨7, 9, { data := [0, 255] }⟩, none] := by decide +kernel
  refine ⟨usable, parts, calls, same, ?_⟩
  have answers := Except.ok.inj ((calls 2).symm.trans two)
  obtain ⟨first, second⟩ : parts[0]? = some _ ∧ parts[1]? = none :=
    ⟨(List.cons.inj answers).1, (List.cons.inj (List.cons.inj answers).2).1⟩
  obtain _ | ⟨part, _ | ⟨_, _⟩⟩ := parts
  · cases first
  · cases first
    rfl
  · cases second

end DeviceHttp
