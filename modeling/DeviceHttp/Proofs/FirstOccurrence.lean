import DeviceHttp.Proofs.Accounting
import DeviceHttp.Proofs.Pieces

/-!
# First occurrences, lines, and buffers that grow

`Bytes.indexOf?` is the one search of the library. Lines are split with it, and a reception asks it
after every read whether the header block has ended. This module says what such a search finds of
arbitrary bytes, in places and not in pieces that were put together.

* **A needle is found at the least place at which it stands** (`Bytes.findsFirst`), or nowhere. A
  search in a beginning finds the same place, if the occurrence ends there, and nothing else
  (`Bytes.indexOf?_of_isPrefix`).
* **A block is split in one way only** (`Bytes.lines_eq_iff`): into pieces without a line ending that
  make it up when a line ending stands between any two of them. Two line endings in a row are an
  empty line between two others (`Bytes.emptyLine_iff`).
* **A buffer that is searched again after every read** tells the end of the header block as one
  search of the whole input does (`Reader.rescansAgree`), wherever the reads have cut it.

## How

The lines of a block are taken one by one, each up to the first line ending (`Bytes.linewise`). A
line ending does not overlap itself, so a carriage return in front of one makes no difference.
-/

namespace DeviceHttp

namespace Bytes

variable {needle b front : Bytes} {i : Nat}

/-! ## First occurrences -/

/-- The needle stands at a place of the bytes. -/
def StandsAt (needle b : Bytes) (i : Nat) : Prop := needle <+: b.drop i

instance (needle b : Bytes) (i : Nat) : Decidable (StandsAt needle b i) :=
  inferInstanceAs (Decidable (needle <+: b.drop i))

theorem standsAt_iff_startsWith : StandsAt needle b i ↔ startsWith needle (b.drop i) = true := by
  rw [StandsAt, startsWith_iff]
  constructor
  · rintro ⟨rest, eq⟩
    exact ⟨rest, eq.symm⟩
  · rintro ⟨rest, eq⟩
    exact ⟨rest, eq.symm⟩

theorem exists_standsAt_iff : (∃ i, StandsAt needle b i) ↔ needle <:+: b := by
  constructor
  · rintro ⟨i, stands⟩
    exact stands.isInfix.trans (List.drop_suffix i b).isInfix
  · rintro ⟨before, after, rfl⟩
    refine ⟨before.length, after, ?_⟩
    rw [List.append_assoc, List.drop_left]

/-- **A needle is found at the least place at which it stands.** -/
theorem indexOf?_eq_some_iff (ne_nil : needle ≠ []) :
    indexOf? needle b = some i ↔ StandsAt needle b i ∧ ∀ j < i, ¬ StandsAt needle b j := by
  -- what is found stands there, and nowhere before
  have sound : ∀ {i}, indexOf? needle b = some i →
      StandsAt needle b i ∧ ∀ j < i, ¬ StandsAt needle b j := by
    intro i found
    obtain ⟨-, rest, here⟩ := drop_of_indexOf? found
    refine ⟨⟨rest, here.symm⟩, ?_⟩
    intro j before stands
    rw [standsAt_iff_startsWith, startsWith_drop_of_lt found before] at stands
    cases stands
  refine ⟨sound, ?_⟩
  rintro ⟨stands, least⟩
  obtain ⟨k, found⟩ := exists_indexOf?_of_infix ne_nil (exists_standsAt_iff.1 ⟨i, stands⟩)
  obtain ⟨stands', least'⟩ := sound found
  have same : k = i := by
    apply Nat.le_antisymm
    · exact Nat.le_of_not_lt fun after => least' i after stands
    · exact Nat.le_of_not_lt fun before => least k before stands'
  rw [found, same]

/-- What a search is for: the first place of a needle, whatever follows. -/
structure FindsFirst (needle b : Bytes) : Prop where
  found_iff : ∀ i, indexOf? needle b = some i ↔
    StandsAt needle b i ∧ ∀ j < i, ¬ StandsAt needle b j
  missed_iff : indexOf? needle b = none ↔ ∀ i, ¬ StandsAt needle b i
  stays : ∀ i more, indexOf? needle b = some i → indexOf? needle (b ++ more) = some i

theorem findsFirst (ne_nil : needle ≠ []) (b : Bytes) : FindsFirst needle b where
  found_iff _ := indexOf?_eq_some_iff ne_nil
  missed_iff := by
    rw [indexOf?_eq_none_iff ne_nil, ← exists_standsAt_iff, not_exists]
  stays _ more found := indexOf?_append found more

/-- **A beginning holds the first occurrence or none at all.** -/
theorem indexOf?_of_isPrefix (begins : front <+: b) :
    indexOf? needle front = (indexOf? needle b).filter (· + needle.length ≤ front.length) := by
  obtain ⟨rest, rfl⟩ := begins
  ext i
  rw [Option.filter_eq_some_iff, decide_eq_true_eq]
  constructor
  · intro found
    exact ⟨indexOf?_append found rest, add_length_le_of_indexOf? found⟩
  · rintro ⟨found, within⟩
    exact indexOf?_of_append found within

/-! ## Lines -/

/-- A block without a line ending is one line. -/
theorem lines_of_crlf_absent {line : Bytes} (unended : ¬ crlf <:+: line) : lines line = [line] := by
  induction line using lines.induct with
  | case1 => rfl
  | case2 b _ => exact absurd ⟨[], b, rfl⟩ unended
  | case3 x b _ none _ => exact absurd none (lines_ne_nil b)
  | case4 x b apart line others first ih =>
    have later : ¬ crlf <:+: b := fun inside => unended (inside.trans
      (List.infix_cons (List.infix_refl b)))
    rw [first] at ih
    obtain ⟨rfl, rfl⟩ := List.cons.inj (ih later)
    rw [lines.eq_3 _ _ apart, first]

/-- A block is taken line by line: either it is one line, or a line and its ending stand in front of
the rest. -/
theorem linewise {motive : Bytes → Prop}
    (last : ∀ line, ¬ crlf <:+: line → motive line)
    (more : ∀ line rest, ¬ crlf <:+: line → motive rest → motive (line ++ (crlf ++ rest)))
    (block : Bytes) : motive block := by
  induction length : block.length using Nat.strongRecOn generalizing block with
  | ind n ih =>
    cases found : indexOf? crlf block with
    | none => exact last block ((indexOf?_eq_none_iff (List.cons_ne_nil _ _)).1 found)
    | some i =>
      obtain ⟨-, rest, here⟩ := drop_of_indexOf? found
      have whole : block = block.take i ++ (crlf ++ rest) := by rw [← here, List.take_append_drop]
      have shorter : rest.length < n := by
        have := congrArg List.length whole
        have two : crlf.length = 2 := rfl
        rw [List.length_append, List.length_append] at this
        omega
      rw [whole]
      exact more _ _ (not_infix_take_of_indexOf? found) (ih _ shorter rest rfl)

theorem not_infix_of_mem_lines {line block : Bytes} (mem : line ∈ lines block) :
    ¬ crlf <:+: line := by
  induction block using linewise with
  | last whole unended =>
    rw [lines_of_crlf_absent unended, List.mem_singleton] at mem
    rwa [mem]
  | more first rest unended ih =>
    rw [lines_append_crlf, lines_of_crlf_absent unended, List.singleton_append] at mem
    rcases List.mem_cons.1 mem with rfl | mem
    · exact unended
    · exact ih mem

/-- The lines, with a line ending between any two of them, are the block. -/
theorem intercalate_lines (block : Bytes) : crlf.intercalate (lines block) = block := by
  induction block using linewise with
  | last whole unended => rw [lines_of_crlf_absent unended, List.intercalate_singleton]
  | more first rest unended ih =>
    obtain ⟨line, others, pieces⟩ := List.exists_cons_of_ne_nil (lines_ne_nil rest)
    rw [lines_append_crlf, lines_of_crlf_absent unended, List.singleton_append, pieces,
      List.intercalate_cons_cons, ← pieces, ih, List.append_assoc]

/-- **A block is split in one way only**: into lines without a line ending that make it up when a
line ending stands between any two of them. -/
theorem lines_eq_iff {block : Bytes} {ls : List Bytes} :
    lines block = ls ↔ crlf.intercalate ls = block ∧ ls ≠ [] ∧ ∀ line ∈ ls, ¬ crlf <:+: line := by
  constructor
  · rintro rfl
    exact ⟨intercalate_lines block, lines_ne_nil block, fun _ => not_infix_of_mem_lines⟩
  · rintro ⟨rfl, ne_nil, unended⟩
    induction ls with
    | nil => exact absurd rfl ne_nil
    | cons l ls ih =>
      have single := lines_of_crlf_absent (unended l List.mem_cons_self)
      cases ls with
      | nil => rw [List.intercalate_singleton, single]
      | cons k ls =>
        have later := ih (List.cons_ne_nil k ls) fun j mem => unended j (List.mem_cons_of_mem l mem)
        rw [List.intercalate_cons_cons, List.append_assoc, lines_append_crlf, single, later,
          List.singleton_append]

/-- **Two line endings in a row are an empty line between two others.** -/
theorem emptyLine_iff {block : Bytes} :
    crlf ++ crlf <:+: block ↔
      ∃ before after, before ≠ [] ∧ after ≠ [] ∧ lines block = before ++ [] :: after := by
  constructor
  · rintro ⟨before, after, rfl⟩
    refine ⟨lines before, lines after, lines_ne_nil before, lines_ne_nil after, ?_⟩
    have empty : lines (crlf ++ after) = [] :: lines after := lines_append_crlf [] after
    rw [List.append_assoc, List.append_assoc, lines_append_crlf, empty]
  · rintro ⟨before, after, something, ne_nil, pieces⟩
    obtain ⟨line, others, rfl⟩ := List.exists_cons_of_ne_nil ne_nil
    -- the lines in front end in a line ending, and another one stands behind the empty line
    have ended : crlf <:+ before.flatMap (· ++ crlf) := by
      obtain ⟨l, ls, rfl⟩ := List.exists_cons_of_ne_nil something
      show crlf <:+ unlines (l :: ls)
      rw [unlines_eq_intercalate_append]
      exact List.suffix_append _ _
    obtain ⟨front, eq⟩ := ended
    refine ⟨front, crlf.intercalate (line :: others), ?_⟩
    rw [← intercalate_lines block, pieces, intercalate_append_cons, ← eq,
      List.intercalate_cons_cons, List.nil_append, List.append_assoc, List.append_assoc,
      List.append_assoc]

/-- What the lines of a block are for: nothing is lost, no line goes on behind its ending, and two
line endings in a row show. -/
structure SplitsAtLineEnds (block : Bytes) : Prop where
  joined : crlf.intercalate (lines block) = block
  unended : ∀ line ∈ lines block, ¬ crlf <:+: line
  unique : ∀ ls, crlf.intercalate ls = block → ls ≠ [] → (∀ line ∈ ls, ¬ crlf <:+: line) →
    ls = lines block
  /-- The first and the last line may be empty for other reasons. -/
  emptyLine_iff : crlf ++ crlf <:+: block ↔
    ∃ k, 0 < k ∧ k + 1 < (lines block).length ∧ (lines block)[k]? = some []

theorem splitsAtLineEnds (block : Bytes) : SplitsAtLineEnds block where
  joined := intercalate_lines block
  unended _ := not_infix_of_mem_lines
  unique _ joined ne_nil unended := (lines_eq_iff.2 ⟨joined, ne_nil, unended⟩).symm
  emptyLine_iff := by
    rw [emptyLine_iff]
    constructor
    · rintro ⟨before, after, something, ne_nil, pieces⟩
      have pos := List.length_pos_iff.2 something
      have pos' := List.length_pos_iff.2 ne_nil
      refine ⟨before.length, pos, ?_, ?_⟩
      · rw [pieces, List.length_append, List.length_cons]
        omega
      · rw [pieces, List.getElem?_append_right (Nat.le_refl _), Nat.sub_self,
          List.getElem?_cons_zero]
    · rintro ⟨k, pos, below, empty⟩
      obtain ⟨within, empty⟩ := List.getElem?_eq_some_iff.1 empty
      refine ⟨(lines block).take k, (lines block).drop (k + 1), ?_, ?_, ?_⟩
      · exact List.length_pos_iff.1 (by rw [List.length_take]; omega)
      · exact List.length_pos_iff.1 (by rw [List.length_drop]; omega)
      · rw [← empty, ← List.drop_eq_getElem_cons within, List.take_append_drop]

end Bytes

/-! ## Buffers that grow -/

/-- A beginning tells the end of the header block or nothing. -/
theorem Header.blockEnd?_of_isPrefix {front b : Bytes} (begins : front <+: b) :
    blockEnd? front = (blockEnd? b).filter (· ≤ front.length) := by
  rw [blockEnd?, blockEnd?, Bytes.indexOf?_of_isPrefix begins, Option.filter_map]
  rfl

/-- Bytes that a stream begins with. -/
def BeginsStream (whole : Bytes) (stream : Nat → Option UInt8) : Prop :=
  ∀ i < whole.length, stream i = whole[i]?

namespace Reader

variable {σ : Type} {r : Reader σ} {b : ReceiveBuffer} {s : σ}

/-- The buffer holds what the stream began with. -/
theorem isPrefix_filled_progress {stream : σ → Nat → Option UInt8} (streams : r.Streams stream)
    {whole : Bytes} (begins : BeginsStream whole (stream s)) {n : Nat}
    (reached : (r.progress b s n).buffer.filled.length ≤ whole.length) :
    (r.progress b s n).buffer.filled <+: whole := by
  have filled := (r.tallied_progress b s n).filled
  rw [filled] at reached ⊢
  rw [List.prefix_iff_getElem?]
  intro i within
  rw [← begins i (by omega), ahead_progress streams b s n, ahead, if_pos within,
    List.getElem?_eq_getElem within]

/-- How the searches of a buffer that grows compare with each other and with one search of the
input. -/
structure RescansAgree (r : Reader σ) (b : ReceiveBuffer) (s : σ) : Prop where
  /-- An earlier search found what a later one finds, if it was there, and nothing else. -/
  earlier : ∀ {m n : Nat}, m ≤ n → Header.blockEnd? (r.progress b s m).buffer.filled =
    (Header.blockEnd? (r.progress b s n).buffer.filled).filter
      (· ≤ (r.progress b s m).buffer.filled.length)
  /-- Every search finds what one search of the input finds, however much of it there is. -/
  whole : ∀ {stream : σ → Nat → Option UInt8}, r.Streams stream →
    ∀ {whole : Bytes}, BeginsStream whole (stream s) →
      ∀ {n : Nat}, (r.progress b s n).buffer.filled.length ≤ whole.length →
        Header.blockEnd? (r.progress b s n).buffer.filled =
          (Header.blockEnd? whole).filter (· ≤ (r.progress b s n).buffer.filled.length)

theorem rescansAgree (r : Reader σ) (b : ReceiveBuffer) (s : σ) : r.RescansAgree b s where
  earlier later := Header.blockEnd?_of_isPrefix (r.prefix_progress b s later)
  whole streams _ begins _ reached :=
    Header.blockEnd?_of_isPrefix (isPrefix_filled_progress streams begins reached)

/-- A connection has brought no more than there was to read. -/
theorem length_filled_progress_le_unread (b : ReceiveBuffer) (c : Connection) (n : Nat) :
    (ofConnection.progress b c n).buffer.filled.length ≤ c.unread.length := by
  have filled := (ofConnection.tallied_progress b c n).filled
  refine Nat.le_of_not_lt fun beyond => ?_
  -- the first byte that the connection does not have would have been handed over
  have handed := congrFun (ahead_progress streams_ofConnection b c n) c.unread.length
  rw [filled] at beyond
  rw [ahead, if_pos beyond, List.getElem?_eq_getElem beyond,
    List.getElem?_eq_none (Nat.le_refl _)] at handed
  cases handed

/-- Over a connection, the search after any turn finds what one search of everything finds. -/
theorem blockEnd?_progress_ofConnection (b : ReceiveBuffer) (c : Connection) (n : Nat) :
    Header.blockEnd? (ofConnection.progress b c n).buffer.filled =
      (Header.blockEnd? c.unread).filter
        (· ≤ (ofConnection.progress b c n).buffer.filled.length) := by
  apply (ofConnection.rescansAgree b c).whole streams_ofConnection
  · intro i _
    rfl
  · exact length_filled_progress_le_unread b c n

end Reader

open Reader (ofConnection)

/-- **Searches are leftmost and stable, and lines lose nothing.** A needle is found at the least
place at which it stands, whatever follows. The lines of a block are the one way to split it. A
reception that searches its buffer again after every read finds what one search of the input
finds. -/
theorem Bytes.scans_leftmost_and_lossless :
    (∀ needle b : Bytes, needle ≠ [] → FindsFirst needle b) ∧
      (∀ block : Bytes, SplitsAtLineEnds block) ∧
      (∀ {σ : Type} (r : Reader σ) (b : ReceiveBuffer) (s : σ), r.RescansAgree b s) ∧
      ∀ (b : ReceiveBuffer) (c : Connection) (n : Nat),
        Header.blockEnd? (ofConnection.progress b c n).buffer.filled =
          (Header.blockEnd? c.unread).filter
            (· ≤ (ofConnection.progress b c n).buffer.filled.length) := by
  refine ⟨?_, splitsAtLineEnds, Reader.rescansAgree, Reader.blockEnd?_progress_ofConnection⟩
  intro needle b ne_nil
  exact findsFirst ne_nil b

/-- A terminator behind a carriage return of its own, cut in two places by the reads. The needle is
found behind that carriage return, the block has an empty line, and no search before the last read
finds anything. -/
theorem Bytes.scans_of_cut_terminator :
    let pieces := [Utf8.encode "GET / HTTP/1.1\r\r", Utf8.encode "\n\r", Utf8.encode "\nbody"]
    let c : Connection := { arrivals := pieces.map Arrival.data }
    crlf ++ crlf ≠ [] ∧ FindsFirst (crlf ++ crlf) c.unread ∧
      indexOf? (crlf ++ crlf) c.unread = some 15 ∧
      SplitsAtLineEnds c.unread ∧ (lines c.unread)[1]? = some [] ∧
      ofConnection.RescansAgree (.new 64) c ∧
      Header.blockEnd? (ofConnection.progress (.new 64) c 2).buffer.filled = none ∧
      Header.blockEnd? (ofConnection.progress (.new 64) c 3).buffer.filled = some 19 := by
  intro pieces c
  have ne_nil : crlf ++ crlf ≠ [] := List.cons_ne_nil _ _
  obtain ⟨search, split, rescan, whole⟩ := scans_leftmost_and_lossless
  refine ⟨ne_nil, search _ _ ne_nil, by decide +kernel, split _, by decide +kernel,
    rescan ofConnection (.new 64) c, ?_, ?_⟩
  · rw [whole]
    decide +kernel
  · rw [whole]
    decide +kernel

end DeviceHttp
