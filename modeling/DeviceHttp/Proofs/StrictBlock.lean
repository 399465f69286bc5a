import DeviceHttp.Proofs.Pieces
import DeviceHttp.Request.Header

/-!
# The strict reading of a header block

`Header.readBlock` reads a block line by line and drops what is no part of a name or a value:
colons, blanks, line endings, and everything behind the empty line. `FieldLine` and `StrictBlock`
are the form that a block must have, with all that the reading drops. **A block is read exactly if
it has this form** (`Header.readBlock_eq_ok_iff`), and what is read is what its lines hold.

## How

Every piece of a line is as long as a test allows. The proofs that the pieces of a `FieldLine` carry
say that no piece can go on into the next one, so a line is read as what it was put together from
(`Header.scanLine_bytes`). In the other direction they are what the tests of the reading establish
(`Header.exists_fieldLine_of_scanLine`).
-/

namespace DeviceHttp

/-! ## The grammar -/

/-- How a line ends: in CRLF, or in a line feed alone. -/
inductive LineEnd where
  | crlf
  | lf
deriving DecidableEq

namespace LineEnd

def bytes : LineEnd → Bytes
  | crlf => Bytes.crlf
  | lf => [10]

end LineEnd

/-- A header line, with all that the reading drops. -/
structure FieldLine where
  name : Bytes
  /-- The blanks behind the colon. -/
  before : Bytes
  value : Bytes
  /-- The blanks at the end of the line. -/
  after : Bytes
  ending : LineEnd
  name_ne_nil : name ≠ [] := by decide
  name_token : name.all Header.isTokenByte = true := by decide
  before_blank : before.all Bytes.isBlank = true := by decide
  after_blank : after.all Bytes.isBlank = true := by decide
  value_bytes : value.all Header.isValueByte = true := by decide
  /-- All blanks in front of the value are those behind the colon. -/
  first_visible : (value ++ after).head?.any Bytes.isBlank = false := by decide
  last_visible : value.getLast?.any Bytes.isBlank = false := by decide

namespace FieldLine

section

variable (l : FieldLine) {b : UInt8}

theorem isTokenByte_of_mem (mem : b ∈ l.name) : Header.isTokenByte b = true :=
  List.all_eq_true.1 l.name_token b mem

theorem isBlank_of_mem_before (mem : b ∈ l.before) : Bytes.isBlank b = true :=
  List.all_eq_true.1 l.before_blank b mem

theorem isBlank_of_mem_after (mem : b ∈ l.after) : Bytes.isBlank b = true :=
  List.all_eq_true.1 l.after_blank b mem

theorem isValueByte_of_mem (mem : b ∈ l.value) : Header.isValueByte b = true :=
  List.all_eq_true.1 l.value_bytes b mem

theorem isBlank_of_mem_head? (mem : b ∈ (l.value ++ l.after).head?) : Bytes.isBlank b = false := by
  have visible := l.first_visible
  rwa [mem] at visible

theorem isBlank_of_mem_getLast? (mem : b ∈ l.value.getLast?) : Bytes.isBlank b = false := by
  have visible := l.last_visible
  rwa [mem] at visible

end

/-- The line without its ending. -/
def text (l : FieldLine) : Bytes := l.name ++ 58 :: (l.before ++ (l.value ++ l.after))

def bytes (l : FieldLine) : Bytes := l.text ++ l.ending.bytes

/-- What is read of the line. -/
def header (l : FieldLine) : Header := ⟨Header.nameText l.name, l.value⟩

/-- Whether the line has the given name, up to ASCII case. -/
def isNamed (l : FieldLine) (name : String) : Bool :=
  l.name.map Bytes.lowerAscii == (Utf8.encode name).map Bytes.lowerAscii

/-- The blanks behind the colon are dropped and no others, unless there is nothing else. -/
theorem dropBlanks_append (l : FieldLine) {b : Bytes}
    (visible : ∀ x ∈ b.head?, Bytes.isBlank x = false) :
    Bytes.dropBlanks (l.before ++ (l.value ++ l.after ++ b)) = l.value ++ l.after ++ b := by
  refine dropWhile_append_of_stops (fun _ => l.isBlank_of_mem_before) fun x first => ?_
  have shown := @l.isBlank_of_mem_head? x
  generalize l.value ++ l.after = kept at first shown
  cases kept with
  | nil => exact visible x first
  | cons y more => exact shown first

end FieldLine

/-- A block that can be read strictly: header lines, an empty line, and a rest that is not read. -/
structure StrictBlock where
  lines : List FieldLine
  /-- How the empty line ends. -/
  ending : LineEnd
  rest : Bytes

namespace StrictBlock

def bytes (s : StrictBlock) : Bytes := s.lines.flatMap FieldLine.bytes ++ (s.ending.bytes ++ s.rest)

end StrictBlock

/-! ## The reading -/

namespace Header

variable {b rest : Bytes}

/-- No octet of a name is taken for what stands around names. -/
theorem isTokenByte_plain {b : UInt8} (token : isTokenByte b = true) :
    b.toNat ≤ 127 ∧ b ≠ 58 ∧ b ≠ 13 ∧ b ≠ 10 := by
  have all : ∀ n < 256, isTokenByte (UInt8.ofNat n) = true →
      n ≤ 127 ∧ UInt8.ofNat n ≠ 58 ∧ UInt8.ofNat n ≠ 13 ∧ UInt8.ofNat n ≠ 10 := by decide +kernel
  have := all b.toNat b.toNat_lt
  rw [UInt8.ofNat_toNat] at this
  exact this token

theorem isValueByte_plain {b : UInt8} (isValue : isValueByte b = true) : b ≠ 13 ∧ b ≠ 10 := by
  constructor <;>
    · rintro rfl
      cases isValue

theorem isValueByte_of_isBlank {b : UInt8} (blank : Bytes.isBlank b = true) :
    isValueByte b = true := by
  simp only [Bytes.isBlank, Bool.or_eq_true, decide_eq_true_eq] at blank
  rcases blank with rfl | rfl <;> rfl

theorem head?_lineEnd {e : LineEnd} {first : UInt8}
    (head : first ∈ (e.bytes ++ rest).head?) : first = 13 ∨ first = 10 := by
  cases e with
  | crlf => exact .inl (Option.some.inj head).symm
  | lf => exact .inr (Option.some.inj head).symm

theorem afterLineEnd_eq_some_iff :
    afterLineEnd b = some (some rest) ↔ ∃ e : LineEnd, b = e.bytes ++ rest := by
  constructor
  · intro h
    unfold afterLineEnd at h
    split at h
    · cases h
    · cases h
    · cases h
      exact ⟨.crlf, rfl⟩
    · cases h
      exact ⟨.lf, rfl⟩
    · cases h
  · rintro ⟨e | e, rfl⟩ <;> rfl

/-- The empty line is a line ending in front of everything else. -/
theorem scanLine_eq_blank_iff :
    scanLine b = .blank ↔ ∃ (e : LineEnd) (rest : Bytes), b = e.bytes ++ rest := by
  constructor
  · intro h
    unfold scanLine at h
    split at h
    · cases h
    · split at h
      · split at h
        · cases h
        · cases h
        · next rest ended => exact ⟨_, rest, (afterLineEnd_eq_some_iff.1 ended).choose_spec⟩
      · simp only at h
        split at h
        · cases h
        · split at h
          · cases h
          · split at h <;> cases h
  · rintro ⟨e | e, rest, rfl⟩ <;> rfl

/-- What a test marks at the beginning of a sequence, in front of what is dropped with it. -/
theorem takeWhile_append_drop (mark : UInt8 → Bool) (b : Bytes) :
    b.takeWhile mark ++ b.drop (b.takeWhile mark).length = b :=
  List.prefix_iff_eq_append.1 (List.takeWhile_prefix mark)

/-- A name, a colon and what is read behind them make up a line of the grammar. -/
theorem exists_fieldLine {name behind : Bytes} {ending : LineEnd} (name_ne_nil : name ≠ [])
    (name_token : name.all isTokenByte = true)
    (ends : (Bytes.dropBlanks behind).drop
      ((Bytes.dropBlanks behind).takeWhile isValueByte).length = ending.bytes ++ rest) :
    ∃ l : FieldLine, name ++ 58 :: behind = l.bytes ++ rest ∧ l.header =
      ⟨nameText name,
        dropEndWhile Bytes.isBlank ((Bytes.dropBlanks behind).takeWhile isValueByte)⟩ := by
  have whole := takeWhile_append_drop isValueByte (Bytes.dropBlanks behind)
  rw [ends] at whole
  have bytes : ((Bytes.dropBlanks behind).takeWhile isValueByte).all isValueByte = true :=
    List.all_takeWhile
  generalize (Bytes.dropBlanks behind).takeWhile isValueByte = read at whole bytes
  obtain ⟨after, joined, blank, last⟩ := exists_append_of_dropEndWhile Bytes.isBlank read
  have first_visible :
      (dropEndWhile Bytes.isBlank read ++ after).head?.any Bytes.isBlank = false := by
    rw [joined]
    cases read with
    | nil => rfl
    | cons x read =>
      apply head?_dropWhile_unmarked behind x
      show x ∈ (Bytes.dropBlanks behind).head?
      rw [← whole]
      rfl
  have last_visible : (dropEndWhile Bytes.isBlank read).getLast?.any Bytes.isBlank = false := by
    cases ends : (dropEndWhile Bytes.isBlank read).getLast? with
    | none => rfl
    | some x => exact last x ends
  have value_bytes : (dropEndWhile Bytes.isBlank read).all isValueByte = true := by
    rw [← joined, List.all_append, Bool.and_eq_true] at bytes
    exact bytes.1
  refine ⟨⟨name, behind.takeWhile Bytes.isBlank, dropEndWhile Bytes.isBlank read, after, ending,
    name_ne_nil, name_token, List.all_takeWhile, List.all_eq_true.2 blank, value_bytes,
    first_visible, last_visible⟩, ?_, rfl⟩
  have blanks : behind = behind.takeWhile Bytes.isBlank ++ Bytes.dropBlanks behind :=
    List.takeWhile_append_dropWhile.symm
  simp only [FieldLine.bytes, FieldLine.text, joined, List.append_assoc, List.cons_append, whole,
    ← blanks]

theorem exists_fieldLine_of_scanLine {line : Header} (h : scanLine b = .header line rest) :
    ∃ l : FieldLine, b = l.bytes ++ rest ∧ l.header = line := by
  unfold scanLine at h
  split at h
  · cases h
  · next first others =>
    split at h
    · split at h <;> cases h
    · simp only at h
      split at h
      · cases h
      · next colon behind split =>
        split at h
        · cases h
        · next named =>
          split at h
          · cases h
          · cases h
          · next next ended =>
            cases h
            obtain ⟨ending, ends⟩ := afterLineEnd_eq_some_iff.1 ended
            have whole := takeWhile_append_drop isTokenByte (first :: others)
            simp only [Bool.or_eq_true, List.isEmpty_iff, decide_eq_true_eq, not_or,
              Decidable.not_not] at named
            obtain ⟨name_ne_nil, rfl⟩ := named
            rw [split] at whole
            obtain ⟨l, eq, header⟩ := exists_fieldLine name_ne_nil List.all_takeWhile ends
            exact ⟨l, whole.symm.trans eq, header⟩

/-- A header line is read as what the grammar says it holds. -/
theorem scanLine_bytes (l : FieldLine) (rest : Bytes) :
    scanLine (l.bytes ++ rest) = .header l.header rest := by
  have shape : l.bytes ++ rest =
      l.name ++ 58 :: (l.before ++ (l.value ++ l.after ++ (l.ending.bytes ++ rest))) := by
    simp only [FieldLine.bytes, FieldLine.text, List.append_assoc, List.cons_append]
  have name : (l.bytes ++ rest).takeWhile isTokenByte = l.name := by
    rw [shape, takeWhile_append_of_stops fun _ => l.isTokenByte_of_mem]
    exact fun b first => Option.some.inj first ▸ rfl
  have behind : (l.bytes ++ rest).drop l.name.length =
      58 :: (l.before ++ (l.value ++ l.after ++ (l.ending.bytes ++ rest))) := by
    rw [shape, List.drop_left]
  have blanks : Bytes.dropBlanks (l.before ++ (l.value ++ l.after ++ (l.ending.bytes ++ rest))) =
      l.value ++ l.after ++ (l.ending.bytes ++ rest) := by
    refine l.dropBlanks_append fun b first => ?_
    rcases head?_lineEnd first with rfl | rfl <;> rfl
  have value : (l.value ++ l.after ++ (l.ending.bytes ++ rest)).takeWhile isValueByte =
      l.value ++ l.after := by
    refine takeWhile_append_of_stops (fun b mem => ?_) fun b first => ?_
    · rcases List.mem_append.1 mem with inValue | blank
      · exact l.isValueByte_of_mem inValue
      · exact isValueByte_of_isBlank (l.isBlank_of_mem_after blank)
    · rcases head?_lineEnd first with rfl | rfl <;> rfl
  have ended : afterLineEnd (l.ending.bytes ++ rest) = some (some rest) :=
    afterLineEnd_eq_some_iff.2 ⟨l.ending, rfl⟩
  have header : (⟨nameText l.name, dropEndWhile Bytes.isBlank (l.value ++ l.after)⟩ : Header) =
      l.header := by
    rw [dropEndWhile_append_of_stops (fun _ => l.isBlank_of_mem_after)
      fun _ => l.isBlank_of_mem_getLast?]
    rfl
  obtain ⟨first, others, cons⟩ := List.exists_cons_of_ne_nil l.name_ne_nil
  obtain ⟨-, -, cr, lf⟩ := isTokenByte_plain (l.isTokenByte_of_mem (cons ▸ List.mem_cons_self))
  have visible : l.name.isEmpty = false := List.isEmpty_eq_false_iff.2 l.name_ne_nil
  obtain ⟨more, start⟩ : ∃ more, l.bytes ++ rest = first :: more := ⟨_, by rw [shape, cons]; rfl⟩
  rw [start] at name behind ⊢
  rw [scanLine.eq_2, if_neg (not_or.2 ⟨cr, lf⟩)]
  simp only [name, behind, visible, blanks, value, List.drop_left, ended, header]
  rfl

theorem bytes_cons (l : FieldLine) (ls : List FieldLine) (e : LineEnd) (rest : Bytes) :
    (⟨l :: ls, e, rest⟩ : StrictBlock).bytes =
      l.bytes ++ (⟨ls, e, rest⟩ : StrictBlock).bytes := by
  unfold StrictBlock.bytes
  simp only [List.flatMap_cons, List.append_assoc]

variable {slots : Nat} {hs : List Header}

theorem readBlock_bytes {s : StrictBlock} (room : s.lines.length ≤ slots) :
    readBlock slots s.bytes = .ok (s.lines.map FieldLine.header) := by
  obtain ⟨ls, e, rest⟩ := s
  induction ls generalizing slots with
  | nil =>
    have blank : scanLine (⟨[], e, rest⟩ : StrictBlock).bytes = .blank :=
      scanLine_eq_blank_iff.2 ⟨e, rest, rfl⟩
    rw [readBlock.eq_def]
    simp only [blank]
    rfl
  | cons l ls ih =>
    have line := scanLine_bytes l (⟨ls, e, rest⟩ : StrictBlock).bytes
    cases slots with
    | zero => exact absurd room (Nat.not_succ_le_zero _)
    | succ slots =>
      rw [bytes_cons, readBlock.eq_def]
      simp only [line, ih (Nat.le_of_succ_le_succ room)]
      rfl

/-- A reading that succeeds ends at the empty line, or has a line in front of another one. -/
theorem cases_of_readBlock (h : readBlock slots b = .ok hs) :
    (scanLine b = .blank ∧ hs = []) ∨
      ∃ slots' line rest more, slots = slots' + 1 ∧ scanLine b = .header line rest ∧
        readBlock slots' rest = .ok more ∧ hs = line :: more := by
  rw [readBlock.eq_def] at h
  cases scanned : scanLine b with
  | blank =>
    simp only [scanned] at h
    cases slots <;> cases h <;> exact .inl ⟨rfl, rfl⟩
  | header line rest =>
    cases slots with
    | zero =>
      simp only [scanned] at h
      cases h
    | succ slots =>
      simp only [scanned] at h
      cases read : readBlock slots rest with
      | error e =>
        rw [read] at h
        cases h
      | ok more =>
        rw [read] at h
        cases h
        exact .inr ⟨slots, line, rest, more, rfl, rfl, read, rfl⟩
  | _ =>
    simp only [scanned] at h
    cases slots <;> cases h

theorem exists_strictBlock_of_readBlock (h : readBlock slots b = .ok hs) :
    ∃ s : StrictBlock,
      s.bytes = b ∧ s.lines.length ≤ slots ∧ s.lines.map FieldLine.header = hs := by
  induction slots generalizing b hs with
  | zero =>
    obtain ⟨blank, rfl⟩ | ⟨_, _, _, _, slots_eq, -⟩ := cases_of_readBlock h
    · obtain ⟨e, rest, rfl⟩ := scanLine_eq_blank_iff.1 blank
      exact ⟨⟨[], e, rest⟩, rfl, Nat.le_refl 0, rfl⟩
    · cases slots_eq
  | succ slots ih =>
    obtain ⟨blank, rfl⟩ | ⟨_, line, rest, more, slots_eq, scanned, read, rfl⟩ :=
      cases_of_readBlock h
    · obtain ⟨e, rest, rfl⟩ := scanLine_eq_blank_iff.1 blank
      exact ⟨⟨[], e, rest⟩, rfl, Nat.zero_le _, rfl⟩
    · obtain rfl := Nat.succ.inj slots_eq
      obtain ⟨l, rfl, rfl⟩ := exists_fieldLine_of_scanLine scanned
      obtain ⟨⟨ls, e, rest⟩, rfl, room, rfl⟩ := ih read
      exact ⟨⟨l :: ls, e, rest⟩, bytes_cons l ls e rest, Nat.succ_le_succ room, rfl⟩

/-- **A block is read strictly exactly if it has the form of the grammar**, with a place for every
line. What is read is what its lines hold. -/
theorem readBlock_eq_ok_iff : readBlock slots b = .ok hs ↔
    ∃ s : StrictBlock,
      s.bytes = b ∧ s.lines.length ≤ slots ∧ s.lines.map FieldLine.header = hs := by
  constructor
  · exact exists_strictBlock_of_readBlock
  · rintro ⟨s, rfl, room, rfl⟩
    exact readBlock_bytes room

/-- The form of a block decides what is read. -/
theorem headers_unique {s s' : StrictBlock} (same : s.bytes = s'.bytes) :
    s.lines.map FieldLine.header = s'.lines.map FieldLine.header := by
  have read := readBlock_bytes (Nat.le_add_right s.lines.length s'.lines.length)
  have read' := readBlock_bytes (Nat.le_add_left s'.lines.length s.lines.length)
  rw [same, read'] at read
  exact (Except.ok.inj read).symm

end Header

end DeviceHttp
