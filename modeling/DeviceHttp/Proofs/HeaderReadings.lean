import DeviceHttp.Proofs.AnnouncedBody
import DeviceHttp.Proofs.SentLine
import DeviceHttp.Proofs.StrictBlock

/-!
# Two readings of a header block

A header block may be read strictly, line by line, and it may be searched for one name. The strict
reading ends a line at a line feed, with or without a carriage return in front of it. The search
knows no other line ending than CRLF.

So the two have the same lines exactly where no line ends in a line feed alone. **They agree on a
name if the line of the first header with that name ends in CRLF, and the line in front of it**
(`Request.readings_agree`). Without such a header, the empty line takes its place. What the lines
further up end in makes no difference. Where the line in front ends in CRLF, the line of the header
must do so as well: otherwise the search takes what follows the line feed for a part of the value.

## Main definitions

* `FieldLine`, `StrictBlock` — the grammar of the strict reading, with all that the reading drops
* `StrictBlock.StandsAlone` — what the line endings around a name must be

## How

`Header.readBlock_eq_ok_iff` takes a block that can be read strictly apart by the grammar. The
search goes through the same pieces with a line of its own that has not ended yet. Header lines with
other names are added to that line or end it (`FieldLine.find?_skip`). A line that begins with
another name is passed over, whatever is added to it.
-/

namespace DeviceHttp

/-! ## Letters of either case -/

namespace Utf8

/-- Case is a matter of the octets as much as of the characters. -/
theorem encodeChar_lowerAscii (c : Char) :
    String.utf8EncodeChar (Text.lowerAscii c) =
      (String.utf8EncodeChar c).map Bytes.lowerAscii := by
  have narrow : ∀ n < 128, String.utf8EncodeChar (Text.lowerAscii (Char.ofNat n)) =
      (String.utf8EncodeChar (Char.ofNat n)).map Bytes.lowerAscii := by decide +kernel
  rcases Nat.lt_or_ge 127 c.toNat with wide | ascii
  · have still : Text.lowerAscii c = c := by
      refine if_neg fun capital => ?_
      have below : c.toNat ≤ 90 := capital.2
      omega
    have octets : ∀ b ∈ String.utf8EncodeChar c, Bytes.lowerAscii b = b := by
      intro b mem
      have high := le_of_mem_encodeChar wide mem
      refine if_neg fun capital => ?_
      have below := UInt8.le_iff_toNat_le.1 capital.2
      simp only [UInt8.reduceToNat] at below
      omega
    rw [still, List.map_congr_left octets, List.map_id']
  · have := narrow c.toNat (by omega)
    rwa [Char.ofNat_toNat] at this

theorem encodeChars_map_lowerAscii (cs : List Char) :
    encodeChars (cs.map Text.lowerAscii) = (encodeChars cs).map Bytes.lowerAscii := by
  induction cs with
  | nil => rfl
  | cons c cs ih =>
    rw [List.map_cons, encodeChars_cons, encodeChars_cons, List.map_append, ih,
      encodeChar_lowerAscii]

theorem encodeChars_injective {cs ds : List Char} (same : encodeChars cs = encodeChars ds) :
    cs = ds := by
  have := @encode_injective (String.ofList cs) (String.ofList ds)
  rw [encode, encode, String.toList_ofList, String.toList_ofList] at this
  exact String.ofList_injective (this same)

/-- Characters agree up to case exactly if their octets do. -/
theorem eqIgnoreCase_iff_encodeChars {cs ds : List Char} : Text.eqIgnoreCase cs ds = true ↔
    (encodeChars cs).map Bytes.lowerAscii = (encodeChars ds).map Bytes.lowerAscii := by
  rw [Text.eqIgnoreCase, beq_iff_eq, ← encodeChars_map_lowerAscii, ← encodeChars_map_lowerAscii]
  exact ⟨congrArg encodeChars, encodeChars_injective⟩

/-- Texts agree up to case exactly if their octets do. -/
theorem eqIgnoreCase_iff {s t : String} : Text.eqIgnoreCase s.toList t.toList = true ↔
    (encode s).map Bytes.lowerAscii = (encode t).map Bytes.lowerAscii :=
  eqIgnoreCase_iff_encodeChars

end Utf8

/-! ## Blanks behind a text -/

namespace Text

/-- The blanks of a header line. -/
def isSpaceOrTab (c : Char) : Bool := c = ' ' || c = '\t'

/-- A text without the spaces and tabs at its end. -/
def dropEndBlanks (s : String) : String := String.ofList (dropEndWhile isSpaceOrTab s.toList)

end Text

namespace Utf8

/-- Blanks are their own octets. -/
theorem isBlank_iff {b : UInt8} :
    Bytes.isBlank b = true ↔ ∃ c, Text.isSpaceOrTab c = true ∧ b = asciiOctet c := by
  simp only [Bytes.isBlank, Text.isSpaceOrTab, Bool.or_eq_true, decide_eq_true_eq]
  constructor
  · rintro (rfl | rfl)
    · exact ⟨' ', .inl rfl, rfl⟩
    · exact ⟨'\t', .inr rfl, rfl⟩
  · rintro ⟨c, rfl | rfl, rfl⟩
    · exact .inl rfl
    · exact .inr rfl

theorem le_of_isSpaceOrTab {c : Char} (blank : Text.isSpaceOrTab c = true) : c.toNat ≤ 127 := by
  simp only [Text.isSpaceOrTab, Bool.or_eq_true, decide_eq_true_eq] at blank
  rcases blank with rfl | rfl <;> decide

/-- Blank octets are the encoding of blanks. -/
theorem exists_encodeChars_of_blank {blanks : Bytes}
    (blank : ∀ b ∈ blanks, Bytes.isBlank b = true) :
    ∃ cs, (∀ c ∈ cs, Text.isSpaceOrTab c = true) ∧ blanks = encodeChars cs := by
  induction blanks with
  | nil => exact ⟨[], List.forall_mem_nil _, rfl⟩
  | cons b blanks ih =>
    obtain ⟨first, others⟩ := List.forall_mem_cons.1 blank
    obtain ⟨c, blank', rfl⟩ := isBlank_iff.1 first
    obtain ⟨cs, blanks', rfl⟩ := ih others
    refine ⟨c :: cs, List.forall_mem_cons.2 ⟨blank', blanks'⟩, ?_⟩
    rw [encodeChars_cons, encodeChar_of_ascii (le_of_isSpaceOrTab blank')]
    rfl

/-- The last character is a blank only if the last octet is. -/
theorem isSpaceOrTab_of_mem_getLast? {cs : List Char}
    (visible : ∀ b ∈ (encodeChars cs).getLast?, Bytes.isBlank b = false) :
    ∀ c ∈ cs.getLast?, Text.isSpaceOrTab c = false := by
  intro c last
  refine Bool.eq_false_iff.2 fun blank => ?_
  obtain ⟨front, rfl⟩ := List.getLast?_eq_some_iff.1 last
  rw [encodeChars_append, encodeChars_cons,
    encodeChar_of_ascii (le_of_isSpaceOrTab blank)] at visible
  have octet := visible (asciiOctet c) (by
    rw [encodeChars_nil, List.append_nil, List.getLast?_concat]
    rfl)
  rw [isBlank_iff.2 ⟨c, blank, rfl⟩] at octet
  cases octet

/-- **Octets with blanks behind them are a text exactly if the octets are one**, and then it is the
same text but for the blanks. -/
theorem map_dropEndBlanks_decode? {b blanks : Bytes}
    (visible : ∀ x ∈ b.getLast?, Bytes.isBlank x = false)
    (blank : ∀ x ∈ blanks, Bytes.isBlank x = true) :
    (decode? (b ++ blanks)).map Text.dropEndBlanks = decode? b := by
  obtain ⟨cs, blank', rfl⟩ := exists_encodeChars_of_blank blank
  apply Option.ext
  intro text
  rw [Option.map_eq_some_iff]
  simp only [decode?_eq_some_iff]
  constructor
  · rintro ⟨whole, eq, rfl⟩
    -- the blanks were encoded behind a text
    obtain ⟨front, rfl⟩ : ∃ front, b = encodeChars front := by
      cases cs with
      | nil => exact ⟨whole.toList, by rw [← List.append_nil b]; exact eq⟩
      | cons c cs =>
        have ascii := le_of_isSpaceOrTab (blank' c List.mem_cons_self)
        rw [encodeChars_cons, encodeChar_of_ascii ascii] at eq
        obtain ⟨front, -, -, eq', -⟩ := exists_of_encodeChars_eq_append_cons ascii eq.symm
        exact ⟨front, eq'.symm⟩
    have same : whole = String.ofList (front ++ cs) := by
      apply encode_injective
      rw [← eq, encode, String.toList_ofList, encodeChars_append]
    rw [same, Text.dropEndBlanks, String.toList_ofList,
      dropEndWhile_append_of_stops blank' (isSpaceOrTab_of_mem_getLast? visible), encode,
      String.toList_ofList]
  · rintro rfl
    refine ⟨text ++ String.ofList cs, ?_, ?_⟩
    · rw [encode_append, encode, encode, String.toList_ofList]
    · rw [Text.dropEndBlanks, String.toList_append, String.toList_ofList,
        dropEndWhile_append_of_stops blank' (isSpaceOrTab_of_mem_getLast? visible),
        String.ofList_toList]

end Utf8

/-! ## The search among the same lines -/

namespace Header

variable {name : String}

/-- A line ending ends the line in front of it, whatever that line has been put together from. -/
theorem find?_append_crlf {line : Bytes} (plain : 13 ∉ line) (b : Bytes) :
    find? (line ++ (Bytes.crlf ++ b)) name = (valueOn? name line).or (find? b name) := by
  rw [find?, Bytes.lines_append_crlf, Bytes.lines_of_notMem plain, List.findSome?_append,
    List.findSome?_singleton]
  rfl

theorem exists_lines_append {line : Bytes} (plain : 13 ∉ line) (b : Bytes) :
    ∃ first others, Bytes.lines b = first :: others ∧
      Bytes.lines (line ++ b) = (line ++ first) :: others := by
  induction line with
  | nil =>
    obtain ⟨first, others, eq⟩ := List.exists_cons_of_ne_nil (Bytes.lines_ne_nil b)
    exact ⟨first, others, eq, eq⟩
  | cons x line ih =>
    obtain ⟨here, behind⟩ := not_or.1 (mt List.mem_cons.2 plain)
    obtain ⟨first, others, eq, eq'⟩ := ih behind
    refine ⟨first, others, eq, ?_⟩
    rw [List.cons_append, Bytes.lines_cons (Ne.symm here), eq']
    rfl

end Header

namespace FieldLine

open Header

variable {name : String}

theorem notMem_text (l : FieldLine) : 13 ∉ l.text := by
  intro mem
  simp only [text, List.mem_append, List.mem_cons] at mem
  rcases mem with inName | colon | before | inValue | after
  · exact (isTokenByte_plain (l.isTokenByte_of_mem inName)).2.2.1 rfl
  · cases colon
  · cases l.isBlank_of_mem_before before
  · exact (isValueByte_plain (l.isValueByte_of_mem inValue)).1 rfl
  · cases l.isBlank_of_mem_after after

/-- A line is found under its name and no other, whatever is added to it. -/
theorem valueOn?_text_append (l : FieldLine) (plain : 58 ∉ Utf8.encode name) (b : Bytes) :
    valueOn? name (l.text ++ b) =
      if l.isNamed name then some (Bytes.dropBlanks (l.before ++ (l.value ++ l.after ++ b)))
      else none := by
  have plain' : 58 ∉ l.name := fun mem => (isTokenByte_plain (l.isTokenByte_of_mem mem)).2.1 rfl
  have shape : l.text ++ b = l.name ++ 58 :: (l.before ++ (l.value ++ l.after ++ b)) := by
    simp only [text, List.append_assoc, List.cons_append]
  rw [shape, valueOn?_colon plain plain']
  rfl

/-- What the search has seen of a line that is not ended yet, and that holds no value for the name
whatever follows. -/
structure IsPassed (name : String) (line : Bytes) : Prop where
  plain : 13 ∉ line
  unnamed : line ≠ [] → ∀ b, valueOn? name (line ++ b) = none

theorem isPassed_nil : IsPassed name [] where
  plain := List.not_mem_nil
  unnamed ne_nil := absurd rfl ne_nil

/-- A line with another name is passed over, alone or behind what was passed over. -/
theorem IsPassed.append {line : Bytes} (passed : IsPassed name line) {l : FieldLine}
    (other : l.isNamed name = false) (plain : 58 ∉ Utf8.encode name) :
    IsPassed name (line ++ l.text) where
  plain := fun mem => (List.mem_append.1 mem).elim passed.plain l.notMem_text
  unnamed := by
    intro _ b
    rw [List.append_assoc]
    by_cases started : line = []
    · rw [started, List.nil_append, l.valueOn?_text_append plain, other]
      rfl
    · exact passed.unnamed started _

theorem IsPassed.append_lf {line : Bytes} (passed : IsPassed name line) (started : line ≠ []) :
    IsPassed name (line ++ [10]) where
  plain := fun mem => (List.mem_append.1 mem).elim passed.plain (by decide)
  unnamed := by
    intro _ b
    rw [List.append_assoc]
    exact passed.unnamed started _

theorem text_ne_nil (l : FieldLine) : l.text ≠ [] :=
  List.append_ne_nil_of_left_ne_nil l.name_ne_nil _

/-- **Lines with other names are passed over**, up to the last one that ends in CRLF. -/
theorem find?_skip (plain : 58 ∉ Utf8.encode name) {ls : List FieldLine} {line : Bytes}
    (passed : IsPassed name line) (others : ∀ l ∈ ls, l.isNamed name = false)
    (last : ∀ l ∈ ls.getLast?, l.ending = .crlf) (ended : ls = [] → line = []) (b : Bytes) :
    find? (line ++ (ls.flatMap bytes ++ b)) name = find? b name := by
  induction ls generalizing line with
  | nil => rw [ended rfl, List.nil_append, List.flatMap_nil, List.nil_append]
  | cons l ls ih =>
    obtain ⟨other, others⟩ := List.forall_mem_cons.1 others
    have passed' := passed.append other plain
    have started : line ++ l.text ≠ [] := List.append_ne_nil_of_right_ne_nil _ l.text_ne_nil
    have last' : ∀ k ∈ ls.getLast?, k.ending = .crlf := by
      intro k mem
      apply last k
      rw [List.getLast?_cons, mem]
      rfl
    cases ending : l.ending with
    | crlf =>
      have none := passed'.unnamed started []
      rw [List.append_nil] at none
      have shape : line ++ ((l :: ls).flatMap bytes ++ b) =
          line ++ l.text ++ (Bytes.crlf ++ ([] ++ (ls.flatMap bytes ++ b))) := by
        simp only [List.flatMap_cons, bytes, ending, LineEnd.bytes, List.append_assoc,
          List.nil_append]
      rw [shape, find?_append_crlf passed'.plain, none, Option.none_or,
        ih isPassed_nil others last' fun _ => rfl]
    | lf =>
      -- the line goes on, so this is not the last one
      have more : ls ≠ [] := by
        rintro rfl
        cases (last l rfl).symm.trans ending
      have shape : line ++ ((l :: ls).flatMap bytes ++ b) =
          line ++ l.text ++ [10] ++ (ls.flatMap bytes ++ b) := by
        simp only [List.flatMap_cons, bytes, ending, LineEnd.bytes, List.append_assoc]
      rw [shape, ih (passed'.append_lf started) others last' fun none => absurd none more]

/-- A line that ends in CRLF is found with its value and the blanks behind it. -/
theorem find?_of_crlf (plain : 58 ∉ Utf8.encode name) {l : FieldLine}
    (named : l.isNamed name = true) (ending : l.ending = .crlf) (b : Bytes) :
    find? (l.bytes ++ b) name = some (l.value ++ l.after) := by
  have value := l.valueOn?_text_append plain []
  rw [named, if_pos rfl, l.dropBlanks_append (by exact fun x none => by cases none),
    List.append_nil, List.append_nil] at value
  rw [bytes, ending, LineEnd.bytes, List.append_assoc, find?_append_crlf l.notMem_text, value,
    Option.some_or]

/-- A line that ends in a line feed alone is found with something of what follows. -/
theorem find?_of_lf (plain : 58 ∉ Utf8.encode name) {l : FieldLine}
    (named : l.isNamed name = true) (ending : l.ending = .lf) (b : Bytes) :
    ∃ more, find? (l.bytes ++ b) name = some (l.value ++ l.after ++ 10 :: more) := by
  have plain' : 13 ∉ l.text ++ [10] := fun mem =>
    (List.mem_append.1 mem).elim l.notMem_text (by decide)
  obtain ⟨more, others, -, lines⟩ := exists_lines_append plain' b
  have value := l.valueOn?_text_append plain (10 :: more)
  have visible : ∀ x ∈ (10 :: more).head?, Bytes.isBlank x = false := by
    intro x first
    rw [← Option.some.inj first]
    rfl
  rw [named, if_pos rfl, l.dropBlanks_append visible] at value
  refine ⟨more, ?_⟩
  rw [bytes, ending, LineEnd.bytes, find?, lines, List.findSome?_cons, List.append_assoc,
    List.singleton_append, value]

end FieldLine

namespace Header

/-- The text of a name has the octets of the name. -/
theorem encode_nameText {name : Bytes} (ascii : ∀ b ∈ name, b.toNat ≤ 127) :
    Utf8.encode (nameText name) = name := by
  have same (b : UInt8) (narrow : b.toNat ≤ 127) : (Char.ofNat b.toNat).toNat = b.toNat := by
    rw [Char.ofNat, dif_pos (Or.inl (by omega))]
    rfl
  have narrow : ∀ c ∈ name.map fun b => Char.ofNat b.toNat, c.toNat ≤ 127 := by
    intro c mem
    obtain ⟨b, inName, rfl⟩ := List.mem_map.1 mem
    rw [same b (ascii b inName)]
    exact ascii b inName
  rw [nameText, Utf8.encode, String.toList_ofList, Utf8.encodeChars_of_ascii narrow, List.map_map]
  refine (List.map_congr_left fun b mem => ?_).trans (List.map_id' name)
  rw [Function.comp_apply, Utf8.asciiOctet, same b (ascii b mem), UInt8.ofNat_toNat]

/-- Names are compared as texts in one reading and as octets in the other. -/
theorem eqIgnoreCase_header (l : FieldLine) (name : String) :
    Text.eqIgnoreCase l.header.name.toList name.toList = l.isNamed name := by
  have octets : Utf8.encode (nameText l.name) = l.name :=
    encode_nameText fun b mem => (isTokenByte_plain (l.isTokenByte_of_mem mem)).1
  rw [Bool.eq_iff_iff, Utf8.eqIgnoreCase_iff, FieldLine.isNamed, beq_iff_eq, FieldLine.header,
    octets]

/-- The value of the first header with a name, up to ASCII case, if it is UTF-8. -/
def strictValue? (headers : List Header) (name : String) : Option String :=
  (headers.find? fun h => Text.eqIgnoreCase h.name.toList name.toList).bind fun h =>
    Utf8.decode? h.value

theorem strictValue?_map (ls : List FieldLine) (name : String) :
    strictValue? (ls.map FieldLine.header) name =
      (ls.find? (·.isNamed name)).bind fun l => Utf8.decode? l.value := by
  rw [strictValue?, List.find?_map]
  simp only [Function.comp_def, eqIgnoreCase_header, Option.bind_map]
  rfl

end Header

/-! ## Both readings -/

namespace StrictBlock

/-- The lines in front of the first one with a name. -/
def front (s : StrictBlock) (name : String) : List FieldLine := s.lines.takeWhile (!·.isNamed name)

/-- How the first line with a name ends, or the empty line if there is none. -/
def endingAt (s : StrictBlock) (name : String) : LineEnd :=
  ((s.lines.find? (·.isNamed name)).map FieldLine.ending).getD s.ending

/-- The line in front of the first one with a name ends in CRLF. -/
def FollowsCrlf (s : StrictBlock) (name : String) : Prop :=
  ∀ l ∈ (s.front name).getLast?, l.ending = .crlf

instance (s : StrictBlock) (name : String) : Decidable (s.FollowsCrlf name) :=
  inferInstanceAs (Decidable (∀ l ∈ (s.front name).getLast?, l.ending = .crlf))

/-- The first line with a name is a line of both readings. -/
structure StandsAlone (s : StrictBlock) (name : String) : Prop where
  follows : s.FollowsCrlf name
  ends : s.endingAt name = .crlf

variable {s : StrictBlock} {name : String}

theorem isNamed_of_mem_front {l : FieldLine} (mem : l ∈ s.front name) : l.isNamed name = false := by
  have other : (!l.isNamed name) = true := List.all_eq_true.1 List.all_takeWhile l mem
  rwa [Bool.not_eq_true'] at other

theorem front_of_none (none : s.lines.find? (·.isNamed name) = none) : s.front name = s.lines := by
  have others : ∀ l ∈ s.lines, (!l.isNamed name) = true := by
    intro l mem
    rw [Bool.eq_false_iff.2 (List.find?_eq_none.1 none l mem), Bool.not_false]
  have whole : (s.lines ++ []).takeWhile (!·.isNamed name) = s.lines :=
    takeWhile_append_of_stops others (by exact fun l none => by cases none)
  rwa [List.append_nil] at whole

theorem exists_lines_eq {l : FieldLine} (found : s.lines.find? (·.isNamed name) = some l) :
    l.isNamed name = true ∧ ∃ more, s.lines = s.front name ++ l :: more := by
  obtain ⟨named, front, more, split, others⟩ := List.find?_eq_some_iff_append.1 found
  refine ⟨named, more, ?_⟩
  have same : s.front name = front := by
    rw [StrictBlock.front, split]
    refine takeWhile_append_of_stops others fun k first => ?_
    rw [← Option.some.inj first, named]
    rfl
  rw [same, split]

/-- The search goes on where the first line with the name begins. -/
theorem find?_bytes (plain : 58 ∉ Utf8.encode name) (follows : s.FollowsCrlf name)
    {l : FieldLine} {more : List FieldLine} (split : s.lines = s.front name ++ l :: more) :
    ∃ b, Header.find? s.bytes name = Header.find? (l.bytes ++ b) name := by
  refine ⟨more.flatMap FieldLine.bytes ++ (s.ending.bytes ++ s.rest), ?_⟩
  have shape : s.bytes = [] ++ ((s.front name).flatMap FieldLine.bytes ++
      (l.bytes ++ (more.flatMap FieldLine.bytes ++ (s.ending.bytes ++ s.rest)))) := by
    rw [StrictBlock.bytes, split]
    simp only [List.flatMap_append, List.flatMap_cons, List.append_assoc, List.nil_append]
  rw [shape, FieldLine.find?_skip plain FieldLine.isPassed_nil (fun _ => isNamed_of_mem_front)
    follows fun _ => rfl]

/-- **A line that both readings have gives the same value**, but for the blanks at its end. -/
theorem find?_of_standsAlone (plain : 58 ∉ Utf8.encode name) (alone : s.StandsAlone name)
    {l : FieldLine} (found : s.lines.find? (·.isNamed name) = some l) :
    Header.find? s.bytes name = some (l.value ++ l.after) := by
  obtain ⟨named, more, split⟩ := exists_lines_eq found
  obtain ⟨b, search⟩ := find?_bytes plain alone.follows split
  have ending : l.ending = .crlf := by
    have ends := alone.ends
    rwa [endingAt, found] at ends
  rw [search, FieldLine.find?_of_crlf plain named ending]

/-- Without a line of the name, the last line and the empty line end in CRLF. -/
theorem StandsAlone.of_none (alone : s.StandsAlone name)
    (absent : s.lines.find? (·.isNamed name) = none) :
    (∀ l ∈ s.lines.getLast?, l.ending = .crlf) ∧ s.ending = .crlf := by
  obtain ⟨follows, ends⟩ := alone
  rw [FollowsCrlf, front_of_none absent] at follows
  rw [endingAt, absent] at ends
  exact ⟨follows, ends⟩

/-- Behind a line ending, an empty line that ends in CRLF is the end of the block. -/
theorem rest_eq_nil {l : Bytes} (last : ∀ l ∈ s.lines.getLast?, l.ending = .crlf)
    (ending : s.ending = .crlf)
    (block : Bytes.EndsAtFirst (Bytes.crlf ++ Bytes.crlf) (l ++ (Bytes.crlf ++ s.bytes))) :
    s.rest = [] := by
  -- whatever the lines are, they end in CRLF, as the first line of the request does
  obtain ⟨x, head⟩ : ∃ x, l ++ (Bytes.crlf ++ s.lines.flatMap FieldLine.bytes) =
      x ++ Bytes.crlf := by
    rcases List.eq_nil_or_concat s.lines with nil | ⟨front, k, eq⟩
    · exact ⟨l, by rw [nil, List.flatMap_nil, List.append_nil]⟩
    · rw [List.concat_eq_append] at eq
      have crlf : k.ending = .crlf := last k (by rw [eq, List.getLast?_concat]; rfl)
      refine ⟨l ++ (Bytes.crlf ++ (front.flatMap FieldLine.bytes ++ k.text)), ?_⟩
      rw [eq]
      simp only [List.flatMap_append, List.flatMap_singleton, FieldLine.bytes, crlf,
        LineEnd.bytes, List.append_assoc]
  by_contra more
  apply block.first
  have shape : l ++ (Bytes.crlf ++ s.bytes) = x ++ (Bytes.crlf ++ Bytes.crlf) ++ s.rest := by
    rw [bytes, ending, ← List.append_assoc Bytes.crlf, ← List.append_assoc l, head]
    simp only [LineEnd.bytes, List.append_assoc]
  rw [shape, List.dropLast_append_of_ne_nil more]
  exact ⟨x, s.rest.dropLast, rfl⟩

/-- Without a line of the name, nothing is found. -/
theorem find?_eq_none {l : Bytes} (plain : 58 ∉ Utf8.encode name) (alone : s.StandsAlone name)
    (absent : s.lines.find? (·.isNamed name) = none)
    (block : Bytes.EndsAtFirst (Bytes.crlf ++ Bytes.crlf) (l ++ (Bytes.crlf ++ s.bytes))) :
    Header.find? s.bytes name = none := by
  obtain ⟨last, ending⟩ := alone.of_none absent
  have others : ∀ l ∈ s.lines, l.isNamed name = false := fun l mem =>
    Bool.eq_false_iff.2 (List.find?_eq_none.1 absent l mem)
  have shape : s.bytes = [] ++ (s.lines.flatMap FieldLine.bytes ++ ([] ++ (Bytes.crlf ++ []))) := by
    rw [bytes, ending, rest_eq_nil last ending block]
    rfl
  rw [shape, FieldLine.find?_skip plain FieldLine.isPassed_nil others last fun _ => rfl,
    Header.find?_append_crlf List.not_mem_nil, Header.valueOn?_nil, Option.none_or]
  show List.findSome? (Header.valueOn? name) [[]] = none
  rw [List.findSome?_singleton, Header.valueOn?_nil]

end StrictBlock

namespace Text

/-- Only blanks are dropped. -/
theorem mem_dropEndBlanks {text : String} {c : Char} (mem : c ∈ text.toList)
    (visible : isSpaceOrTab c = false) : c ∈ (dropEndBlanks text).toList := by
  obtain ⟨dropped, joined, blank, -⟩ := exists_append_of_dropEndWhile isSpaceOrTab text.toList
  rw [dropEndBlanks, String.toList_ofList]
  rw [← joined] at mem
  rcases List.mem_append.1 mem with kept | gone
  · exact kept
  · rw [blank c gone] at visible
    cases visible

end Text

/-- A line feed stays in a text whose blanks are dropped. -/
theorem Utf8.map_dropEndBlanks_ne {b : Bytes} {text : String} (mem : 10 ∈ b)
    (plain : 10 ∉ encode text) : (decode? b).map Text.dropEndBlanks ≠ some text := by
  intro same
  obtain ⟨whole, decoded, rfl⟩ := Option.map_eq_some_iff.1 same
  rw [decode?_eq_some_iff.1 decoded] at mem
  have feed : asciiOctet '\n' = 10 := rfl
  have ascii : '\n'.toNat ≤ 127 := by decide
  rw [encode, ← feed, mem_encodeChars_iff ascii] at mem plain
  exact plain (Text.mem_dropEndBlanks mem rfl)

namespace Request

open Header

variable {d : Bytes} {r : Request} {slots : Nat} {headers : List Header} {name : String}
variable {s : StrictBlock}

/-- What the two readings of a header block have to do with each other, given what is read strictly
and the form of the block. -/
structure Readings (r : Request) (headers : List Header) (name : String) (s : StrictBlock) :
    Prop where
  headers_eq : s.lines.map FieldLine.header = headers
  agree : s.StandsAlone name →
    (r.header? name).map Text.dropEndBlanks = strictValue? headers name
  /-- The line itself has to end in CRLF if the line in front of it does. -/
  agree_iff : s.FollowsCrlf name → (strictValue? headers name).isSome = true →
    ((r.header? name).map Text.dropEndBlanks = strictValue? headers name ↔ s.endingAt name = .crlf)

/-- A request has a header block that ends with its first empty line. -/
theorem exists_block_ends (read : r.ReadFrom d) :
    ∃ l, Bytes.EndsAtFirst (Bytes.crlf ++ Bytes.crlf) (l ++ (Bytes.crlf ++ r.headerBlock)) := by
  obtain ⟨l, block, rest, head, cut⟩ := exists_cutFrom_of_ofBytes read.ofBytes
  rw [cut.headerBlock]
  exact ⟨l, head.block_ends⟩

theorem header?_eq_strictValue? (read : r.ReadFrom d) (form : s.bytes = r.headerBlock)
    (plain : 58 ∉ Utf8.encode name) (alone : s.StandsAlone name) :
    (r.header? name).map Text.dropEndBlanks =
      strictValue? (s.lines.map FieldLine.header) name := by
  rw [strictValue?_map, header?, ← form]
  cases found : s.lines.find? (·.isNamed name) with
  | none =>
    obtain ⟨l, block⟩ := exists_block_ends read
    rw [s.find?_eq_none plain alone found (form ▸ block)]
    rfl
  | some l =>
    rw [s.find?_of_standsAlone plain alone found]
    exact Utf8.map_dropEndBlanks_decode? (fun _ => l.isBlank_of_mem_getLast?)
      fun _ => l.isBlank_of_mem_after

theorem header?_ne_strictValue? (form : s.bytes = r.headerBlock) (plain : 58 ∉ Utf8.encode name)
    (follows : s.FollowsCrlf name) (ending : s.endingAt name = .lf)
    (text : (strictValue? (s.lines.map FieldLine.header) name).isSome = true) :
    (r.header? name).map Text.dropEndBlanks ≠
      strictValue? (s.lines.map FieldLine.header) name := by
  rw [strictValue?_map] at text ⊢
  obtain ⟨value, valued⟩ := Option.isSome_iff_exists.1 text
  obtain ⟨l, found, decoded⟩ := Option.bind_eq_some_iff.1 valued
  obtain ⟨named, more, split⟩ := s.exists_lines_eq found
  obtain ⟨b, search⟩ := s.find?_bytes plain follows split
  rw [StrictBlock.endingAt, found] at ending
  obtain ⟨behind, overlong⟩ := FieldLine.find?_of_lf plain named ending b
  rw [valued, header?, ← form, search, overlong, Option.bind_some]
  refine Utf8.map_dropEndBlanks_ne (List.mem_append_right _ List.mem_cons_self) ?_
  rw [← Utf8.decode?_eq_some_iff.1 decoded]
  exact fun mem => (isValueByte_plain (l.isValueByte_of_mem mem)).2 rfl

/-- **The two readings of a header block agree on every name whose first line stands alone**, and on
no other if the line in front ends in CRLF. -/
theorem readings_agree (read : r.ReadFrom d) (strict : r.headers slots = .ok headers)
    (token : ∀ b ∈ Utf8.encode name, isTokenByte b = true) :
    (∃ s : StrictBlock, s.bytes = r.headerBlock) ∧
      ∀ s : StrictBlock, s.bytes = r.headerBlock → r.Readings headers name s := by
  have plain : 58 ∉ Utf8.encode name := fun mem => (isTokenByte_plain (token 58 mem)).2.1 rfl
  obtain ⟨s₀, form₀, -, rfl⟩ := readBlock_eq_ok_iff.1 strict
  refine ⟨⟨s₀, form₀⟩, fun s form => ?_⟩
  have same := headers_unique (form.trans form₀.symm)
  rw [← same]
  refine ⟨rfl, header?_eq_strictValue? read form plain, fun follows text => ?_⟩
  constructor
  · intro agree
    cases ending : s.endingAt name with
    | crlf => rfl
    | lf => exact absurd agree (header?_ne_strictValue? form plain follows ending text)
  · exact fun ends => header?_eq_strictValue? read form plain ⟨follows, ends⟩

/-- A header behind two that the search takes for one, with a tab in front of its value and a space
behind. -/
theorem readings_agree_behind_lineFeed :
    let sent := Utf8.encode "GET / HTTP/1.1\r\nX: 0\nHost: a\r\nLength:\t5 \r\n\r\n"
    let s : StrictBlock := {
      lines := [
        { name := Utf8.encode "X", before := [32], value := [48], after := [], ending := .lf },
        { name := Utf8.encode "Host", before := [32], value := [97], after := [], ending := .crlf },
        { name := Utf8.encode "Length", before := [9], value := [53], after := [32],
          ending := .crlf }]
      ending := .crlf
      rest := [] }
    ∃ r : Request, r.ReadFrom sent ∧
      r.headers 3 = .ok [⟨"X", [48]⟩, ⟨"Host", [97]⟩, ⟨"Length", [53]⟩] ∧
        (∀ b ∈ Utf8.encode "length", isTokenByte b = true) ∧ s.bytes = r.headerBlock ∧
          s.StandsAlone "length" ∧
            r.Readings [⟨"X", [48]⟩, ⟨"Host", [97]⟩, ⟨"Length", [53]⟩] "length" s := by
  intro sent s
  let r : Request := {
    bytes := sent
    line := ⟨.ofString "GET", .ofString "/", .empty, 1, 1⟩
    headerBlock := Utf8.encode "X: 0\nHost: a\r\nLength:\t5 \r\n\r\n"
    body := []
    contentLength := 0 }
  have read : r.ReadFrom sent := .whole (by decide +kernel)
  have strict : r.headers 3 = .ok [⟨"X", [48]⟩, ⟨"Host", [97]⟩, ⟨"Length", [53]⟩] := by
    decide +kernel
  have token : ∀ b ∈ Utf8.encode "length", isTokenByte b = true := by decide +kernel
  have form : s.bytes = r.headerBlock := by decide +kernel
  have alone : s.StandsAlone "length" := ⟨by decide +kernel, by decide +kernel⟩
  exact ⟨r, read, strict, token, form, alone, (readings_agree read strict token).2 s form⟩

/-- Two header lines of which the first one ends in a line feed alone. The search has one line in
their place. -/
theorem lineFeed_hides_header :
    let sent := Utf8.encode "GET / HTTP/1.1\r\nA: 1\nB: 2\r\n\r\n"
    let headers : List Header := [⟨"A", [49]⟩, ⟨"B", [50]⟩]
    ∃ r, ofBytes sent = .ok r ∧ r.headers 2 = .ok headers ∧
      (r.header? "A" = some "1\nB: 2" ∧ strictValue? headers "A" = some "1") ∧
        r.header? "B" = none ∧ strictValue? headers "B" = some "2" := by
  intro sent headers
  let r : Request := {
    bytes := sent
    line := ⟨.ofString "GET", .ofString "/", .empty, 1, 1⟩
    headerBlock := Utf8.encode "A: 1\nB: 2\r\n\r\n"
    body := []
    contentLength := 0 }
  exact ⟨r, by decide +kernel, by decide +kernel, ⟨by decide +kernel, by decide +kernel⟩,
    by decide +kernel, by decide +kernel⟩

end Request

end DeviceHttp
